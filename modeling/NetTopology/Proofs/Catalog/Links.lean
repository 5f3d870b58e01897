/-
# Linked devices

A link is declared on one side and counts for both: the devices linked to a
name are the known ones that its entry names, and those whose entry names it.
A device is therefore linked to itself exactly when its own entry says so.
-/

import NetTopology.Proofs.Catalog.Entry

namespace NetTopology.Catalog

variable {catalog : Catalog}

theorem adminIp?_eq_some_iff {name : String} {ip : Address} :
    catalog.adminIp? name = some ip ↔
      ∃ entry ∈ catalog.entries, entry.name = name ∧ entry.ip = ip := by
  rw [adminIp?, Option.map_eq_some_iff]
  constructor
  · rintro ⟨declaration, hdeclaration, rfl⟩
    exact ⟨CatalogEntry.of name declaration, mem_entries_iff.mpr hdeclaration, rfl, rfl⟩
  · rintro ⟨entry, hentry, rfl, rfl⟩
    exact ⟨entry.toDeclaration, mem_entries_iff.mp hentry, rfl⟩

/-- The address of an entry is found under the name of the entry only. -/
theorem adminIp?_eq_some_ip_iff {entry : CatalogEntry} (hentry : entry ∈ catalog.entries)
    {name : String} : catalog.adminIp? name = some entry.ip ↔ name = entry.name := by
  rw [adminIp?_eq_some_iff]
  constructor
  · rintro ⟨found, hfound, rfl, hip⟩
    rw [eq_of_ip_eq hfound hentry hip]
  · rintro rfl
    exact ⟨entry, hentry, rfl, rfl⟩

theorem mem_outgoingIps_iff {name : String} {ip : Address} :
    ip ∈ catalog.outgoingIps name ↔
      ∃ entry ∈ catalog.entries, entry.name = name ∧
        ∃ target ∈ entry.links, catalog.adminIp? target = some ip := by
  rw [outgoingIps]
  constructor
  · intro hmem
    cases hentry : catalog.get? name with
    | none =>
        rw [hentry] at hmem
        cases hmem
    | some entry =>
        rw [hentry] at hmem
        obtain ⟨hname, hentry⟩ := get?_eq_some_iff.mp hentry
        exact ⟨entry, hentry, hname, List.mem_filterMap.mp hmem⟩
  · rintro ⟨entry, hentry, hname, htarget⟩
    rw [get?_eq_some_iff.mpr ⟨hname, hentry⟩]
    exact List.mem_filterMap.mpr htarget

theorem mem_incomingIps_iff {name : String} {ip : Address} :
    ip ∈ catalog.incomingIps name ↔
      ∃ entry ∈ catalog.entries, name ∈ entry.links ∧ entry.ip = ip := by
  simp only [incomingIps, List.mem_map, List.mem_filter, List.contains_iff_mem, and_assoc]

/-- The devices linked to a name are those that its entry links to, and those
whose entry links to the name. -/
theorem mem_linkedAdminIps_iff {name : String} {ip : Address} :
    ip ∈ catalog.linkedAdminIps name ↔
      (∃ entry ∈ catalog.entries, entry.name = name ∧
        ∃ target ∈ entry.links, catalog.adminIp? target = some ip) ∨
      ∃ entry ∈ catalog.entries, name ∈ entry.links ∧ entry.ip = ip := by
  rw [linkedAdminIps, Std.ExtTreeSet.mem_toList, Std.ExtTreeSet.mem_ofList, List.contains_iff_mem,
    List.mem_append, mem_outgoingIps_iff, mem_incomingIps_iff]

/-- A device is linked to itself when its own entry declares the link. -/
theorem ip_mem_linkedAdminIps_iff {entry : CatalogEntry} (hentry : entry ∈ catalog.entries) :
    entry.ip ∈ catalog.linkedAdminIps entry.name ↔ entry.name ∈ entry.links := by
  rw [mem_linkedAdminIps_iff]
  simp only [adminIp?_eq_some_ip_iff hentry, exists_eq_right]
  constructor
  · rintro (⟨source, hsource, hname, hlink⟩ | ⟨source, hsource, hlink, hip⟩)
    · obtain rfl := eq_of_name_eq hsource hentry hname
      exact hlink
    · obtain rfl := eq_of_ip_eq hsource hentry hip
      exact hlink
  · intro hlink
    exact Or.inr ⟨entry, hentry, hlink, rfl⟩

/-- The declared links lead from the entries to the known devices that they name. -/
theorem mem_declaredLinks_iff {source target : Address} :
    (source, target) ∈ catalog.declaredLinks ↔
      ∃ entry ∈ catalog.entries, entry.ip = source ∧
        ∃ name ∈ entry.links, catalog.adminIp? name = some target := by
  simp only [declaredLinks, List.mem_flatMap, List.mem_map, List.mem_filterMap, Prod.mk.injEq]
  constructor
  · rintro ⟨entry, hentry, ip, hlink, rfl, rfl⟩
    exact ⟨entry, hentry, rfl, hlink⟩
  · rintro ⟨entry, hentry, rfl, hlink⟩
    exact ⟨entry, hentry, target, hlink, rfl, rfl⟩

end NetTopology.Catalog
