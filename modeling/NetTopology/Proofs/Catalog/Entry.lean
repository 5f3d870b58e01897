/-
# Entries are identified by their names and addresses

Each entry of a catalog stands under its own name, and since no two entries
share an administrative address, an address finds the one entry that has it.
-/

import NetTopology.Catalog
import Mathlib.Data.List.Basic

namespace NetTopology

universe u v

/-- A search for a key that tells all elements apart finds the element with the key. -/
theorem find?_key_eq_some_iff {α : Type u} {κ : Type v} [BEq κ] [LawfulBEq κ] {key : α → κ}
    {items : List α} (hkey : ∀ first ∈ items, ∀ second ∈ items, key first = key second →
      first = second) {wanted : κ} {item : α} :
    (items.find? fun other => key other == wanted) = some item ↔
      item ∈ items ∧ key item = wanted := by
  constructor
  · intro hfind
    exact ⟨List.mem_of_find?_eq_some hfind, by simpa using List.find?_some hfind⟩
  · rintro ⟨hitem, rfl⟩
    cases hfind : items.find? fun other => key other == key item with
    | none => simpa using List.find?_eq_none.mp hfind item hitem
    | some found =>
        have hsame : key found = key item := by simpa using List.find?_some hfind
        rw [hkey found (List.mem_of_find?_eq_some hfind) item hitem hsame]

namespace Catalog

variable {catalog : Catalog}

theorem get?_eq_some_iff {name : String} {entry : CatalogEntry} :
    catalog.get? name = some entry ↔ entry.name = name ∧ entry ∈ catalog.entries := by
  rw [mem_entries_iff, get?, Option.map_eq_some_iff]
  constructor
  · rintro ⟨declaration, hdeclaration, rfl⟩
    exact ⟨rfl, hdeclaration⟩
  · rintro ⟨rfl, hdeclaration⟩
    exact ⟨entry.toDeclaration, hdeclaration, rfl⟩

theorem get?_eq_none_iff {name : String} :
    catalog.get? name = none ↔ catalog.declarations[name]? = none := by
  rw [get?, Option.map_eq_none_iff]

/-- An entry is identified by its name. -/
theorem eq_of_name_eq {first second : CatalogEntry} (hfirst : first ∈ catalog.entries)
    (hsecond : second ∈ catalog.entries) (hname : first.name = second.name) : first = second := by
  have hfound : catalog.get? second.name = some first := get?_eq_some_iff.mpr ⟨hname, hfirst⟩
  rw [get?_eq_some_iff.mpr ⟨rfl, hsecond⟩] at hfound
  exact (Option.some.inj hfound).symm

/-- An entry is identified by its administrative address. -/
theorem eq_of_ip_eq {first second : CatalogEntry} (hfirst : first ∈ catalog.entries)
    (hsecond : second ∈ catalog.entries) (hip : first.ip = second.ip) : first = second := by
  refine eq_of_name_eq hfirst hsecond ?_
  rw [mem_entries_iff] at hfirst hsecond
  exact catalog.separatesIps _ _ _ _ hfirst hsecond hip

/-- An address finds an entry exactly when the entry has it. -/
theorem byAdminIp?_eq_some_iff {ip : Address} {entry : CatalogEntry} :
    catalog.byAdminIp? ip = some entry ↔ catalog.get? entry.name = some entry ∧ entry.ip = ip := by
  rw [get?_eq_some_iff, eq_self_iff_true, true_and]
  exact find?_key_eq_some_iff fun _ hfirst _ hsecond => eq_of_ip_eq hfirst hsecond

end Catalog

end NetTopology
