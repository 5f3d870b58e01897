/-
# Neighbours by declaration

The declared links are read in two ways: for one device, from its own entry and
from those that name it, and for all devices at once, entry by entry. Both agree
whatever the links are: repeated, declared on both sides, to unknown devices or
back to their source. Being linked does not depend on the side that declares the
link, and the devices linked to one are those that a declared relation joins it
with.
-/

import NetTopology.Proofs.Address.Subnet
import NetTopology.Proofs.Catalog.Links
import NetTopology.Proofs.Relation.Set
import NetTopology.Reconciliation
import NetTopology.Samples

namespace NetTopology.Catalog

variable {catalog : Catalog}

/-- The devices linked to a name are listed in order, without repetition. -/
theorem pairwise_lt_linkedAdminIps (catalog : Catalog) (name : String) :
    (catalog.linkedAdminIps name).Pairwise (· < ·) :=
  Address.pairwise_lt_toList_ofList (catalog.outgoingIps name ++ catalog.incomingIps name)

/-- The neighbours of a device are those at the other ends of the declared links. -/
theorem mem_linkedAdminIps_iff_mem_declaredLinks {entry : CatalogEntry}
    (hentry : entry ∈ catalog.entries) {ip : Address} :
    ip ∈ catalog.linkedAdminIps entry.name ↔
      (entry.ip, ip) ∈ catalog.declaredLinks ∨ (ip, entry.ip) ∈ catalog.declaredLinks := by
  rw [mem_linkedAdminIps_iff, mem_declaredLinks_iff, mem_declaredLinks_iff]
  simp only [adminIp?_eq_some_ip_iff hentry, exists_eq_right]
  refine or_congr ?_ ?_
  · -- the name and the address both stand for this entry
    constructor
    · rintro ⟨source, hsource, hname, hlink⟩
      obtain rfl := eq_of_name_eq hsource hentry hname
      exact ⟨source, hsource, rfl, hlink⟩
    · rintro ⟨source, hsource, hip, hlink⟩
      obtain rfl := eq_of_ip_eq hsource hentry hip
      exact ⟨source, hsource, rfl, hlink⟩
  · exact exists_congr fun source => and_congr_right fun _ => and_comm

/-- A declared relation leads from one address to another when a declared link does. -/
theorem exists_declaredRelation_iff {source target : Address} :
    (∃ relation ∈ catalog.declaredRelations.toList,
        relation.kind = .declared ∧ relation.left = source ∧ relation.right = target) ↔
      (source, target) ∈ catalog.declaredLinks := by
  constructor
  · rintro ⟨relation, hmem, -, rfl, rfl⟩
    obtain ⟨⟨source, target⟩, hlink, rfl⟩ :=
      List.mem_map.mp (RelationSet.mem_of_mem_toList_ofList hmem)
    exact hlink
  · intro hlink
    have hwritten : (catalog.declaredRelations.get? (linkRelation source target).key).isSome :=
      RelationSet.isSome_get?_ofList_iff.mpr
        ⟨linkRelation source target, List.mem_map.mpr ⟨_, hlink, rfl⟩, rfl⟩
    obtain ⟨relation, hmem, hkey⟩ := RelationSet.isSome_get?_iff.mp hwritten
    exact ⟨relation, hmem, congrArg Relation.Key.kind hkey, congrArg Relation.Key.left hkey,
      congrArg Relation.Key.right hkey⟩

/-- The devices linked to a device of the catalog are listed in strictly increasing
order. They are those at the other end of a declared link that leads from the
device or to it, and those that a declared relation joins it with, whichever of
the two stands on the left. Two devices of the catalog are linked in both
directions or in none. -/
theorem linkedAdminIps_iff_declared (catalog : Catalog) (entry : CatalogEntry)
    (hentry : entry ∈ catalog.entries) :
    (catalog.linkedAdminIps entry.name).Pairwise (· < ·) ∧
      (∀ ip, ip ∈ catalog.linkedAdminIps entry.name ↔
        (entry.ip, ip) ∈ catalog.declaredLinks ∨ (ip, entry.ip) ∈ catalog.declaredLinks) ∧
      (∀ other ∈ catalog.entries,
        other.ip ∈ catalog.linkedAdminIps entry.name ↔
          entry.ip ∈ catalog.linkedAdminIps other.name) ∧
      ∀ ip, ip ∈ catalog.linkedAdminIps entry.name ↔
        ∃ relation ∈ catalog.declaredRelations.toList, relation.kind = .declared ∧
          (relation.left = entry.ip ∧ relation.right = ip ∨
            relation.left = ip ∧ relation.right = entry.ip) := by
  refine ⟨pairwise_lt_linkedAdminIps catalog entry.name,
    fun ip => mem_linkedAdminIps_iff_mem_declaredLinks hentry, ?_, ?_⟩
  · intro other hother
    rw [mem_linkedAdminIps_iff_mem_declaredLinks hentry,
      mem_linkedAdminIps_iff_mem_declaredLinks hother]
    exact or_comm
  · intro ip
    rw [mem_linkedAdminIps_iff_mem_declaredLinks hentry, ← exists_declaredRelation_iff,
      ← exists_declaredRelation_iff, ← exists_or]
    simp only [and_or_left]

/-- Two routers that name each other. One of them does so twice, and names itself
and an unknown device as well. -/
def crossed : Catalog :=
  Sample.declare
    [("left", { ip := Sample.ip 10 0 0 1, links := ["right", "left", "nowhere", "right"] }),
      ("right", { ip := Sample.ip 10 0 0 2, links := ["left"] })]

/-- Each neighbour of the first router is listed once, the router itself among them. -/
theorem linkedAdminIps_iff_declared_crossed :
    ∃ entry ∈ crossed.entries,
      crossed.linkedAdminIps entry.name = [Sample.ip 10 0 0 1, Sample.ip 10 0 0 2] ∧
      (crossed.linkedAdminIps entry.name).Pairwise (· < ·) ∧
      (∀ ip, ip ∈ crossed.linkedAdminIps entry.name ↔
        (entry.ip, ip) ∈ crossed.declaredLinks ∨ (ip, entry.ip) ∈ crossed.declaredLinks) ∧
      (∀ other ∈ crossed.entries,
        other.ip ∈ crossed.linkedAdminIps entry.name ↔
          entry.ip ∈ crossed.linkedAdminIps other.name) ∧
      ∀ ip, ip ∈ crossed.linkedAdminIps entry.name ↔
        ∃ relation ∈ crossed.declaredRelations.toList, relation.kind = .declared ∧
          (relation.left = entry.ip ∧ relation.right = ip ∨
            relation.left = ip ∧ relation.right = entry.ip) := by
  have hlinked : ∃ entry ∈ crossed.entries,
      crossed.linkedAdminIps entry.name = [Sample.ip 10 0 0 1, Sample.ip 10 0 0 2] := by
    decide +kernel
  obtain ⟨entry, hentry, hneighbours⟩ := hlinked
  exact ⟨entry, hentry, hneighbours, linkedAdminIps_iff_declared crossed entry hentry⟩

end NetTopology.Catalog
