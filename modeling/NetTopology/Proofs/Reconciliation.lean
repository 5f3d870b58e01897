/-
# Parts of the reconciliation

Every kind of relation comes from one part of the reconciliation. The parts
therefore never write to each other's keys, and what the whole set holds under
a key is what the part of its kind holds there.
-/

import NetTopology.Proofs.Relation.Set
import NetTopology.Reconciliation

namespace NetTopology

def Relation.Kind.part : Relation.Kind → Network.Part
  | .declared => .declared
  | .nextHop => .nextHop
  | .selection => .selection
  | .link => .links
  | .multicastUpstream | .multicastDownstream | .multicastGateway => .multicast
  | .igmp => .igmp

namespace Network

variable {net : Network}

/-- The relations of the multicast trees are edges of three kinds. -/
theorem part_kind_of_mem_multicastRelations {relation : Relation}
    (hmem : relation ∈ net.multicastRelations.toList) : relation.kind.part = .multicast := by
  obtain ⟨device, -, hdevice⟩ := List.mem_flatMap.mp (RelationSet.mem_of_mem_toList_ofList hmem)
  obtain ⟨route, -, hroute⟩ := List.mem_flatMap.mp hdevice
  rw [List.mem_append, List.mem_append] at hroute
  rcases hroute with (hupstream | hdownstream) | hgateway
  · obtain ⟨upstream, -, rfl⟩ := List.mem_map.mp hupstream
    rfl
  · obtain ⟨membership, -, hreporter⟩ := List.mem_filterMap.mp hdownstream
    obtain ⟨reporter, -, rfl⟩ := Option.map_eq_some_iff.mp hreporter
    rfl
  · rw [gatewayEdges] at hgateway
    split at hgateway
    · cases hgateway
    · obtain ⟨gateway, -, rfl⟩ := List.mem_map.mp hgateway
      rfl

/-- A part of the reconciliation only has relations of its own kinds. -/
theorem part_kind_of_mem_relationsOf {part : Part} {relation : Relation}
    (hmem : relation ∈ (net.relationsOf part).toList) : relation.kind.part = part := by
  cases part with
  | declared =>
      obtain ⟨link, -, rfl⟩ := List.mem_map.mp (RelationSet.mem_of_mem_toList_ofList hmem)
      rfl
  | nextHop =>
      obtain ⟨pair, -, rfl⟩ := List.mem_map.mp (RelationSet.mem_of_mem_toList_ofList hmem)
      rfl
  | selection =>
      obtain ⟨path, -, rfl⟩ := List.mem_map.mp (RelationSet.mem_of_mem_toList_ofList hmem)
      rfl
  | links =>
      obtain ⟨pair, -, rfl⟩ := List.mem_map.mp (RelationSet.mem_of_mem_toList_ofList hmem)
      rfl
  | multicast => exact part_kind_of_mem_multicastRelations hmem
  | igmp =>
      obtain ⟨device, -, hdevice⟩ :=
        List.mem_flatMap.mp (RelationSet.mem_of_mem_toList_ofList hmem)
      obtain ⟨membership, -, hreporter⟩ := List.mem_filterMap.mp hdevice
      obtain ⟨reporter, -, rfl⟩ := Option.map_eq_some_iff.mp hreporter
      rfl

/-- A part has nothing under the keys of other parts. -/
theorem get?_relationsOf_eq_none {part : Part} {key : Relation.Key} (hother : key.kind.part ≠ part) :
    (net.relationsOf part).get? key = none := by
  rw [RelationSet.get?_eq_none_iff]
  rintro relation hmem rfl
  exact hother (part_kind_of_mem_relationsOf hmem)

/-- Under each key the whole set has what the part of its kind has. -/
theorem get?_relations (key : Relation.Key) :
    net.relations.get? key = (net.relationsOf key.kind.part).get? key := by
  have hnone (part : Part) (hother : key.kind.part ≠ part) :
      (net.relationsOf part).get? key = none := get?_relationsOf_eq_none hother
  rw [relations]
  simp only [RelationSet.get?_extend]
  cases hpart : key.kind.part <;> simp [hpart, hnone]

/-- A relation is in the whole set when it is in the part of its kind. -/
theorem mem_relations_iff {relation : Relation} :
    relation ∈ net.relations.toList ↔
      relation ∈ (net.relationsOf relation.kind.part).toList := by
  rw [RelationSet.mem_toList_iff, RelationSet.mem_toList_iff, get?_relations]

end Network

end NetTopology
