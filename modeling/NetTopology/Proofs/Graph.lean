/-
# Edges of a snapshot

The entities of a snapshot are the devices of its network. An edge that only
one relation leads to, and that this relation leads to once, stands in the
graph once.
-/

import NetTopology.Graph
import NetTopology.Proofs.Relation.Set

namespace NetTopology

namespace Relation

theorem mem_edges_iff {relation : Relation} {edge : Edge} :
    edge ∈ relation.edges ↔
      edge = ⟨relation.left, relation.right, relation.kind⟩ ∨
        relation.style.isSymmetric ∧ edge = ⟨relation.right, relation.left, relation.kind⟩ := by
  rw [edges, List.mem_cons]
  cases relation.style.isSymmetric <;> simp

end Relation

/-- A value that only one element contributes, and contributes once, is counted once. -/
theorem count_flatMap_eq_one {α β : Type} [DecidableEq α] [DecidableEq β] {items : List α}
    {parts : α → List β} {item : α} {value : β} (hnodup : items.Nodup) (hmem : item ∈ items)
    (hone : (parts item).count value = 1)
    (honly : ∀ other ∈ items, value ∈ parts other → other = item) :
    (items.flatMap parts).count value = 1 := by
  obtain ⟨before, after, rfl⟩ := List.append_of_mem hmem
  have hsplit := List.nodup_middle.mp hnodup
  have hbefore : (before.flatMap parts).count value = 0 := by
    rw [List.count_eq_zero, List.mem_flatMap]
    rintro ⟨other, hother, hvalue⟩
    obtain rfl := honly other (by simp [hother]) hvalue
    exact (List.nodup_cons.mp hsplit).1 (by simp [hother])
  have hafter : (after.flatMap parts).count value = 0 := by
    rw [List.count_eq_zero, List.mem_flatMap]
    rintro ⟨other, hother, hvalue⟩
    obtain rfl := honly other (by simp [hother]) hvalue
    exact (List.nodup_cons.mp hsplit).1 (by simp [hother])
  rw [List.flatMap_append, List.flatMap_cons, List.count_append, List.count_append, hbefore,
    hafter, hone]

namespace Network

variable {net : Network} {thresholds : Thresholds}

theorem hasEntity_snapshot_iff {ip : Address} :
    (net.snapshot thresholds).hasEntity ip ↔ ∃ device ∈ net.devices, device.adminIp = ip := by
  simp only [Snapshot.hasEntity, snapshot, List.any_eq_true, List.mem_map, beq_iff_eq]
  constructor
  · rintro ⟨_, ⟨device, hdevice, rfl⟩, hip⟩
    exact ⟨device, hdevice, hip⟩
  · rintro ⟨device, hdevice, hip⟩
    exact ⟨device.entity, ⟨device, hdevice, rfl⟩, hip⟩

theorem edges_graph_snapshot :
    (net.snapshot thresholds).graph.edges =
      (net.relations.toList.filter fun relation =>
        (net.snapshot thresholds).hasEntity relation.left &&
          (net.snapshot thresholds).hasEntity relation.right).flatMap Relation.edges := by
  simp only [Snapshot.graph]
  rfl

/-- An edge of the graph is one of a relation. -/
theorem exists_relation_of_mem_graph {edge : Edge}
    (hedge : edge ∈ (net.snapshot thresholds).graph.edges) :
    ∃ relation ∈ net.relations.toList, edge ∈ relation.edges := by
  rw [edges_graph_snapshot] at hedge
  obtain ⟨relation, hmem, hedge⟩ := List.mem_flatMap.mp hedge
  exact ⟨relation, (List.mem_filter.mp hmem).1, hedge⟩

/-- An edge that one relation between devices leads to, once, and no other
relation does, stands in the graph once. -/
theorem count_graph_eq_one {edge : Edge} {relation : Relation}
    (hmem : relation ∈ net.relations.toList)
    (hleft : ∃ device ∈ net.devices, device.adminIp = relation.left)
    (hright : ∃ device ∈ net.devices, device.adminIp = relation.right)
    (hone : relation.edges.count edge = 1)
    (honly : ∀ other ∈ net.relations.toList, edge ∈ other.edges → other = relation) :
    (net.snapshot thresholds).graph.edges.count edge = 1 := by
  rw [edges_graph_snapshot]
  refine count_flatMap_eq_one ((RelationSet.nodup_toList _).filter _) ?_ hone ?_
  · refine List.mem_filter.mpr ⟨hmem, ?_⟩
    rw [Bool.and_eq_true, hasEntity_snapshot_iff, hasEntity_snapshot_iff]
    exact ⟨hleft, hright⟩
  · intro other hother hedge
    exact honly other (List.mem_filter.mp hother).1 hedge

end Network

end NetTopology
