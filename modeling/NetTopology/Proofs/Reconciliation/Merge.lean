/-
# Merging loses nothing

The parts of the reconciliation are merged by writing one after the other into
one set, and most parts are themselves written from a list. A key that is
written twice would silently replace a relation. This never happens: within a
part, different records that count have different keys, and between parts the
kind tells the keys apart, whatever predicates the devices report. The merged
set is therefore as large as its parts together, and holds each of them as it is.
-/

import NetTopology.Proofs.Reconciliation
import NetTopology.Proofs.Relation.Pairing
import NetTopology.Proofs.Selection
import Mathlib.Data.List.Induction

namespace NetTopology.Network

/-- The parts that are merged into the declared links, in this order. -/
def Part.observed : List Part :=
  [.nextHop, .selection, .links, .multicast, .igmp]

section

variable (net : Network)

/-- The declared links after the relations of further parts are merged in. -/
def mergedWith (parts : List Part) : RelationSet :=
  parts.foldl (fun set part => set.extend (net.relationsOf part)) (net.relationsOf .declared)

theorem mergedWith_observed : net.mergedWith Part.observed = net.relations := rfl

theorem mergedWith_concat (parts : List Part) (part : Part) :
    net.mergedWith (parts ++ [part]) = (net.mergedWith parts).extend (net.relationsOf part) := by
  rw [mergedWith, mergedWith, List.foldl_append, List.foldl_cons, List.foldl_nil]

end

variable {net : Network}

/-- Merging some parts leaves the keys of all others free. -/
theorem get?_mergedWith_eq_none {key : Relation.Key} {parts : List Part}
    (hother : key.kind.part ∉ Part.declared :: parts) :
    (net.mergedWith parts).get? key = none := by
  induction parts using List.reverseRecOn with
  | nil => exact get?_relationsOf_eq_none (by simpa using hother)
  | append_singleton parts part ih =>
      rw [mergedWith_concat, RelationSet.get?_extend]
      have hpart : key.kind.part ≠ part := by
        rintro rfl
        exact hother (by simp)
      have hparts : key.kind.part ∉ Part.declared :: parts := by
        intro hmem
        apply hother
        rw [← List.cons_append]
        exact List.mem_append_left _ hmem
      rw [get?_relationsOf_eq_none hpart, ih hparts]
      rfl

/-- A part that is merged in replaces nothing. -/
theorem replaced_mergedWith_eq_nil {parts : List Part} {part : Part}
    (hnew : part ∉ Part.declared :: parts) :
    (net.mergedWith parts).replaced (net.relationsOf part).toList = [] := by
  rw [RelationSet.replaced_eq_nil_iff]
  refine ⟨RelationSet.nodup_keys_toList _, ?_⟩
  intro relation hmem
  apply get?_mergedWith_eq_none
  have hpart : relation.key.kind.part = part := part_kind_of_mem_relationsOf hmem
  rwa [hpart]

/-- A part that is merged in adds all of its relations. -/
theorem size_mergedWith_concat (net : Network) (parts : List Part) (part : Part)
    (hnew : part ∉ Part.declared :: parts) :
    (net.mergedWith (parts ++ [part])).size =
      (net.mergedWith parts).size + (net.relationsOf part).size := by
  have hsize := RelationSet.size_insertAll (net.mergedWith parts) (net.relationsOf part).toList
  rw [replaced_mergedWith_eq_nil hnew, RelationSet.length_toList] at hsize
  rw [mergedWith_concat]
  exact hsize

theorem size_relations (net : Network) :
    net.relations.size =
      net.catalog.declaredRelations.size + net.nextHopRelations.size +
        net.selectionRelations.size + net.linkRelations.size + net.multicastRelations.size +
          net.membershipRelations.size := by
  have hnextHop := size_mergedWith_concat net [] .nextHop (by decide)
  have hselection := size_mergedWith_concat net [.nextHop] .selection (by decide)
  have hlinks := size_mergedWith_concat net [.nextHop, .selection] .links (by decide)
  have hmulticast :=
    size_mergedWith_concat net [.nextHop, .selection, .links] .multicast (by decide)
  have higmp :=
    size_mergedWith_concat net [.nextHop, .selection, .links, .multicast] .igmp (by decide)
  simp only [List.nil_append, List.cons_append] at hnextHop hselection hlinks hmulticast higmp
  rw [← mergedWith_observed, Part.observed, higmp, hmulticast, hlinks, hselection, hnextHop]
  rfl

/-- Of each kind the whole set has what the part of that kind has. -/
theorem ofKind_relations_eq (net : Network) (kind : Relation.Kind) :
    net.relations.ofKind kind = (net.relationsOf kind.part).ofKind kind := by
  apply RelationSet.ofKind_eq
  rintro key rfl
  exact get?_relations key

/-- Relations that are drawn into an empty set under different keys replace nothing. -/
theorem replaced_empty_eq_nil {relations : List Relation}
    (hdistinct : (relations.map Relation.key).Nodup) :
    (∅ : RelationSet).replaced relations = [] := by
  rw [RelationSet.replaced_eq_nil_iff]
  refine ⟨hdistinct, ?_⟩
  intro relation _
  exact RelationSet.get?_empty relation.key

/-- The whole set has, of each kind, exactly the relations of the part that is
responsible for the kind, the parts have no relations of other kinds, and its
size is the sum of their sizes. No relation is replaced while the parts are
merged into the declared links one after the other, nor while the pairs of next
hops, the pairs of adjacencies or the selected paths become relations. -/
theorem relations_eq_merged_parts (net : Network) :
    (∀ kind, net.relations.ofKind kind = (net.relationsOf kind.part).ofKind kind) ∧
    (∀ part, ∀ relation ∈ (net.relationsOf part).toList, relation.kind.part = part) ∧
    (net.relations.size =
      net.catalog.declaredRelations.size + net.nextHopRelations.size +
        net.selectionRelations.size + net.linkRelations.size + net.multicastRelations.size +
          net.membershipRelations.size) ∧
    (net.mergedWith Part.observed = net.relations ∧
      ∀ earlier part later, Part.observed = earlier ++ part :: later →
        (net.mergedWith earlier).replaced (net.relationsOf part).toList = []) ∧
    (∅ : RelationSet).replaced ((pairUp (lastWrites net.hops)).map NextHop.relation) = [] ∧
    (∅ : RelationSet).replaced
      ((pairUp (lastWrites net.adjacencies)).map Adjacency.relation) = [] ∧
    (∅ : RelationSet).replaced ((lastWrites net.selections).toList.map fun (path, resolved) =>
      Selection.relation path resolved) = [] := by
  refine ⟨ofKind_relations_eq net, fun part relation => part_kind_of_mem_relationsOf,
    size_relations net, ⟨mergedWith_observed net, ?_⟩, ?_, ?_, ?_⟩
  · intro earlier part later horder
    apply replaced_mergedWith_eq_nil
    -- no part occurs twice in the order of merging
    have hdistinct : (Part.declared :: Part.observed).Nodup := by decide
    rw [horder, ← List.cons_append, List.nodup_middle] at hdistinct
    intro hmem
    exact (List.nodup_cons.mp hdistinct).1 (List.mem_append_left _ hmem)
  · exact replaced_empty_eq_nil (nodup_keys_drawn (arc_eq_of_key_eq fun _ => rfl))
  · exact replaced_empty_eq_nil (nodup_keys_drawn (arc_eq_of_key_eq fun _ => rfl))
  · exact replaced_empty_eq_nil (nodup_keys_selections net)

end NetTopology.Network
