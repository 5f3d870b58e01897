/-
# Sets of relations

A relation set holds one drawing for each key. Writing a relation replaces the
one with the same key, and reading the set goes in the order of keys whatever
the order of the writes was. `toList` is the view by which the operations are
described.
-/

import NetTopology.LastWrite
import NetTopology.Relation

namespace NetTopology

/-- Relations, at most one for each key. -/
structure RelationSet where
  /-- The drawing of each key. -/
  drawings : Std.ExtTreeMap Relation.Key Relation.Drawing
  deriving Inhabited

namespace RelationSet

instance : EmptyCollection RelationSet := ⟨⟨∅⟩⟩

/-- The relations in the order of their keys. -/
def toList (set : RelationSet) : List Relation :=
  set.drawings.toList.map fun (key, drawing) => Relation.of key drawing

def get? (set : RelationSet) (key : Relation.Key) : Option Relation :=
  set.drawings[key]?.map (Relation.of key)

def insert (set : RelationSet) (relation : Relation) : RelationSet :=
  ⟨set.drawings.insert relation.key relation.drawing⟩

/-- Write a relation, and tell which one it replaces. -/
def replace (set : RelationSet) (relation : Relation) : Option Relation × RelationSet :=
  (set.get? relation.key, set.insert relation)

/-- Write the relations of a list, one after the other. -/
def insertAll (set : RelationSet) (relations : List Relation) : RelationSet :=
  relations.foldl insert set

/-- The set of the relations of a list, the last one of each key. -/
def ofList (relations : List Relation) : RelationSet :=
  insertAll ∅ relations

/-- Write all relations of another set into this one. -/
def extend (set other : RelationSet) : RelationSet :=
  set.insertAll other.toList

def size (set : RelationSet) : Nat :=
  set.drawings.size

def isEmpty (set : RelationSet) : Bool :=
  set.drawings.isEmpty

/-- The relations of one kind, in order. -/
def ofKind (set : RelationSet) (kind : Relation.Kind) : List Relation :=
  set.toList.filter fun relation => relation.kind == kind

/-- The relations of one kind from `left` to `right`, in order. -/
def between (set : RelationSet) (kind : Relation.Kind) (left right : Address) : List Relation :=
  (set.ofKind kind).filter fun relation => relation.left == left && relation.right == right

/-- Nothing is in the empty set. -/
@[simp]
theorem get?_empty (key : Relation.Key) : (∅ : RelationSet).get? key = none := by
  change ((∅ : Std.ExtTreeMap Relation.Key Relation.Drawing)[key]?).map (Relation.of key) = none
  simp

/-- A written relation is found under its key, and the other keys are left alone. -/
theorem get?_insert (set : RelationSet) (relation : Relation) (key : Relation.Key) :
    (set.insert relation).get? key = if relation.key = key then some relation else set.get? key := by
  simp only [get?, insert, Std.ExtTreeMap.getElem?_insert, Std.LawfulEqCmp.compare_eq_iff_eq]
  by_cases hkey : relation.key = key
  · subst hkey
    simp [Relation.of]
  · simp [hkey]

/-- The relations of a set are those found under their own key. -/
theorem mem_toList_iff {set : RelationSet} {relation : Relation} :
    relation ∈ set.toList ↔ set.get? relation.key = some relation := by
  constructor
  · intro hmem
    obtain ⟨⟨key, drawing⟩, hpair, rfl⟩ := List.mem_map.mp hmem
    have hget : set.drawings[key]? = some drawing :=
      Std.ExtTreeMap.mem_toList_iff_getElem?_eq_some.mp hpair
    simp [get?, Relation.of, hget]
  · intro hget
    obtain ⟨drawing, hdrawing, hof⟩ := Option.map_eq_some_iff.mp hget
    exact List.mem_map.mpr
      ⟨(relation.key, drawing), Std.ExtTreeMap.mem_toList_iff_getElem?_eq_some.mpr hdrawing, hof⟩

/-- After some writes, a key has the last relation written to it, or what it
had before. -/
theorem get?_insertAll (set : RelationSet) (relations : List Relation) (key : Relation.Key) :
    (set.insertAll relations).get? key =
      (lastWriteTo key (relations.map fun relation => (relation.key, relation))).or
        (set.get? key) := by
  induction relations generalizing set with
  | nil => simp [insertAll, lastWriteTo]
  | cons relation later ih =>
    have hstep : set.insertAll (relation :: later) = (set.insert relation).insertAll later := rfl
    rw [hstep, ih, get?_insert, List.map_cons, lastWriteTo, Option.or_assoc]
    by_cases hkey : relation.key = key
    · simp [hkey]
    · simp [hkey]

/-- A list of relations gives the last one of each key. -/
theorem get?_ofList (relations : List Relation) (key : Relation.Key) :
    (ofList relations).get? key =
      lastWriteTo key (relations.map fun relation => (relation.key, relation)) := by
  simp [ofList, get?_insertAll]

end RelationSet

end NetTopology
