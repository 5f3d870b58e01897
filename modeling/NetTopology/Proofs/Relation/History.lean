/-
# Relation sets by their history

A relation set is built from the empty one by writing relations and by moving in
other sets that were built in the same way. Whatever was done, the set only
remembers, for each key that was ever written, the relation that was written to
it last; a relation that was moved in counts as written at that moment. Reading
the set lists these relations in the order of their keys, whatever the order of
the writes was.
-/

import NetTopology.Proofs.Address.Subnet
import NetTopology.Proofs.Relation.Set
import Mathlib.Data.List.Dedup

namespace NetTopology

namespace Relation.Key

/-- The order of destinations: an absent one comes before all others. -/
def DstPrecedes : Option Address → Option Address → Prop
  | none, some _ => True
  | some first, some second => first < second
  | _, none => False

/-- The order of keys: by kind, then by the left end, then by the right end, then
by the destination, then by the predicate. -/
def Precedes (first second : Key) : Prop :=
  first.kind.rank < second.kind.rank ∨ first.kind = second.kind ∧
    (first.left < second.left ∨ first.left = second.left ∧
      (first.right < second.right ∨ first.right = second.right ∧
        (DstPrecedes first.dst second.dst ∨ first.dst = second.dst ∧
          compare first.predicate second.predicate = .lt)))

theorem compare_dst_eq_lt_iff {first second : Option Address} :
    compare first second = .lt ↔ DstPrecedes first second := by
  cases first with
  | none =>
      cases second with
      | none => exact iff_of_false nofun id
      | some second => exact iff_of_true rfl trivial
  | some first =>
      cases second with
      | none => exact iff_of_false nofun id
      | some second => exact Address.compare_eq_lt_iff

theorem compare_kind_eq_lt_iff {first second : Kind} :
    compare first second = .lt ↔ first.rank < second.rank :=
  Nat.compare_eq_lt

theorem compare_eq_lt_iff {first second : Key} :
    compare first second = .lt ↔ first.Precedes second := by
  change order first second = .lt ↔ _
  simp only [order, compareLex, compareOn, Ordering.then_eq_lt, compare_kind_eq_lt_iff,
    Address.compare_eq_lt_iff, compare_dst_eq_lt_iff, Std.LawfulEqCmp.compare_eq_iff_eq, Precedes]

end Relation.Key

namespace RelationSet

/-- What was done to an empty set. -/
inductive History where
  /-- Nothing. -/
  | empty
  /-- At last a relation was written. -/
  | insert (earlier : History) (relation : Relation)
  /-- At last another set was moved in. -/
  | extend (earlier other : History)

namespace History

/-- The set that a history leads to. -/
def set : History → RelationSet
  | empty => ∅
  | insert earlier relation => (earlier.set.replace relation).2
  | extend earlier other => earlier.set.extend other.set

/-- The relations of a history in the order in which they were written. Those of
a set that was moved in follow what was written before. -/
def writes : History → List Relation
  | empty => []
  | insert earlier relation => earlier.writes ++ [relation]
  | extend earlier other => earlier.writes ++ other.writes

/-- The relation that was written last under a key. -/
def latest? (history : History) (key : Relation.Key) : Option Relation :=
  (history.writes.filter fun relation => relation.key = key).getLast?

/-- The list has exactly the latest relations that meet a condition, in the
order of their keys. -/
structure Lists (history : History) (condition : Relation → Prop) (relations : List Relation) :
    Prop where
  /-- The keys are increasing, so none of them occurs twice. -/
  ordered : relations.Pairwise fun first second => first.key.Precedes second.key
  /-- A relation is listed when nothing was written under its key after it. -/
  mem_iff : ∀ relation, relation ∈ relations ↔
    history.latest? relation.key = some relation ∧ condition relation

variable {history : History} {key : Relation.Key}

/-! ## The set and the writes -/

theorem latest?_insert (history : History) (relation : Relation) :
    (history.insert relation).latest? key =
      if relation.key = key then some relation else history.latest? key := by
  rw [latest?, writes, List.filter_append, List.getLast?_append]
  by_cases hkey : relation.key = key
  · simp [hkey]
  · simp [hkey, latest?]

theorem latest?_extend (history other : History) :
    (history.extend other).latest? key = (other.latest? key).or (history.latest? key) := by
  rw [latest?, writes, List.filter_append, List.getLast?_append]
  rfl

/-- A key has the relation that was written to it last. -/
theorem get?_set (history : History) (key : Relation.Key) :
    history.set.get? key = history.latest? key := by
  induction history with
  | empty => exact get?_empty key
  | insert earlier relation ih =>
      rw [latest?_insert, ← ih]
      exact get?_insert earlier.set relation key
  | extend earlier other ihEarlier ihOther =>
      rw [latest?_extend, ← ihEarlier, ← ihOther]
      exact get?_extend earlier.set other.set key

theorem mem_toList_set_iff {relation : Relation} :
    relation ∈ history.set.toList ↔ history.latest? relation.key = some relation := by
  rw [mem_toList_iff, get?_set]

/-- The set has exactly the keys that were ever written. -/
theorem mem_keys_iff :
    key ∈ history.set.toList.map Relation.key ↔ key ∈ history.writes.map Relation.key := by
  have hset : key ∈ history.set.toList.map Relation.key ↔ (history.set.get? key).isSome := by
    rw [isSome_get?_iff, List.mem_map]
  rw [hset, get?_set, latest?, Option.isSome_iff_ne_none, ne_eq, List.getLast?_eq_none_iff,
    List.filter_eq_nil_iff, List.mem_map]
  simp only [decide_eq_true_eq, not_forall, not_not, exists_prop]

/-- A set has as many relations as different keys were written. -/
theorem size_set (history : History) :
    history.set.size = (history.writes.map Relation.key).dedup.length := by
  have hkeys : (history.set.toList.map Relation.key).Perm
      (history.writes.map Relation.key).dedup := by
    rw [List.perm_ext_iff_of_nodup (nodup_keys_toList history.set) (List.nodup_dedup _)]
    intro key
    rw [mem_keys_iff, List.mem_dedup]
  rw [← length_toList, ← List.length_map Relation.key, hkeys.length_eq]

/-! ## Reading the set -/

theorem lists_toList (history : History) : history.Lists (fun _ => True) history.set.toList where
  ordered := (pairwise_keys_toList history.set).imp Relation.Key.compare_eq_lt_iff.mp
  mem_iff relation := by rw [mem_toList_set_iff, and_true]

/-- Leaving out relations keeps the order of the others. -/
theorem Lists.filter {condition : Relation → Prop} {relations : List Relation}
    (hlists : history.Lists condition relations) (keep : Relation → Bool) :
    history.Lists (fun relation => condition relation ∧ keep relation) (relations.filter keep) where
  ordered := hlists.ordered.filter keep
  mem_iff relation := by rw [List.mem_filter, hlists.mem_iff, and_assoc]

theorem lists_ofKind (history : History) (kind : Relation.Kind) :
    history.Lists (fun relation => relation.kind = kind) (history.set.ofKind kind) := by
  have hlists := (lists_toList history).filter fun relation => relation.kind == kind
  rw [ofKind]
  simpa only [true_and, beq_iff_eq] using hlists

theorem lists_between (history : History) (kind : Relation.Kind) (left right : Address) :
    history.Lists
      (fun relation => relation.kind = kind ∧ relation.left = left ∧ relation.right = right)
      (history.set.between kind left right) := by
  have hlists := (lists_ofKind history kind).filter fun relation =>
    relation.left == left && relation.right == right
  rw [between]
  simpa only [Bool.and_eq_true, beq_iff_eq] using hlists

/-- Whatever was done to an empty set, reading it lists the relations that were
written last under their keys, in the order of keys: all of them, those of one
kind, or those between two ends. The keys are those that were ever written, and
the size is their number. Looking up a key finds the relation that was written
to it last, which is also what writing to this key replaces. -/
theorem lists_latest_writes (history : History) :
    history.Lists (fun _ => True) history.set.toList ∧
    (∀ kind, history.Lists (fun relation => relation.kind = kind) (history.set.ofKind kind)) ∧
    (∀ kind left right, history.Lists
      (fun relation => relation.kind = kind ∧ relation.left = left ∧ relation.right = right)
      (history.set.between kind left right)) ∧
    (∀ key, key ∈ history.set.toList.map Relation.key ↔ key ∈ history.writes.map Relation.key) ∧
    history.set.size = (history.writes.map Relation.key).dedup.length ∧
    (∀ key, history.set.get? key = history.latest? key) ∧
    ∀ relation, history.set.replace relation =
      (history.latest? relation.key, (history.insert relation).set) := by
  refine ⟨lists_toList history, lists_ofKind history, lists_between history,
    fun _ => mem_keys_iff, size_set history, get?_set history, ?_⟩
  intro relation
  rw [← get?_set]
  rfl

end History

end RelationSet

end NetTopology
