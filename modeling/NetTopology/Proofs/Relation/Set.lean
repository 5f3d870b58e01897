/-
# What a relation set contains

A relation is found under its own key and under no other one, so relations of a
set that have the same key are the same. A list in which no key occurs twice
becomes the set of exactly its relations, and extending a set by another one
keeps what the other one does not speak about.
-/

import NetTopology.Proofs.LastWrite
import NetTopology.Relation.Set

namespace NetTopology

/-- A list without repetition whose elements are all the same has one element. -/
theorem eq_singleton_of_nodup {α : Type} {items : List α} {item : α} (hnodup : items.Nodup)
    (hmem : item ∈ items) (honly : ∀ other ∈ items, other = item) : items = [item] := by
  rw [← List.perm_singleton, List.perm_ext_iff_of_nodup hnodup (List.nodup_singleton item)]
  intro other
  rw [List.mem_singleton]
  constructor
  · exact honly other
  · rintro rfl
    exact hmem

namespace RelationSet

/-- A relation is found under its own key only. -/
theorem key_eq_of_get?_eq_some {set : RelationSet} {key : Relation.Key} {relation : Relation}
    (hget : set.get? key = some relation) : relation.key = key := by
  obtain ⟨drawing, _, rfl⟩ := Option.map_eq_some_iff.mp hget
  rfl

theorem mem_toList_of_get?_eq_some {set : RelationSet} {key : Relation.Key} {relation : Relation}
    (hget : set.get? key = some relation) : relation ∈ set.toList := by
  rw [mem_toList_iff, key_eq_of_get?_eq_some hget, hget]

/-- Nothing is found under a key that no relation of the set has. -/
theorem get?_eq_none_iff {set : RelationSet} {key : Relation.Key} :
    set.get? key = none ↔ ∀ relation ∈ set.toList, relation.key ≠ key := by
  constructor
  · intro hnone relation hmem hkey
    rw [mem_toList_iff, hkey, hnone] at hmem
    cases hmem
  · intro habsent
    cases hget : set.get? key with
    | none => rfl
    | some relation =>
        exact absurd (key_eq_of_get?_eq_some hget)
          (habsent relation (mem_toList_of_get?_eq_some hget))

/-- A relation of a set is determined by its key. -/
theorem eq_of_mem_of_key_eq {set : RelationSet} {first second : Relation}
    (hfirst : first ∈ set.toList) (hsecond : second ∈ set.toList)
    (hkey : first.key = second.key) : first = second := by
  rw [mem_toList_iff] at hfirst hsecond
  rw [hkey, hsecond] at hfirst
  exact (Option.some.inj hfirst).symm

/-- No key occurs twice in the list of a set. -/
theorem nodup_keys_toList (set : RelationSet) : (set.toList.map Relation.key).Nodup := by
  have hkeys : set.toList.map Relation.key = set.drawings.keys := by
    rw [toList, List.map_map, ← Std.ExtTreeMap.map_fst_toList_eq_keys]
    rfl
  rw [hkeys]
  exact Std.ExtTreeMap.nodup_keys

/-- The list of a set goes in the order of keys. -/
theorem pairwise_keys_toList (set : RelationSet) :
    set.toList.Pairwise fun first second => compare first.key second.key = .lt := by
  rw [toList, List.pairwise_map]
  exact Std.ExtTreeMap.ordered_keys_toList

theorem nodup_toList (set : RelationSet) : set.toList.Nodup :=
  (nodup_keys_toList set).of_map

/-- Without repeated keys a list becomes the set of its relations. -/
theorem mem_toList_ofList_iff {relations : List Relation} {relation : Relation}
    (hdistinct : (relations.map Relation.key).Nodup) :
    relation ∈ (ofList relations).toList ↔ relation ∈ relations := by
  have hkeys : ((relations.map fun relation => (relation.key, relation)).map Prod.fst).Nodup := by
    rwa [List.map_map]
  rw [mem_toList_iff, get?_ofList, lastWriteTo_eq_some_iff hkeys, List.mem_map]
  constructor
  · rintro ⟨other, hother, hpair⟩
    obtain rfl := (Prod.mk.inj hpair).2
    exact hother
  · intro hmem
    exact ⟨relation, hmem, rfl⟩

/-- Every relation of a set that is written as a list is one of the list. -/
theorem mem_of_mem_toList_ofList {relations : List Relation} {relation : Relation}
    (hmem : relation ∈ (ofList relations).toList) : relation ∈ relations := by
  rw [mem_toList_iff, get?_ofList] at hmem
  obtain ⟨other, hother, hpair⟩ := List.mem_map.mp (mem_of_lastWriteTo_eq_some hmem)
  obtain rfl := (Prod.mk.inj hpair).2
  exact hother

theorem isSome_get?_iff {set : RelationSet} {key : Relation.Key} :
    (set.get? key).isSome ↔ ∃ relation ∈ set.toList, relation.key = key := by
  constructor
  · intro hsome
    obtain ⟨relation, hget⟩ := Option.isSome_iff_exists.mp hsome
    exact ⟨relation, mem_toList_of_get?_eq_some hget, key_eq_of_get?_eq_some hget⟩
  · rintro ⟨relation, hmem, rfl⟩
    rw [mem_toList_iff.mp hmem]
    rfl

/-- No key of a list is lost when it becomes a set, and none is added. -/
theorem isSome_get?_ofList_iff {relations : List Relation} {key : Relation.Key} :
    ((ofList relations).get? key).isSome ↔ ∃ relation ∈ relations, relation.key = key := by
  rw [get?_ofList, isSome_lastWriteTo_iff]
  constructor
  · rintro ⟨value, hmem⟩
    obtain ⟨relation, hrelation, hpair⟩ := List.mem_map.mp hmem
    exact ⟨relation, hrelation, congrArg Prod.fst hpair⟩
  · rintro ⟨relation, hmem, rfl⟩
    exact ⟨relation, List.mem_map.mpr ⟨relation, hmem, rfl⟩⟩

/-- What another set says about a key counts more than what was there. -/
theorem get?_extend (set other : RelationSet) (key : Relation.Key) :
    (set.extend other).get? key = (other.get? key).or (set.get? key) := by
  have hkeys :
      ((other.toList.map fun relation => (relation.key, relation)).map Prod.fst).Nodup := by
    rw [List.map_map]
    exact nodup_keys_toList other
  rw [extend, get?_insertAll]
  congr 1
  apply Option.ext
  intro relation
  rw [lastWriteTo_eq_some_iff hkeys, List.mem_map]
  constructor
  · rintro ⟨found, hfound, hpair⟩
    obtain ⟨rfl, rfl⟩ := Prod.mk.inj hpair
    exact mem_toList_iff.mp hfound
  · intro hget
    exact ⟨relation, mem_toList_of_get?_eq_some hget, by rw [key_eq_of_get?_eq_some hget]⟩

/-! ## Writing without replacing -/

/-- The relations that are replaced while those of a list are written, in order. -/
def replaced (set : RelationSet) : List Relation → List Relation
  | [] => []
  | relation :: later =>
    (set.replace relation).1.toList ++ (set.replace relation).2.replaced later

theorem replaced_cons (set : RelationSet) (relation : Relation) (later : List Relation) :
    set.replaced (relation :: later) =
      (set.get? relation.key).toList ++ (set.insert relation).replaced later := rfl

/-- Nothing is replaced when the keys of the list differ and are new to the set. -/
theorem replaced_eq_nil_iff {set : RelationSet} {relations : List Relation} :
    set.replaced relations = [] ↔
      (relations.map Relation.key).Nodup ∧
        ∀ relation ∈ relations, set.get? relation.key = none := by
  induction relations generalizing set with
  | nil => simp [replaced]
  | cons relation later ih =>
      rw [replaced_cons, List.append_eq_nil_iff, Option.toList_eq_nil_iff, ih, List.map_cons,
        List.nodup_cons]
      constructor
      · rintro ⟨hnew, hdistinct, hlater⟩
        have hother (other : Relation) (hmem : other ∈ later) :
            relation.key ≠ other.key ∧ set.get? other.key = none := by
          have hnone := hlater other hmem
          rw [get?_insert] at hnone
          by_cases hkey : relation.key = other.key
          · rw [if_pos hkey] at hnone
            cases hnone
          · rw [if_neg hkey] at hnone
            exact ⟨hkey, hnone⟩
        refine ⟨⟨?_, hdistinct⟩, ?_⟩
        · intro hmem
          obtain ⟨other, hother', hkey⟩ := List.mem_map.mp hmem
          exact (hother other hother').1 hkey.symm
        · intro other hmem
          rcases List.mem_cons.mp hmem with rfl | hmem
          · exact hnew
          · exact (hother other hmem).2
      · rintro ⟨⟨hfresh, hdistinct⟩, hnew⟩
        refine ⟨hnew relation List.mem_cons_self, hdistinct, ?_⟩
        intro other hmem
        have hkey : relation.key ≠ other.key := by
          intro hkey
          exact hfresh (List.mem_map.mpr ⟨other, hmem, hkey.symm⟩)
        rw [get?_insert, if_neg hkey]
        exact hnew other (List.mem_cons_of_mem _ hmem)

theorem size_insert (set : RelationSet) (relation : Relation) :
    (set.insert relation).size + (set.get? relation.key).toList.length = set.size + 1 := by
  have hmem : relation.key ∈ set.drawings ↔ (set.get? relation.key).isSome := by
    rw [get?, Option.isSome_map, Std.ExtTreeMap.isSome_getElem?_iff_mem]
  show (set.drawings.insert relation.key relation.drawing).size + _ = set.drawings.size + 1
  rw [Std.ExtTreeMap.size_insert]
  cases hget : set.get? relation.key with
  | none =>
      rw [hget] at hmem
      rw [if_neg (by simpa using hmem)]
      rfl
  | some found =>
      rw [hget] at hmem
      rw [if_pos (by simpa using hmem)]
      rfl

/-- Every relation of a list makes the set larger, or replaces another one. -/
theorem size_insertAll (set : RelationSet) (relations : List Relation) :
    (set.insertAll relations).size + (set.replaced relations).length =
      set.size + relations.length := by
  induction relations generalizing set with
  | nil => rfl
  | cons relation later ih =>
      have hinsert := size_insert set relation
      have hlater := ih (set.insert relation)
      rw [replaced_cons, List.length_append, List.length_cons]
      show ((set.insert relation).insertAll later).size + _ = _
      omega

theorem length_toList (set : RelationSet) : set.toList.length = set.size := by
  rw [toList, List.length_map, Std.ExtTreeMap.length_toList]
  rfl

/-! ## Two sets -/

/-- When every relation of either set has a counterpart in the other one, the
relations under each key are counterparts. -/
theorem rel_get? {agrees : Relation → Relation → Prop} {set other : RelationSet}
    (hkey : ∀ first second, agrees first second → first.key = second.key)
    (hforth : ∀ relation ∈ set.toList, ∃ counterpart ∈ other.toList, agrees relation counterpart)
    (hback : ∀ relation ∈ other.toList, ∃ counterpart ∈ set.toList, agrees relation counterpart)
    (key : Relation.Key) : Option.Rel agrees (set.get? key) (other.get? key) := by
  have hfound {found : RelationSet} {relation counterpart : Relation}
      (hsame : relation.key = key) (hmem : counterpart ∈ found.toList)
      (hagrees : agrees relation counterpart) : found.get? key = some counterpart := by
    rw [← hsame, hkey relation counterpart hagrees]
    exact mem_toList_iff.mp hmem
  cases hget : set.get? key with
  | some relation =>
      obtain ⟨counterpart, hmem, hagrees⟩ := hforth relation (mem_toList_of_get?_eq_some hget)
      rw [hfound (key_eq_of_get?_eq_some hget) hmem hagrees]
      exact .some hagrees
  | none =>
      cases hother : other.get? key with
      | none => exact .none
      | some relation =>
          -- its counterpart would have been found
          obtain ⟨counterpart, hmem, hagrees⟩ :=
            hback relation (mem_toList_of_get?_eq_some hother)
          have hsome := hfound (key_eq_of_get?_eq_some hother) hmem hagrees
          rw [hget] at hsome
          cases hsome

/-- Sets that show the same under each key show the same as lists. -/
theorem filterMap_toList_eq {α : Type} {view : Relation → Option α} {set other : RelationSet}
    (hview : ∀ key, (set.get? key).bind view = (other.get? key).bind view) :
    set.toList.filterMap view = other.toList.filterMap view := by
  have hviews (set : RelationSet) : set.toList.filterMap view =
      (set.drawings.filterMap fun key drawing => view (.of key drawing)).toList.map Prod.snd := by
    rw [toList, List.filterMap_map, Std.ExtTreeMap.toList_filterMap, List.map_filterMap]
    apply List.filterMap_congr
    intro entry _
    rw [Option.map_map]
    exact Option.map_id'.symm
  rw [hviews, hviews]
  congr 2
  apply Std.ExtTreeMap.ext_getElem?
  intro key
  have hget (set : RelationSet) : (set.get? key).bind view =
      set.drawings[key]?.bind fun drawing => view (.of key drawing) := Option.bind_map
  rw [Std.ExtTreeMap.getElem?_filterMap', Std.ExtTreeMap.getElem?_filterMap', ← hget, ← hget]
  exact hview key

theorem map_toList_eq {α : Type} {view : Relation → α} {set other : RelationSet}
    (hview : ∀ key, (set.get? key).map view = (other.get? key).map view) :
    set.toList.map view = other.toList.map view := by
  rw [← List.filterMap_eq_map]
  apply filterMap_toList_eq
  intro key
  rw [← Option.map_eq_bind, ← Option.map_eq_bind]
  exact hview key

/-- Sets that hold the same under the keys with a property have the same
relations with it. -/
theorem filter_toList_eq (keep : Relation.Key → Bool) {set other : RelationSet}
    (hget : ∀ key, keep key → set.get? key = other.get? key) :
    (set.toList.filter fun relation => keep relation.key) =
      other.toList.filter fun relation => keep relation.key := by
  rw [← List.filterMap_eq_filter]
  apply filterMap_toList_eq
  intro key
  by_cases hkeep : keep key = true
  · rw [hget key hkeep]
  · have hnone (set : RelationSet) :
        (set.get? key).bind (Option.guard fun relation => keep relation.key) = none := by
      rw [Option.bind_eq_none_iff]
      intro relation hrelation
      rw [Option.guard, key_eq_of_get?_eq_some hrelation, if_neg hkeep]
    rw [hnone, hnone]

theorem ofKind_eq {kind : Relation.Kind} {set other : RelationSet}
    (hget : ∀ key : Relation.Key, key.kind = kind → set.get? key = other.get? key) :
    set.ofKind kind = other.ofKind kind := by
  apply filter_toList_eq fun key => key.kind == kind
  intro key hkind
  exact hget key (beq_iff_eq.mp hkind)

theorem filter_ofKind_eq (keep : Relation.Key → Bool) {kind : Relation.Kind}
    {set other : RelationSet}
    (hget : ∀ key : Relation.Key, key.kind = kind → keep key → set.get? key = other.get? key) :
    ((set.ofKind kind).filter fun relation => keep relation.key) =
      (other.ofKind kind).filter fun relation => keep relation.key := by
  rw [ofKind, ofKind, List.filter_filter, List.filter_filter]
  apply filter_toList_eq fun key => keep key && key.kind == kind
  intro key hboth
  rw [Bool.and_eq_true, beq_iff_eq] at hboth
  exact hget key hboth.2 hboth.1

/-- Sets with the same relations under a key hold the same there. -/
theorem get?_eq_of_mem_iff {set other : RelationSet} {key : Relation.Key}
    (hmem : ∀ relation : Relation, relation.key = key →
      (relation ∈ set.toList ↔ relation ∈ other.toList)) :
    set.get? key = other.get? key := by
  apply Option.ext
  intro relation
  constructor
  · intro hget
    have hkey := key_eq_of_get?_eq_some hget
    have hother := (hmem relation hkey).mp (mem_toList_of_get?_eq_some hget)
    rwa [mem_toList_iff, hkey] at hother
  · intro hget
    have hkey := key_eq_of_get?_eq_some hget
    have hset := (hmem relation hkey).mpr (mem_toList_of_get?_eq_some hget)
    rwa [mem_toList_iff, hkey] at hset

/-- Under each key a list leaves the last of its relations with that key. -/
theorem get?_ofList_eq_getLast? (relations : List Relation) (key : Relation.Key) :
    (ofList relations).get? key =
      (relations.filter fun relation => relation.key = key).getLast? := by
  rw [get?_ofList, lastWriteTo_eq_getLast?, List.filter_map, List.getLast?_map, Option.map_map]
  exact Option.map_id'

/-- Only the relations of a list with a key decide what its set holds there. -/
theorem get?_ofList_congr {key : Relation.Key} {relations others : List Relation}
    (hsame : (relations.filter fun relation => relation.key = key) =
      others.filter fun relation => relation.key = key) :
    (ofList relations).get? key = (ofList others).get? key := by
  rw [get?_ofList_eq_getLast?, get?_ofList_eq_getLast?, hsame]

/-! ## Relations between two ends -/

theorem mem_between_iff {set : RelationSet} {kind : Relation.Kind} {left right : Address}
    {relation : Relation} :
    relation ∈ set.between kind left right ↔
      relation ∈ set.toList ∧ relation.kind = kind ∧ relation.left = left ∧
        relation.right = right := by
  simp only [between, ofKind, List.mem_filter, Bool.and_eq_true, beq_iff_eq, and_assoc]

theorem nodup_between (set : RelationSet) (kind : Relation.Kind) (left right : Address) :
    (set.between kind left right).Nodup :=
  ((nodup_toList set).filter _).filter _

/-- The only relation of a kind from one end to another is all there is between them. -/
theorem between_eq_singleton {set : RelationSet} {relation : Relation}
    (hmem : relation ∈ set.toList)
    (honly : ∀ other ∈ set.toList, other.kind = relation.kind → other.left = relation.left →
      other.right = relation.right → other = relation) :
    set.between relation.kind relation.left relation.right = [relation] := by
  apply eq_singleton_of_nodup (nodup_between set _ _ _)
  · exact mem_between_iff.mpr ⟨hmem, rfl, rfl, rfl⟩
  · intro other hother
    obtain ⟨hset, hkind, hleft, hright⟩ := mem_between_iff.mp hother
    exact honly other hset hkind hleft hright

theorem between_eq_nil {set : RelationSet} {kind : Relation.Kind} {left right : Address}
    (habsent : ∀ relation ∈ set.toList, relation.kind = kind → relation.left = left →
      relation.right ≠ right) :
    set.between kind left right = [] := by
  rw [List.eq_nil_iff_forall_not_mem]
  intro relation hmem
  obtain ⟨hset, hkind, hleft, hright⟩ := mem_between_iff.mp hmem
  exact habsent relation hset hkind hleft hright

end RelationSet

end NetTopology
