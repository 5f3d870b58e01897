/-
# Which write is the last one

The last write to a key is a write of the list, every key that is written has
one, and a list that writes each key at most once loses nothing. The same
statements describe sets of relations and observations, which are both filled
by writing lists in order. Where a record is only written if it meets a
condition, the last write is found by looking for such a record from the end.
-/

import NetTopology.LastWrite
import Mathlib.Data.List.Nodup

namespace NetTopology

universe u v

variable {κ : Type u} {ν : Type v} [DecidableEq κ]

/-- The last write to a key is the last element of the list with that key. -/
theorem lastWriteTo_eq_getLast? (key : κ) (writes : List (κ × ν)) :
    lastWriteTo key writes = ((writes.filter fun write => write.1 = key).getLast?).map Prod.snd := by
  induction writes with
  | nil => rfl
  | cons write later ih =>
      rw [lastWriteTo, ih]
      by_cases hkey : write.1 = key
      · rw [List.filter_cons_of_pos (by simpa using hkey), List.getLast?_cons, if_pos hkey]
        cases (later.filter fun write => write.1 = key).getLast? <;> simp
      · rw [List.filter_cons_of_neg (by simpa using hkey), if_neg hkey, Option.or_none]

theorem mem_of_lastWriteTo_eq_some {key : κ} {value : ν} {writes : List (κ × ν)}
    (hlast : lastWriteTo key writes = some value) : (key, value) ∈ writes := by
  rw [lastWriteTo_eq_getLast?, Option.map_eq_some_iff] at hlast
  obtain ⟨write, hwrite, rfl⟩ := hlast
  obtain ⟨hmem, hkey⟩ := List.mem_filter.mp (List.mem_of_getLast? hwrite)
  obtain rfl : write.1 = key := by simpa using hkey
  exact hmem

/-- A key that is written has a last write. -/
theorem exists_lastWriteTo_eq_some {key : κ} {value : ν} {writes : List (κ × ν)}
    (hmem : (key, value) ∈ writes) : ∃ last, lastWriteTo key writes = some last := by
  have hfiltered : (key, value) ∈ writes.filter fun write => write.1 = key :=
    List.mem_filter.mpr ⟨hmem, by simp⟩
  cases hlast : (writes.filter fun write => write.1 = key).getLast? with
  | none =>
      rw [List.getLast?_eq_none_iff] at hlast
      rw [hlast] at hfiltered
      cases hfiltered
  | some write => exact ⟨write.2, by rw [lastWriteTo_eq_getLast?, hlast, Option.map_some]⟩

theorem isSome_lastWriteTo_iff {key : κ} {writes : List (κ × ν)} :
    (lastWriteTo key writes).isSome ↔ ∃ value, (key, value) ∈ writes := by
  rw [Option.isSome_iff_exists]
  constructor
  · rintro ⟨value, hlast⟩
    exact ⟨value, mem_of_lastWriteTo_eq_some hlast⟩
  · rintro ⟨value, hmem⟩
    exact exists_lastWriteTo_eq_some hmem

/-- When no key is written twice, every write is the last one to its key. -/
theorem lastWriteTo_eq_some_iff {key : κ} {value : ν} {writes : List (κ × ν)}
    (hdistinct : (writes.map Prod.fst).Nodup) :
    lastWriteTo key writes = some value ↔ (key, value) ∈ writes := by
  constructor
  · exact mem_of_lastWriteTo_eq_some
  · intro hmem
    obtain ⟨last, hlast⟩ := exists_lastWriteTo_eq_some hmem
    have hsame := List.inj_on_of_nodup_map hdistinct (mem_of_lastWriteTo_eq_some hlast) hmem rfl
    rw [hlast, (Prod.mk.inj hsame).2]

section

variable {α : Type u} {p : α → Prop} {items : List α}

/-- Among the elements with a property there is a last one. -/
theorem exists_last_of_mem {item : α} (hmem : item ∈ items) (hitem : p item) :
    ∃ last earlier later, items = earlier ++ last :: later ∧ p last ∧
      ∀ other ∈ later, ¬ p other := by
  induction items generalizing item with
  | nil => cases hmem
  | cons head rest ih =>
      by_cases hrest : ∃ other ∈ rest, p other
      · obtain ⟨other, hother, hp⟩ := hrest
        obtain ⟨last, earlier, later, rfl, hlast, hlater⟩ := ih hother hp
        exact ⟨last, head :: earlier, later, rfl, hlast, hlater⟩
      · obtain rfl | hmem := List.mem_cons.mp hmem
        · exact ⟨item, [], rest, rfl, hitem, fun other hother hp => hrest ⟨other, hother, hp⟩⟩
        · exact absurd ⟨item, hmem, hitem⟩ hrest

/-- A search from the end finds the last element with the property. -/
theorem findSome?_reverse_ite_eq_some_iff [DecidablePred p] {β : Type v} {value : α → β}
    {result : β} :
    (items.reverse.findSome? fun item => if p item then some (value item) else none) =
        some result ↔
      ∃ item, (∃ earlier later, items = earlier ++ item :: later ∧ p item ∧
        ∀ other ∈ later, ¬ p other) ∧ value item = result := by
  rw [List.findSome?_eq_some_iff]
  simp only [Option.ite_none_right_eq_some, Option.some.injEq, ite_eq_right_iff, reduceCtorEq,
    imp_false]
  constructor
  · rintro ⟨later, item, earlier, hitems, ⟨hitem, hvalue⟩, hlater⟩
    refine ⟨item, ⟨earlier.reverse, later.reverse, ?_, hitem, ?_⟩, hvalue⟩
    · rw [← List.reverse_reverse items, hitems]
      simp
    · intro other hother
      exact hlater other (List.mem_reverse.mp hother)
  · rintro ⟨item, ⟨earlier, later, rfl, hitem, hlater⟩, hvalue⟩
    refine ⟨later.reverse, item, earlier.reverse, by simp, ⟨hitem, hvalue⟩, ?_⟩
    intro other hother
    exact hlater other (List.mem_reverse.mp hother)

end

/-- Writing the pairs of a map in order gives the map again. -/
theorem lastWrites_toList [Ord κ] [Std.TransOrd κ] [Std.LawfulEqOrd κ]
    (map : Std.ExtTreeMap κ ν) : lastWrites map.toList = map := by
  have hdistinct : (map.toList.map Prod.fst).Nodup := by
    rw [Std.ExtTreeMap.map_fst_toList_eq_keys]
    exact Std.ExtTreeMap.nodup_keys
  apply Std.ExtTreeMap.ext_getElem?
  intro key
  apply Option.ext
  intro value
  rw [getElem?_lastWrites, lastWriteTo_eq_some_iff hdistinct,
    Std.ExtTreeMap.mem_toList_iff_getElem?_eq_some]

end NetTopology
