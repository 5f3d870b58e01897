/-
# Which arcs are paired

Pairing keeps an arc of a map when its reverse is absent, and of an arc and its
reverse the one whose left end is smaller. Each kept arc carries its own value
and the value of its reverse, and the arcs are kept in order, none of them twice.
Drawing the pairs, one relation for each, therefore loses none of them. In a map
without arcs from a device to itself, every arc and its reverse have exactly one
pair.
-/

import NetTopology.Proofs.Address.Subnet
import NetTopology.Proofs.Relation.Set
import NetTopology.Relation.Pairing

namespace NetTopology

namespace Address

theorem lt_iff_toNat_lt {a b : Address} : a < b ↔ a.bits.toNat < b.bits.toNat :=
  BitVec.lt_def

theorem not_lt_of_lt {a b : Address} (hlt : a < b) : ¬ b < a := by
  rw [lt_iff_toNat_lt] at hlt ⊢
  omega

theorem lt_or_lt_of_ne {a b : Address} (hne : a ≠ b) : a < b ∨ b < a := by
  have hbits : a.bits.toNat ≠ b.bits.toNat := by
    intro heq
    exact hne (eq_of_bits_eq (BitVec.eq_of_toNat_eq heq))
  rw [lt_iff_toNat_lt, lt_iff_toNat_lt]
  omega

end Address

theorem Arc.eq_of_ends_eq {τ : Type} {first second : Arc τ} (hleft : first.left = second.left)
    (hright : first.right = second.right) (htag : first.tag = second.tag) : first = second := by
  calc first = ⟨first.left, first.right, first.tag⟩ := rfl
    _ = ⟨second.left, second.right, second.tag⟩ := by rw [hleft, hright, htag]
    _ = second := rfl

/-- The order of arcs: by the left end, then by the right end, then by the tag. -/
def Arc.Precedes {τ : Type} [Ord τ] (first second : Arc τ) : Prop :=
  first.left < second.left ∨ first.left = second.left ∧
    (first.right < second.right ∨ first.right = second.right ∧
      compare first.tag second.tag = .lt)

theorem Arc.compare_eq_lt_iff {τ : Type} [Ord τ] {first second : Arc τ} :
    compare first second = .lt ↔ first.Precedes second := by
  change Arc.order first second = .lt ↔ _
  simp only [order, compareLex, compareOn, Ordering.then_eq_lt, Address.compare_eq_lt_iff,
    Std.LawfulEqCmp.compare_eq_iff_eq, Precedes]

theorem Arc.Precedes.ne {τ : Type} [Ord τ] [Std.TransOrd τ] {first second : Arc τ}
    (hbefore : first.Precedes second) : first ≠ second := by
  rintro rfl
  rw [← compare_eq_lt_iff, Std.ReflOrd.compare_self] at hbefore
  cases hbefore

/-- Relations that are drawn under the ends and the tag of their arc have the
same key only when they stand for the same arc. -/
theorem arc_eq_of_key_eq {ν : Type} {kind : Relation.Kind} {draw : PairedArc String ν → Relation}
    (hdraw : ∀ pair, (draw pair).key =
      { kind, left := pair.arc.left, right := pair.arc.right, predicate := pair.arc.tag })
    (first second : PairedArc String ν) (hkey : (draw first).key = (draw second).key) :
    first.arc = second.arc := by
  rw [hdraw, hdraw] at hkey
  obtain ⟨-, hleft, hright, -, htag⟩ := Relation.Key.mk.inj hkey
  exact Arc.eq_of_ends_eq hleft hright htag

/-- The pair stands for an arc if it is kept at the arc or at its reverse. -/
def PairedArc.StandsFor {τ ν : Type} (pair : PairedArc τ ν) (arc : Arc τ) : Prop :=
  pair.arc = arc ∨ pair.arc = arc.reverse

instance {τ ν : Type} [DecidableEq τ] (pair : PairedArc τ ν) (arc : Arc τ) :
    Decidable (pair.StandsFor arc) :=
  inferInstanceAs (Decidable (_ ∨ _))

/-- What stands for an arc stands for its reverse. -/
theorem PairedArc.standsFor_reverse_iff {τ ν : Type} {pair : PairedArc τ ν} {arc : Arc τ} :
    pair.StandsFor arc.reverse ↔ pair.StandsFor arc :=
  or_comm

section Pairing

variable {τ ν : Type} [Ord τ] [Std.TransOrd τ] {arcs : Std.ExtTreeMap (Arc τ) ν}

/-- The outcome of pairing one arc, told apart by whether its reverse is there. -/
theorem pairArc_eq_some_iff {arc : Arc τ} {value : ν} {pair : PairedArc τ ν} :
    pairArc arcs arc value = some pair ↔
      pair = ⟨arc, value, arcs[arc.reverse]?⟩ ∧
        (arcs[arc.reverse]?.isSome → arc.left < arc.right) := by
  unfold pairArc
  cases arcs[arc.reverse]? with
  | none => simp [eq_comm]
  | some back =>
      by_cases hlt : arc.left < arc.right
      · simp [hlt, eq_comm]
      · simp [hlt]

/-- The arcs are kept in the order of the map. -/
theorem pairwise_arcs_pairUp (arcs : Std.ExtTreeMap (Arc τ) ν) :
    (pairUp arcs).Pairwise fun first second => first.arc.Precedes second.arc := by
  rw [pairUp, List.pairwise_filterMap]
  refine Std.ExtTreeMap.ordered_keys_toList.imp ?_
  rintro ⟨arc, value⟩ ⟨other, otherValue⟩ hordered pair hpair otherPair hother
  obtain ⟨rfl, -⟩ := pairArc_eq_some_iff.mp hpair
  obtain ⟨rfl, -⟩ := pairArc_eq_some_iff.mp hother
  exact Arc.compare_eq_lt_iff.mp hordered

/-- No arc is kept twice. -/
theorem nodup_arcs_pairUp (arcs : Std.ExtTreeMap (Arc τ) ν) :
    ((pairUp arcs).map PairedArc.arc).Nodup := by
  rw [List.Nodup, List.pairwise_map]
  exact (pairwise_arcs_pairUp arcs).imp Arc.Precedes.ne

/-- Pairs that are drawn under keys of their own are drawn under different keys. -/
theorem nodup_keys_drawn {draw : PairedArc τ ν → Relation}
    (hdraw : ∀ first second, (draw first).key = (draw second).key → first.arc = second.arc) :
    (((pairUp arcs).map draw).map Relation.key).Nodup := by
  rw [List.map_map]
  refine List.Nodup.map_on ?_ (nodup_arcs_pairUp arcs).of_map
  intro first hfirst second hsecond hkey
  exact List.inj_on_of_nodup_map (nodup_arcs_pairUp arcs) hfirst hsecond (hdraw _ _ hkey)

/-- Drawing every pair under a key of its own draws exactly the pairs. -/
theorem mem_toList_drawn_iff {draw : PairedArc τ ν → Relation}
    (hdraw : ∀ first second, (draw first).key = (draw second).key → first.arc = second.arc)
    {relation : Relation} :
    relation ∈ (RelationSet.ofList ((pairUp arcs).map draw)).toList ↔
      ∃ pair ∈ pairUp arcs, draw pair = relation := by
  rw [RelationSet.mem_toList_ofList_iff (nodup_keys_drawn hdraw), List.mem_map]

/-- Among the pairs that stand for an arc there is only one, if each of them is
kept at the same arc. -/
theorem filter_standsFor_eq_singleton [DecidableEq τ] {arc : Arc τ} {pair : PairedArc τ ν}
    (hpair : pair ∈ pairUp arcs) (hstands : pair.StandsFor arc)
    (honly : ∀ other ∈ pairUp arcs, other.StandsFor arc → other.arc = pair.arc) :
    ((pairUp arcs).filter fun other => other.StandsFor arc) = [pair] := by
  have hdistinct := nodup_arcs_pairUp arcs
  apply eq_singleton_of_nodup (hdistinct.of_map.filter _)
  · exact List.mem_filter.mpr ⟨hpair, decide_eq_true hstands⟩
  · intro other hother
    obtain ⟨hmem, hother⟩ := List.mem_filter.mp hother
    exact List.inj_on_of_nodup_map hdistinct hmem hpair
      (honly other hmem (of_decide_eq_true hother))

variable [Std.LawfulEqOrd τ]

/-- An arc is kept with its own value and that of its reverse. When both are
there, it is the one that starts at the smaller end. -/
theorem mem_pairUp_iff {pair : PairedArc τ ν} :
    pair ∈ pairUp arcs ↔
      arcs[pair.arc]? = some pair.value ∧ arcs[pair.arc.reverse]? = pair.back ∧
        (pair.back.isSome → pair.arc.left < pair.arc.right) := by
  rw [pairUp, List.mem_filterMap]
  constructor
  · rintro ⟨⟨arc, value⟩, hmem, hpair⟩
    obtain ⟨rfl, horder⟩ := pairArc_eq_some_iff.mp hpair
    exact ⟨Std.ExtTreeMap.mem_toList_iff_getElem?_eq_some.mp hmem, rfl, horder⟩
  · rintro ⟨hvalue, hback, horder⟩
    refine ⟨(pair.arc, pair.value), Std.ExtTreeMap.mem_toList_iff_getElem?_eq_some.mpr hvalue, ?_⟩
    exact pairArc_eq_some_iff.mpr ⟨by rw [hback], by rwa [hback]⟩

/-! ## One pair for each arc and its reverse -/

variable [DecidableEq τ]

/-- An arc without a reverse is kept alone. -/
theorem filter_standsFor_of_alone {arc : Arc τ} {value : ν} (hvalue : arcs[arc]? = some value)
    (halone : arcs[arc.reverse]? = none) :
    ((pairUp arcs).filter fun pair => pair.StandsFor arc) = [⟨arc, value, none⟩] := by
  apply filter_standsFor_eq_singleton
  · exact mem_pairUp_iff.mpr ⟨hvalue, halone, by simp⟩
  · exact .inl rfl
  · rintro other hother (harc | hreverse)
    · exact harc
    · -- a pair is kept at an arc of the map
      have hfound := (mem_pairUp_iff.mp hother).1
      rw [hreverse, halone] at hfound
      cases hfound

/-- Of an arc and its reverse the one that starts at the smaller end is kept. -/
theorem filter_standsFor_of_both {arc : Arc τ} {value back : ν} (hvalue : arcs[arc]? = some value)
    (hback : arcs[arc.reverse]? = some back) (hlt : arc.left < arc.right) :
    ((pairUp arcs).filter fun pair => pair.StandsFor arc) = [⟨arc, value, some back⟩] := by
  apply filter_standsFor_eq_singleton
  · exact mem_pairUp_iff.mpr ⟨hvalue, hback, fun _ => hlt⟩
  · exact .inl rfl
  · rintro other hother (harc | hreverse)
    · exact harc
    · -- kept at the reverse, the pair would start at the larger end
      obtain ⟨-, hfound, horder⟩ := mem_pairUp_iff.mp hother
      rw [hreverse] at hfound horder
      have hown : other.back = some value := hfound.symm.trans hvalue
      have hgt : arc.right < arc.left := horder (by rw [hown, Option.isSome_some])
      exact absurd hgt (Address.not_lt_of_lt hlt)

/-- The pairs of a map that has no arc from a device to itself. They stand in the
order of their arcs, which are arcs of the map, and exactly one of them stands
for each arc: the arc alone if its reverse is absent, and else the one of the two
that starts at the smaller end, with its own value first. -/
theorem pairUp_eq_one_for_each (arcs : Std.ExtTreeMap (Arc τ) ν)
    (hself : ∀ arc : Arc τ, arc ∈ arcs → arc.left ≠ arc.right) :
    ((pairUp arcs).Pairwise fun first second => first.arc.Precedes second.arc) ∧
    (∀ pair ∈ pairUp arcs, pair.arc ∈ arcs) ∧
    ∀ (arc : Arc τ) (value : ν), arcs[arc]? = some value →
      ((pairUp arcs).filter fun pair => pair.StandsFor arc) =
        match arcs[arc.reverse]? with
        | none => [⟨arc, value, none⟩]
        | some back =>
          if arc.left < arc.right then [⟨arc, value, some back⟩]
          else [⟨arc.reverse, back, some value⟩] := by
  have hmem {arc : Arc τ} {value : ν} (hvalue : arcs[arc]? = some value) : arc ∈ arcs :=
    Std.ExtTreeMap.isSome_getElem?_iff_mem.mp (Option.isSome_of_eq_some hvalue)
  refine ⟨pairwise_arcs_pairUp arcs, ?_, ?_⟩
  · intro pair hpair
    exact hmem (mem_pairUp_iff.mp hpair).1
  · intro arc value hvalue
    cases hback : arcs[arc.reverse]? with
    | none => exact filter_standsFor_of_alone hvalue hback
    | some back =>
        by_cases hlt : arc.left < arc.right
        · rw [filter_standsFor_of_both hvalue hback hlt]
          exact (if_pos hlt).symm
        · have hne := hself arc (hmem hvalue)
          have hgt := (Address.lt_or_lt_of_ne hne).resolve_left hlt
          have hreverse :
              ((pairUp arcs).filter fun pair => pair.StandsFor arc.reverse) =
                [⟨arc.reverse, back, some value⟩] :=
            filter_standsFor_of_both hback hvalue hgt
          simp only [PairedArc.standsFor_reverse_iff] at hreverse
          rw [hreverse]
          exact (if_neg hlt).symm

end Pairing

namespace Arc

/-- Two arcs and their reverses under one tag and an arc under another one. -/
def crossing : Std.ExtTreeMap (Arc String) Nat :=
  lastWrites [(⟨⟨2⟩, ⟨1⟩, "ospf"⟩, 21), (⟨⟨1⟩, ⟨2⟩, "ospf"⟩, 12), (⟨⟨1⟩, ⟨2⟩, "bgp"⟩, 120),
    (⟨⟨3⟩, ⟨1⟩, "ospf"⟩, 31)]

theorem crossing_apart : ∀ arc : Arc String, arc ∈ crossing → arc.left ≠ arc.right := by
  have hkeys : ∀ arc ∈ crossing.keys, arc.left ≠ arc.right := by decide +kernel
  intro arc hmem
  exact hkeys arc (Std.ExtTreeMap.mem_keys.mpr hmem)

/-- Of an arc that starts at the larger end the reverse is kept, and the arc
under the other tag is kept alone. -/
theorem pairUp_eq_one_for_each_crossing :
    (∀ arc : Arc String, arc ∈ crossing → arc.left ≠ arc.right) ∧
    crossing[(⟨⟨2⟩, ⟨1⟩, "ospf"⟩ : Arc String)]? = some 21 ∧
    ((pairUp crossing).filter fun pair => pair.StandsFor ⟨⟨2⟩, ⟨1⟩, "ospf"⟩) =
      [⟨⟨⟨1⟩, ⟨2⟩, "ospf"⟩, 12, some 21⟩] ∧
    ((pairUp crossing).filter fun pair => pair.StandsFor ⟨⟨1⟩, ⟨2⟩, "bgp"⟩) =
      [⟨⟨⟨1⟩, ⟨2⟩, "bgp"⟩, 120, none⟩] := by
  obtain ⟨-, -, hone⟩ := pairUp_eq_one_for_each crossing crossing_apart
  have hlarger : crossing[(⟨⟨2⟩, ⟨1⟩, "ospf"⟩ : Arc String)]? = some 21 := by decide +kernel
  have hsmaller : crossing[(⟨⟨1⟩, ⟨2⟩, "ospf"⟩ : Arc String)]? = some 12 := by decide +kernel
  have hother : crossing[(⟨⟨1⟩, ⟨2⟩, "bgp"⟩ : Arc String)]? = some 120 := by decide +kernel
  have halone : crossing[(⟨⟨2⟩, ⟨1⟩, "bgp"⟩ : Arc String)]? = none := by decide +kernel
  refine ⟨crossing_apart, hlarger, ?_, ?_⟩
  · rw [hone _ _ hlarger, reverse, hsmaller]
    rfl
  · rw [hone _ _ hother, reverse, halone]

end Arc

end NetTopology
