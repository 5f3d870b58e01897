/-
# The text of a subnet tells the subnet

A mask is written as its length when its ones come first, and in dotted form
otherwise. A length has no points in it, so the two forms are never taken for
each other and each mask has a text of its own. In the text of a subnet the mask
stands behind a slash. Before the slash stands the first address of the subnet,
so with contiguous masks two texts agree exactly when the same addresses lie in
both subnets. With other masks the address is kept as it is: such a text still
tells which subnet is meant, but one subnet has several texts.
-/

import NetTopology.Proofs.Address.Subnet
import NetTopology.Proofs.Address.Text
import Mathlib.Data.Nat.Find
import Std.Data.String.ToNat

namespace NetTopology

namespace Address

variable {a b mask other : Address} {length : Nat}

/-! ## Contiguous masks -/

/-- The ones of a mask come first: whatever stands to the left of a one is a one. -/
def IsContiguous (mask : Address) : Prop :=
  ∀ j < 32, ∀ i < j, mask.bits.getLsbD i → mask.bits.getLsbD j

instance (mask : Address) : Decidable mask.IsContiguous :=
  inferInstanceAs (Decidable (∀ j < 32, ∀ i < j, mask.bits.getLsbD i → mask.bits.getLsbD j))

theorem getLsbD_leadingOnes {i : Nat} (hi : i < 32) :
    (leadingOnes length).bits.getLsbD i = decide (32 - length ≤ i) := by
  have hinside : i - (32 - length) < 32 := by omega
  rw [leadingOnes, BitVec.getLsbD_shiftLeft, BitVec.getLsbD_allOnes, decide_eq_true hi,
    decide_eq_true hinside, Bool.true_and, Bool.and_true, ← decide_not, decide_eq_decide, not_lt]

theorem eq_of_leadingOnes_eq {first second : Nat} (hfirst : first ≤ 32) (hsecond : second ≤ 32)
    (heq : leadingOnes first = leadingOnes second) : first = second := by
  have hbits (i : Nat) (hi : i < 32) : 32 - first ≤ i ↔ 32 - second ≤ i := by
    rw [← decide_eq_decide, ← getLsbD_leadingOnes hi, heq, getLsbD_leadingOnes hi]
  -- the last one of the longer mask is a zero of the shorter one
  rcases Nat.lt_trichotomy first second with hlt | hsame | hlt
  · have hlast := (hbits (32 - second) (by omega)).mpr le_rfl
    omega
  · exact hsame
  · have hlast := (hbits (32 - first) (by omega)).mp le_rfl
    omega

/-- The length of a mask is the number of ones that it consists of. -/
theorem maskLength?_eq_some_iff :
    mask.maskLength? = some length ↔ length ≤ 32 ∧ leadingOnes length = mask := by
  rw [maskLength?, List.find?_range_eq_some, List.mem_range, beq_iff_eq, Nat.lt_succ_iff]
  constructor
  · rintro ⟨hmask, hlength, -⟩
    exact ⟨hlength, hmask⟩
  · rintro ⟨hlength, rfl⟩
    refine ⟨rfl, hlength, fun shorter hshorter => ?_⟩
    rw [Bool.not_eq_true', beq_eq_false_iff_ne]
    intro heq
    exact hshorter.ne (eq_of_leadingOnes_eq (hshorter.le.trans hlength) hlength heq)

theorem isContiguous_leadingOnes (length : Nat) : (leadingOnes length).IsContiguous := by
  intro j hj i hij hone
  rw [getLsbD_leadingOnes (hij.trans hj), decide_eq_true_iff] at hone
  rw [getLsbD_leadingOnes hj, decide_eq_true_iff]
  exact hone.trans hij.le

/-- A contiguous mask consists of ones down to its last one. -/
theorem IsContiguous.exists_leadingOnes_eq (hcontiguous : mask.IsContiguous) :
    ∃ length ≤ 32, leadingOnes length = mask := by
  have hend : ∃ i, i = 32 ∨ mask.bits.getLsbD i := ⟨32, .inl rfl⟩
  have hlast : Nat.find hend ≤ 32 := Nat.find_min' hend (.inl rfl)
  refine ⟨32 - Nat.find hend, Nat.sub_le _ _, eq_of_forall_bit fun i hi => ?_⟩
  rw [getLsbD_leadingOnes hi, Nat.sub_sub_self hlast, Bool.eq_iff_iff, decide_eq_true_iff]
  constructor
  · intro hle
    have hone : mask.bits.getLsbD (Nat.find hend) :=
      (Nat.find_spec hend).resolve_left (hle.trans_lt hi).ne
    rcases hle.eq_or_lt with heq | hlt
    · rwa [← heq]
    · exact hcontiguous i hi _ hlt hone
  · intro hone
    exact Nat.find_min' hend (.inr hone)

theorem exists_maskLength?_eq_some_iff :
    (∃ length, mask.maskLength? = some length) ↔ mask.IsContiguous := by
  simp only [maskLength?_eq_some_iff]
  constructor
  · rintro ⟨length, -, rfl⟩
    exact isContiguous_leadingOnes length
  · exact IsContiguous.exists_leadingOnes_eq

theorem maskLength?_eq_none_iff : mask.maskLength? = none ↔ ¬ mask.IsContiguous := by
  rw [← exists_maskLength?_eq_some_iff, Option.eq_none_iff_forall_ne_some, not_exists]

/-! ## Texts -/

/-- The length of a mask is no address. -/
theorem toString_ne_toText (length : Nat) (a : Address) : toString length ≠ a.toText := by
  intro heq
  have hpoint : '.' ∈ (toString length).toList := by
    rw [heq, toList_toText]
    exact List.mem_append_right _ List.mem_cons_self
  rw [toList_toString_nat] at hpoint
  cases isDigit_of_mem_toDigits_ten hpoint

/-- A mask has a text of its own. -/
theorem maskText_injective : Function.Injective maskText := by
  intro mask other heq
  rw [maskText, maskText] at heq
  cases hmask : mask.maskLength? with
  | none =>
      cases hother : other.maskLength? with
      | none =>
          rw [hmask, hother] at heq
          exact toText_injective heq
      | some second =>
          rw [hmask, hother] at heq
          exact absurd heq.symm (toString_ne_toText second mask)
  | some first =>
      cases hother : other.maskLength? with
      | none =>
          rw [hmask, hother] at heq
          exact absurd heq (toString_ne_toText first other)
      | some second =>
          rw [hmask, hother] at heq
          obtain rfl : first = second := Nat.repr_injective heq
          rw [← (maskLength?_eq_some_iff.mp hmask).2, ← (maskLength?_eq_some_iff.mp hother).2]

/-- The address that stands before the slash in the text of a subnet. -/
def shownIn (a mask : Address) : Address :=
  if mask.IsContiguous then a.masked mask else a

theorem cidr_eq (a mask : Address) :
    a.cidr mask = (a.shownIn mask).toText ++ "/" ++ mask.maskText := by
  rw [cidr, maskText, shownIn]
  cases hlength : mask.maskLength? with
  | none => rw [if_neg (maskLength?_eq_none_iff.mp hlength)]
  | some length => rw [if_pos (exists_maskLength?_eq_some_iff.mp ⟨length, hlength⟩)]

/-- An address stays as it is before a mask that is not contiguous. -/
example : (ofOctets 10 0 2 7).cidr (ofOctets 255 0 255 0) = "10.0.2.7/255.0.255.0" := by
  decide +kernel

theorem shownIn_eq_iff :
    a.shownIn mask = b.shownIn mask ↔ a.sameSubnet b mask ∧ (mask.IsContiguous ∨ a = b) := by
  rw [shownIn, shownIn, sameSubnet, beq_iff_eq]
  by_cases hcontiguous : mask.IsContiguous
  · simp [hcontiguous]
  · simp only [hcontiguous, if_false, false_or]
    exact ⟨fun heq => ⟨congrArg (masked · mask) heq, heq⟩, And.right⟩

/-- Texts of subnets agree when the masks do and the addresses lie in one subnet,
but with a mask that is not contiguous only when the addresses are equal. -/
theorem cidr_eq_iff :
    a.cidr mask = b.cidr other ↔
      mask = other ∧ a.sameSubnet b mask ∧ (mask.IsContiguous ∨ a = b) := by
  rw [← shownIn_eq_iff, cidr_eq, cidr_eq]
  constructor
  · intro heq
    have hslash : isTextChar '/' = false := by decide
    have htext := congrArg String.toList heq
    simp only [String.toList_append, List.append_assoc] at htext
    obtain ⟨hshown, hmask⟩ := eq_and_eq_of_toText_append_eq hslash htext
    obtain rfl := maskText_injective (String.toList_injective hmask)
    exact ⟨rfl, hshown⟩
  · rintro ⟨rfl, hshown⟩
    rw [hshown]

/-! ## Subnets -/

/-- Turning over one bit of an address leaves its subnet exactly when the mask has the bit. -/
theorem exists_sameSubnet_iff (a : Address) {i : Nat} (hi : i < 32) :
    ∃ turned : Address, ∀ mask, turned.sameSubnet a mask ↔ ¬ mask.bits.getLsbD i := by
  refine ⟨⟨a.bits ^^^ BitVec.twoPow 32 i⟩, fun mask => ?_⟩
  simp only [sameSubnet_iff_forall_bit, BitVec.getLsbD_xor, BitVec.getLsbD_twoPow, hi,
    decide_true, Bool.true_and]
  constructor
  · intro hagree hone
    simpa using hagree i hi hone
  · intro hzero j _ hone
    have hne : i ≠ j := by
      rintro rfl
      exact hzero hone
    simp [hne]

/-- The addresses of a subnet tell the mask, and each of them tells the subnet. -/
theorem forall_sameSubnet_eq_iff :
    (∀ x : Address, x.sameSubnet a mask = x.sameSubnet b other) ↔
      mask = other ∧ a.sameSubnet b mask := by
  constructor
  · intro hsame
    have hself : a.sameSubnet b other := (hsame a).symm.trans (beq_self_eq_true _)
    have hmask : mask = other := by
      apply eq_of_forall_bit
      intro i hi
      obtain ⟨turned, hturned⟩ := exists_sameSubnet_iff a hi
      have hother : turned.sameSubnet b other = turned.sameSubnet a other := by
        rw [sameSubnet, sameSubnet, eq_of_beq hself]
      have hiff := hturned mask
      rw [hsame, hother, hturned other, not_iff_not] at hiff
      exact Bool.eq_iff_iff.mpr hiff.symm
    exact ⟨hmask, hmask ▸ hself⟩
  · rintro ⟨rfl, hsame⟩ x
    rw [sameSubnet, sameSubnet, eq_of_beq hsame]

/-- The text of a subnet tells its mask and the subnet. For a contiguous mask there
is one text for each subnet, so that texts agree exactly when the same addresses
lie in both subnets. The text of a mask tells the mask. -/
theorem cidr_tells_subnet_and_maskText_tells_mask (a b mask other : Address) :
    (a.cidr mask = b.cidr other → mask = other ∧ a.sameSubnet b mask) ∧
    (mask.IsContiguous → mask = other → a.sameSubnet b mask → a.cidr mask = b.cidr other) ∧
    (mask.IsContiguous →
      (a.cidr mask = b.cidr other ↔
        ∀ x : Address, x.sameSubnet a mask = x.sameSubnet b other)) ∧
    (mask.maskText = other.maskText → mask = other) := by
  have hiff (hcontiguous : mask.IsContiguous) :
      a.cidr mask = b.cidr other ↔ mask = other ∧ a.sameSubnet b mask := by
    rw [cidr_eq_iff]
    simp only [hcontiguous, true_or, and_true]
  refine ⟨?_, ?_, ?_, fun heq => maskText_injective heq⟩
  · intro heq
    obtain ⟨hmask, hsame, -⟩ := cidr_eq_iff.mp heq
    exact ⟨hmask, hsame⟩
  · intro hcontiguous hmask hsame
    exact (hiff hcontiguous).mpr ⟨hmask, hsame⟩
  · intro hcontiguous
    rw [hiff hcontiguous, forall_sameSubnet_eq_iff]

/-- Two addresses of a local network are shown by the same text. -/
theorem cidr_tells_subnet_and_maskText_tells_mask_lan :
    (ofOctets 10 0 2 7).cidr (ofOctets 255 255 255 0) = "10.0.2.0/24" ∧
    (ofOctets 10 0 2 9).cidr (ofOctets 255 255 255 0) = "10.0.2.0/24" ∧
    (ofOctets 255 255 255 0).IsContiguous ∧
    (ofOctets 255 255 255 0).maskText = "24" ∧
    (ofOctets 10 0 2 7).sameSubnet (ofOctets 10 0 2 9) (ofOctets 255 255 255 0) ∧
    (ofOctets 10 0 2 7).cidr (ofOctets 255 255 255 0) =
      (ofOctets 10 0 2 9).cidr (ofOctets 255 255 255 0) ∧
    (∀ x : Address, x.sameSubnet (ofOctets 10 0 2 7) (ofOctets 255 255 255 0) =
      x.sameSubnet (ofOctets 10 0 2 9) (ofOctets 255 255 255 0)) ∧
    (⟨0xFFFFFF00⟩ : Address) = ofOctets 255 255 255 0 := by
  have hfirst : (ofOctets 10 0 2 7).cidr (ofOctets 255 255 255 0) = "10.0.2.0/24" := by
    decide +kernel
  have hsecond : (ofOctets 10 0 2 9).cidr (ofOctets 255 255 255 0) = "10.0.2.0/24" := by
    decide +kernel
  have hcontiguous : (ofOctets 255 255 255 0).IsContiguous := by decide +kernel
  have hmask : (ofOctets 255 255 255 0).maskText = "24" := by decide +kernel
  have hword : (⟨0xFFFFFF00⟩ : Address).maskText = "24" := by decide +kernel
  obtain ⟨htells, hshared, hsubnets, -⟩ := cidr_tells_subnet_and_maskText_tells_mask
    (ofOctets 10 0 2 7) (ofOctets 10 0 2 9) (ofOctets 255 255 255 0) (ofOctets 255 255 255 0)
  obtain ⟨-, -, -, hmasks⟩ := cidr_tells_subnet_and_maskText_tells_mask
    (ofOctets 10 0 2 7) (ofOctets 10 0 2 9) ⟨0xFFFFFF00⟩ (ofOctets 255 255 255 0)
  have hsame := (htells (hfirst.trans hsecond.symm)).2
  have htexts := hshared hcontiguous rfl hsame
  exact ⟨hfirst, hsecond, hcontiguous, hmask, hsame, htexts, (hsubnets hcontiguous).mp htexts,
    hmasks (hword.trans hmask.symm)⟩

end Address

end NetTopology
