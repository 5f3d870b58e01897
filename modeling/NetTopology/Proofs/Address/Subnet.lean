/-
# Subnets bit by bit

Two addresses lie in one subnet when they agree on each bit of the mask, so a
mask with fewer bits can only put more addresses into a subnet. At the two ends
stand the host mask, whose subnets are single addresses, and `0.0.0.0`, whose
only subnet has all of them. None of this asks that a mask is contiguous.
-/

import Std.Data.ExtTreeSet
import NetTopology.Address.Subnet

namespace NetTopology

namespace Address

/-- The order of addresses, as they are compared, is that of their words. -/
theorem compare_eq_lt_iff {a b : Address} : compare a b = .lt ↔ a < b :=
  compareOfLessAndEq_eq_lt

/-- Addresses that are collected in a set are listed in strictly increasing order. -/
theorem pairwise_lt_toList_ofList (addresses : List Address) :
    (Std.ExtTreeSet.ofList addresses).toList.Pairwise (· < ·) := by
  have hordered : (Std.ExtTreeSet.ofList addresses).toList.Pairwise
      fun first second => compare first second = .lt := Std.ExtTreeSet.ordered_toList
  exact hordered.imp compare_eq_lt_iff.mp

/-- Every bit of the first mask is set in the second one. -/
def IsWider (wide narrow : Address) : Prop :=
  ∀ i < 32, wide.bits.getLsbD i → narrow.bits.getLsbD i

instance (wide narrow : Address) : Decidable (wide.IsWider narrow) :=
  inferInstanceAs (Decidable (∀ i < 32, wide.bits.getLsbD i → narrow.bits.getLsbD i))

theorem eq_of_forall_bit {a b : Address}
    (hbits : ∀ i < 32, a.bits.getLsbD i = b.bits.getLsbD i) : a = b :=
  eq_of_bits_eq (BitVec.eq_of_getLsbD_eq hbits)

/-- Addresses lie in one subnet when they agree on the bits of the mask. -/
theorem sameSubnet_iff_forall_bit {a b mask : Address} :
    a.sameSubnet b mask ↔
      ∀ i < 32, mask.bits.getLsbD i → a.bits.getLsbD i = b.bits.getLsbD i := by
  have hmasked (address : Address) (i : Nat) : (address.masked mask).bits.getLsbD i =
      (address.bits.getLsbD i && mask.bits.getLsbD i) := BitVec.getLsbD_and
  rw [sameSubnet, beq_iff_eq]
  constructor
  · intro hsame i _ hmask
    have hbit := congrArg (fun address => address.bits.getLsbD i) hsame
    simpa only [hmasked, hmask, Bool.and_true] using hbit
  · intro hagree
    apply eq_of_forall_bit
    intro i hi
    rw [hmasked, hmasked]
    cases hmask : mask.bits.getLsbD i with
    | false => rw [Bool.and_false, Bool.and_false]
    | true => rw [hagree i hi hmask]

/-- Addresses in one subnet stay together when the mask loses bits. -/
theorem sameSubnet_of_isWider {a b wide narrow : Address} (hwider : wide.IsWider narrow)
    (hsame : a.sameSubnet b narrow) : a.sameSubnet b wide := by
  rw [sameSubnet_iff_forall_bit] at hsame ⊢
  intro i hi hwide
  exact hsame i hi (hwider i hi hwide)

theorem getLsbD_hostMask {i : Nat} (hi : i < 32) : hostMask.bits.getLsbD i = true := by
  rw [hostMask, BitVec.getLsbD_allOnes, decide_eq_true hi]

/-- The subnet of a host mask is a single address. -/
theorem sameSubnet_hostMask_iff {a b : Address} : a.sameSubnet b .hostMask ↔ a = b := by
  rw [sameSubnet_iff_forall_bit]
  constructor
  · intro hagree
    apply eq_of_forall_bit
    intro i hi
    exact hagree i hi (getLsbD_hostMask hi)
  · intro heq i _ _
    rw [heq]

/-- No mask has more bits than the host mask. -/
theorem eq_hostMask_of_isWider {mask : Address} (hwider : hostMask.IsWider mask) :
    mask = hostMask := by
  apply eq_of_forall_bit
  intro i hi
  rw [getLsbD_hostMask hi, hwider i hi (getLsbD_hostMask hi)]

/-- No mask has fewer bits than `0.0.0.0`. -/
theorem eq_unspecified_of_isWider {mask : Address} (hwider : mask.IsWider unspecified) :
    mask = unspecified := by
  apply eq_of_forall_bit
  intro i hi
  cases hbit : mask.bits.getLsbD i with
  | false => rw [unspecified, BitVec.ofNat_eq_ofNat, BitVec.getLsbD_zero]
  | true => exact (hwider i hi hbit).symm

end Address

end NetTopology
