/-
# Subnets

A subnet is a set of addresses that agree on the bits of a mask. Masks are
arbitrary words: nothing here asks that the ones come first. Only the text
forms tell contiguous masks apart, which are printed by their length, from the
others, which are printed as they are.
-/

import NetTopology.Address

namespace NetTopology

namespace Address

/-- The address without the bits outside `mask`. -/
def masked (a mask : Address) : Address :=
  ⟨a.bits &&& mask.bits⟩

/-- Two addresses lie in the same subnet when they agree on the bits of `mask`. -/
def sameSubnet (a b mask : Address) : Bool :=
  a.masked mask == b.masked mask

/-- The mask whose first `length` bits are ones. -/
def leadingOnes (length : Nat) : Address :=
  ⟨BitVec.allOnes 32 <<< (32 - length)⟩

/-- The number of leading ones of a contiguous mask; nothing for other masks. -/
def maskLength? (mask : Address) : Option Nat :=
  (List.range 33).find? fun length => leadingOnes length == mask

/-- A mask as text: its length when it is contiguous, else its dotted form. -/
def maskText (mask : Address) : String :=
  match mask.maskLength? with
  | some length => toString length
  | none => mask.toText

/-- The subnet of `a` as text. A contiguous mask is written as a length after
the masked address; with any other mask the address is kept as it is. -/
def cidr (a mask : Address) : String :=
  match mask.maskLength? with
  | some length => (a.masked mask).toText ++ "/" ++ toString length
  | none => a.toText ++ "/" ++ mask.toText

end Address

end NetTopology
