/-
# IPv4 addresses

An address is a word of 32 bits, and addresses are compared as unsigned words,
which is the order of their four octets read from the left. The text form is
the usual one: four decimal octets without leading zeros, joined by points.
`ofText?` reads exactly that form and refuses every other spelling, so each
address has one text.
-/

import Std.Data.ExtTreeMap

namespace NetTopology

/-- An IPv4 address. -/
structure Address where
  /-- The address as a word, its first octet in the high bits. -/
  bits : BitVec 32
  deriving DecidableEq, Inhabited

namespace Address

instance : Ord Address where
  compare a b := compare a.bits b.bits

instance : Std.TransOrd Address :=
  inferInstanceAs (Std.TransCmp (compareOn Address.bits))

theorem eq_of_bits_eq {a b : Address} (hbits : a.bits = b.bits) : a = b := by
  cases a
  cases b
  exact congrArg Address.mk hbits

instance : Std.LawfulEqOrd Address where
  eq_of_compare h := eq_of_bits_eq (Std.LawfulEqOrd.eq_of_compare h)

instance : LT Address where
  lt a b := a.bits < b.bits

instance (a b : Address) : Decidable (a < b) :=
  inferInstanceAs (Decidable (a.bits < b.bits))

/-- The address with the given octets, read from the left. -/
def ofOctets (a b c d : BitVec 8) : Address :=
  ⟨a ++ b ++ c ++ d⟩

/-- Octet `i` of an address, counted from the left starting at zero. -/
def octet (a : Address) (i : Nat) : BitVec 8 :=
  a.bits.extractLsb' (24 - 8 * i) 8

/-- `0.0.0.0`. As the next hop of a route it means that the destination is
attached to the device; as the source of multicast traffic, that the device
itself originates the group; as a mask, the whole address space. -/
def unspecified : Address :=
  ⟨0⟩

/-- `255.255.255.255`, the mask that selects a single host. -/
def hostMask : Address :=
  ⟨BitVec.allOnes 32⟩

/-- The decimal digits of one octet. -/
def octetText (o : BitVec 8) : String :=
  toString o.toNat

/-- The dotted decimal form. -/
def toText (a : Address) : String :=
  octetText (a.octet 0) ++ "." ++ octetText (a.octet 1) ++ "." ++
    octetText (a.octet 2) ++ "." ++ octetText (a.octet 3)

instance : ToString Address where
  toString := toText

/-- Cut a text at its points. -/
def splitPoints : List Char → List (List Char)
  | [] => [[]]
  | c :: rest =>
    if c = '.' then [] :: splitPoints rest
    else
      match splitPoints rest with
      | [] => [[c]]
      | part :: parts => (c :: part) :: parts

/-- The value of a decimal digit. -/
def digit? (c : Char) : Option Nat :=
  if c.isDigit then some (c.toNat - '0'.toNat) else none

/-- One octet: one to three digits, no leading zero, at most 255. -/
def octet? (text : List Char) : Option (BitVec 8) := do
  guard (text.length ≤ 3)
  guard (text.length = 1 ∨ text.head? ≠ some '0')
  let digits ← text.mapM digit?
  guard (digits ≠ [])
  let value := digits.foldl (fun total d => 10 * total + d) 0
  guard (value ≤ 255)
  return BitVec.ofNat 8 value

/-- Read the dotted decimal form, and nothing else. -/
def ofText? (text : List Char) : Option Address :=
  match splitPoints text with
  | [first, second, third, fourth] => do
    return ofOctets (← octet? first) (← octet? second) (← octet? third) (← octet? fourth)
  | _ => none

end Address

end NetTopology
