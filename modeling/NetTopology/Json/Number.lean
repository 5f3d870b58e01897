/-
# Numbers in documents

A number is cut out of the text by the grammar of JSON and then valued. Its
digits are gathered into one significand below `2 ^ 64`; once the whole digits
no longer fit, each further one only raises the exponent, and fraction digits
that do not fit are dropped. A number without fraction and exponent whose
digits all fit is whole, unless it is a negative zero or below `-2 ^ 63`. Every
other number is a double: the significand, scaled once by a power of ten. Too
large a number has no value, too small a one is zero.
-/

import NetTopology.Json.Fault

namespace NetTopology.Json

/-- A number cut out of the text, as digits. -/
structure Numeral where
  /-- Whether a minus sign stands in front. -/
  negative : Bool
  /-- The digits before the point. -/
  whole : List Nat
  /-- The digits after the point, if there is one. -/
  fraction : Option (List Nat)
  /-- The exponent, if there is one: whether it is negative, and its digits. -/
  exponent : Option (Bool × List Nat)
  deriving DecidableEq

/-- The value of a number. -/
inductive Number where
  /-- A whole number that is not negative. -/
  | natural (value : Nat)
  /-- The negative of a whole number that is not zero. -/
  | negative (value : Nat)
  /-- A double. -/
  | double (value : Float)

/-- The digits at the head of a text, and what follows them. -/
def spanDigits : List Char → List Nat × List Char
  | [] => ([], [])
  | c :: rest =>
    if c.isDigit then
      let (digits, tail) := spanDigits rest
      ((c.toNat - '0'.toNat) :: digits, tail)
    else ([], c :: rest)

theorem length_spanDigits_le (text : List Char) : (spanDigits text).2.length ≤ text.length := by
  induction text with
  | nil => simp [spanDigits]
  | cons c rest ih =>
    simp only [spanDigits]
    split
    · simp only [List.length_cons]
      omega
    · simp

/-- The fault of a text that goes on with something else than a digit. -/
def digitFault : List Char → Fault
  | [] => .truncated
  | _ :: _ => .malformed

/-- The digits before the point: no leading zero unless it stands alone. -/
def Numeral.spanWhole (text : List Char) : Except Fault (List Nat × List Char) :=
  match spanDigits text with
  | ([], rest) => .error (digitFault rest)
  | (0 :: _ :: _, _) => .error .malformed
  | (digits, rest) => .ok (digits, rest)

/-- The point and the digits after it, if there is a point. -/
def Numeral.spanFraction : List Char → Except Fault (Option (List Nat) × List Char)
  | '.' :: text =>
    match spanDigits text with
    | ([], rest) => .error (digitFault rest)
    | (digits, rest) => .ok (some digits, rest)
  | text => .ok (none, text)

def Numeral.spanSign : List Char → Bool × List Char
  | '+' :: text => (false, text)
  | '-' :: text => (true, text)
  | text => (false, text)

/-- The exponent, if there is one. -/
def Numeral.spanExponent : List Char → Except Fault (Option (Bool × List Nat) × List Char)
  | [] => .ok (none, [])
  | c :: text =>
    if c = 'e' ∨ c = 'E' then
      let (negative, text) := spanSign text
      match spanDigits text with
      | ([], rest) => .error (digitFault rest)
      | (digits, rest) => .ok (some (negative, digits), rest)
    else .ok (none, c :: text)

/-- Cut a number without sign out of the text. -/
def Numeral.spanUnsigned (negative : Bool) (text : List Char) :
    Except Fault (Numeral × List Char) := do
  let (whole, text) ← spanWhole text
  let (fraction, text) ← spanFraction text
  let (exponent, text) ← spanExponent text
  return ({ negative, whole, fraction, exponent }, text)

/-- Whether a number starts with this character. -/
def Numeral.startsWith (c : Char) : Bool :=
  c = '-' || c.isDigit

/-- Cut a number out of the text that starts with the given character. -/
def Numeral.span (c : Char) (text : List Char) : Except Fault (Numeral × List Char) :=
  if c = '-' then spanUnsigned true text else spanUnsigned false (c :: text)

/-- Append digits to a significand as long as it stays below `2 ^ 64`, and tell
how many of them do not fit any more. -/
def appendDigits (significand : Nat) : List Nat → Nat × Nat
  | [] => (significand, 0)
  | digit :: digits =>
    if 10 * significand + digit < 1 <<< 64 then appendDigits (10 * significand + digit) digits
    else (significand, digits.length + 1)

/-- The double nearest to a power of ten. -/
def powerOfTen (exponent : Nat) : Float :=
  Float.ofScientific 1 false exponent

/-- Divide by a power of ten, in steps of at most `10 ^ 308`. -/
def scaleDown (value : Float) (exponent : Nat) : Float :=
  if exponent ≤ 308 then value / powerOfTen exponent
  else if value == 0 then value
  else scaleDown (value / powerOfTen 308) (exponent - 308)
termination_by exponent

/-- Scale by a power of ten, unless the result is too large. -/
def scale (value : Float) : Int → Option Float
  | .ofNat exponent =>
    if exponent ≤ 308 then
      let scaled := value * powerOfTen exponent
      if scaled.isInf then none else some scaled
    else if value == 0 then some value
    else none
  | .negSucc exponent => some (scaleDown value (exponent + 1))

/-- The number that decimal digits spell. -/
def ofDigits (digits : List Nat) : Nat :=
  digits.foldl (fun total digit => 10 * total + digit) 0

namespace Numeral

/-- The significand, and the power of ten that it is to be scaled by before the
written exponent counts. -/
def significand (numeral : Numeral) : Nat × Int :=
  let (whole, raised) := appendDigits 0 numeral.whole
  match numeral.fraction with
  | none => (whole, raised)
  | some digits =>
    let (all, dropped) := appendDigits whole digits
    (all, (raised : Int) - (digits.length - dropped : Nat))

/-- The largest written exponent that counts as a number. -/
def exponentLimit : Nat := (1 <<< 31) - 1

/-- The double of a number without its sign. An exponent beyond all bounds
makes the number zero or too large by its sign alone. -/
def magnitude (numeral : Numeral) : Option Float :=
  let (digits, shift) := numeral.significand
  match numeral.exponent with
  | none => scale (Float.ofNat digits) shift
  | some (negative, written) =>
    let exponent := ofDigits written
    if exponentLimit < exponent then
      if digits ≠ 0 ∧ negative = false then none else some 0
    else scale (Float.ofNat digits) (if negative then shift - exponent else shift + exponent)

/-- Whether a number is written without fraction and exponent and fits in a word. -/
def isWhole (numeral : Numeral) : Bool :=
  numeral.fraction.isNone && numeral.exponent.isNone && numeral.significand.2 == 0

/-- The value of a number, unless it is too large. -/
def value? (numeral : Numeral) : Option Number :=
  let digits := numeral.significand.1
  if numeral.isWhole then
    if numeral.negative then
      if digits = 0 ∨ 1 <<< 63 < digits then some (.double (-Float.ofNat digits))
      else some (.negative digits)
    else some (.natural digits)
  else
    numeral.magnitude.map fun magnitude =>
      .double (if numeral.negative then -magnitude else magnitude)

end Numeral

end NetTopology.Json
