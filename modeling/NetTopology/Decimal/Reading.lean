/-
# Numbers written by people

The spelling of numbers on the command line. A double is an infinity or not a
number by name, in either case of letters, or decimal digits with a point
anywhere among them and perhaps an exponent; it is the double nearest to what is
written. A whole number is digits with perhaps a plus sign.
-/

namespace NetTopology.Decimal

/-- The digits at the head of a text, and what follows them. -/
def spanDigits (text : List Char) : List Char × List Char :=
  (text.takeWhile Char.isDigit, text.dropWhile Char.isDigit)

/-- The number that digits spell. -/
def ofDigits (digits : List Char) : Nat :=
  digits.foldl (fun total c => 10 * total + (c.toNat - '0'.toNat)) 0

/-- A whole number below a limit. -/
def readNatural? (limit : Nat) (text : String) : Option Nat :=
  let digits :=
    match text.toList with
    | '+' :: digits => digits
    | digits => digits
  if digits ≠ [] ∧ digits.all Char.isDigit ∧ ofDigits digits < limit then some (ofDigits digits)
  else none

/-- A sign at the head of a text: whether it is a minus, and what follows it. -/
def spanSign : List Char → Bool × List Char
  | '+' :: text => (false, text)
  | '-' :: text => (true, text)
  | text => (false, text)

/-- The exponent after the digits of a number, which is zero if there is none. -/
def readExponent? : List Char → Option Int
  | [] => some 0
  | c :: text =>
    if c = 'e' ∨ c = 'E' then
      let (negative, digits) := spanSign text
      if digits ≠ [] ∧ digits.all Char.isDigit then
        some (if negative then -(ofDigits digits : Int) else ofDigits digits)
      else none
    else none

/-- The double nearest to `digits * 10 ^ exponent`. Numbers of more than 310
whole digits are infinite, and those with more than 400 zeros after the point
are zero, so no larger power of ten is ever formed. -/
def nearest (digits : Nat) (exponent : Int) : Float :=
  let size : Int := (toString digits).length + exponent
  if digits = 0 then 0.0
  else if 310 < size then 1.0 / 0.0
  else if size < -400 then 0.0
  else
    match exponent with
    | .ofNat e => Float.ofScientific digits false e
    | .negSucc e => Float.ofScientific digits true (e + 1)

/-- A number in digits, without its sign. -/
def readMagnitude? (text : List Char) : Option Float :=
  let (whole, rest) := spanDigits text
  let (fraction, rest) :=
    match rest with
    | '.' :: rest => spanDigits rest
    | rest => ([], rest)
  if whole = [] ∧ fraction = [] then none
  else
    (readExponent? rest).map fun exponent =>
      nearest (ofDigits (whole ++ fraction)) (exponent - fraction.length)

/-- A double as people write it. -/
def readDouble? (text : String) : Option Float :=
  let (negative, rest) := spanSign text.toList
  let magnitude :=
    match String.ofList (rest.map Char.toLower) with
    | "inf" | "infinity" => some (1.0 / 0.0)
    | "nan" => some (0.0 / 0.0)
    | _ => readMagnitude? rest
  magnitude.map fun magnitude => if negative then -magnitude else magnitude

end NetTopology.Decimal
