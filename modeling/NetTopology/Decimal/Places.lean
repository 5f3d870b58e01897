/-
# Fixed-place decimal text of a double

A finite double is `mantissa * 2 ^ exponent` up to sign, so its decimal text
with a fixed number of places is a quotient of natural numbers rounded once.
`roundHalfEven` does that rounding on exact numbers; no floating-point
operation takes part in printing.
-/

namespace NetTopology.Decimal

/-- The quotient rounded to the nearest whole number, a tie going to the even one. -/
def roundHalfEven (num den : Nat) : Nat :=
  let whole := num / den
  let twice := 2 * (num % den)
  if twice < den then whole
  else if den < twice then whole + 1
  else if whole % 2 = 0 then whole
  else whole + 1

/-- What the bits of a double say. -/
inductive Reading where
  /-- Not a number. -/
  | nan
  /-- An infinity. -/
  | infinite (negative : Bool)
  /-- The number `mantissa * 2 ^ exponent`, with its sign. -/
  | finite (negative : Bool) (mantissa : Nat) (exponent : Int)
  deriving DecidableEq

/-- Take the bits of a double apart: one sign bit, eleven of exponent and 52 of
fraction, the leading one being implied unless the exponent field is zero. -/
def Reading.ofBits (bits : Nat) : Reading :=
  let negative := (bits >>> 63) % 2 = 1
  let field := (bits >>> 52) % (1 <<< 11)
  let fraction := bits % (1 <<< 52)
  if field = 2047 then
    if fraction = 0 then .infinite negative else .nan
  else if field = 0 then .finite negative fraction (-1074)
  else .finite negative ((1 <<< 52) + fraction) (Int.ofNat field - 1075)

/-- `10 ^ places`. -/
def powerOfTen (places : Nat) : Nat :=
  Nat.pow 10 places

/-- `mantissa * 2 ^ exponent`, counted in units of `10 ^ (-places)` and rounded. -/
def scaled (mantissa : Nat) (exponent : Int) (places : Nat) : Nat :=
  match exponent with
  | .ofNat e => (mantissa <<< e) * powerOfTen places
  | .negSucc e => roundHalfEven (mantissa * powerOfTen places) (1 <<< (e + 1))

/-- A number of units of `10 ^ (-places)` with its point; no point without places. -/
def pointed (units places : Nat) : String :=
  if places = 0 then toString units
  else
    let digits := (toString (units % powerOfTen places)).toList
    toString (units / powerOfTen places) ++ "." ++
      String.ofList (List.replicate (places - digits.length) '0' ++ digits)

/-- The text of a reading with the given number of places. The sign of zero,
and of a number that rounds to zero, is kept. -/
def Reading.text (places : Nat) : Reading → String
  | .nan => "NaN"
  | .infinite negative => if negative then "-inf" else "inf"
  | .finite negative mantissa exponent =>
    (if negative then "-" else "") ++ pointed (scaled mantissa exponent places) places

/-- A double with the given number of decimal places. -/
def fixed (places : Nat) (x : Float) : String :=
  (Reading.ofBits x.toBits.toNat).text places

end NetTopology.Decimal
