/-!
# Decimal numbers

A decimal number is a signed whole number of units of a power of ten. It is written in two ways:
in full, and as a JSON number, which uses an exponent for very large and very small values.
-/

namespace ScrollStory

/-- The number `coefficient * 10 ^ exponent`, negated if `negative`. A negative zero is kept apart
from zero. -/
structure Decimal where
  negative : Bool
  coefficient : Nat
  exponent : Int
  deriving DecidableEq, Repr

namespace Decimal

/-- Moves zeros at the end of the coefficient into the exponent, `fuel` of them at most. -/
def stripZeros : Nat → Nat → Int → Nat × Int
  | 0, coefficient, exponent => (coefficient, exponent)
  | fuel + 1, coefficient, exponent =>
    if coefficient % 10 = 0 then stripZeros fuel (coefficient / 10) (exponent + 1)
    else (coefficient, exponent)

/-- The number `coefficient * 10 ^ exponent` with a coefficient that does not end in a zero; zero
itself has exponent zero. -/
def normal (negative : Bool) (coefficient : Nat) (exponent : Int) : Decimal :=
  if coefficient = 0 then ⟨negative, 0, 0⟩
  else
    let (coefficient, exponent) := stripZeros coefficient coefficient exponent
    ⟨negative, coefficient, exponent⟩

/-- A whole number as a decimal number. -/
def ofInt (n : Int) : Decimal :=
  normal (n < 0) n.natAbs 0

/-- A number of thousandths as a decimal number. -/
def ofThousandths (n : Nat) : Decimal :=
  normal false n (-3)

/-- The digits of a number, without leading zeros. -/
def digits (n : Nat) : List Char :=
  Nat.toDigits 10 n

/-- The minus sign of a negative number. -/
def sign (d : Decimal) : List Char :=
  if d.negative then ['-'] else []

/-- The digits before and after the decimal point of a number written in full. The part after the
point is empty for a whole number. -/
def parts (d : Decimal) : List Char × List Char :=
  let ds := digits d.coefficient
  if 0 ≤ d.exponent then (ds ++ List.replicate d.exponent.toNat '0', [])
  else
    let places := (-d.exponent).toNat
    if places < ds.length then (ds.take (ds.length - places), ds.drop (ds.length - places))
    else (['0'], List.replicate (places - ds.length) '0' ++ ds)

/-- A number in full, with no exponent, and with no point if it is whole. -/
def plain (d : Decimal) : String :=
  let (whole, fraction) := d.parts
  String.ofList (d.sign ++ whole ++ if fraction.isEmpty then [] else '.' :: fraction)

/-- The power of ten of the first digit. -/
def magnitude (d : Decimal) : Int :=
  (digits d.coefficient).length + d.exponent - 1

/-- A number with one digit before the point and an exponent with its sign. -/
def scientific (d : Decimal) : String :=
  let ds := digits d.coefficient
  let power := d.magnitude
  String.ofList <|
    d.sign ++ ds.take 1 ++ (if ds.length = 1 then [] else '.' :: ds.drop 1) ++
      ['e', if power < 0 then '-' else '+'] ++ digits power.natAbs

/-- A number as a JSON number with a fraction: in full with at least one decimal place when it is
zero or its first digit stands for a power of ten from -5 to 15, and else with an exponent. -/
def json (d : Decimal) : String :=
  if d.coefficient = 0 ∨ (-5 ≤ d.magnitude ∧ d.magnitude ≤ 15) then
    let (whole, fraction) := d.parts
    String.ofList (d.sign ++ whole ++ '.' :: if fraction.isEmpty then ['0'] else fraction)
  else d.scientific

end Decimal

end ScrollStory
