import ScrollStory.Decimal.Power

/-!
# Binary floating-point numbers of 64 bits

A non-negative finite number of the format is `mantissa * 2 ^ exponent` with a mantissa below
`2 ^ 53` and an exponent from -1074 to 971. Arithmetic is exact arithmetic on fractions of natural
numbers, rounded to the nearest number of the format, a tie to the even mantissa.
-/

namespace ScrollStory

/-- The number `mantissa * 2 ^ exponent`. -/
structure Binary64 where
  mantissa : Nat
  exponent : Int
  deriving DecidableEq, Repr

namespace Binary64

/-- Zero, in units of the smallest positive number. -/
def zero : Binary64 := ⟨0, -1074⟩

/-- The numerator of a number as a fraction. -/
def numerator (x : Binary64) : Nat := x.mantissa * twoTo x.exponent.toNat

/-- The denominator of a number as a fraction. -/
def denominator (x : Binary64) : Nat := twoTo (-x.exponent).toNat

/-- The quotient of two natural numbers, rounded to the nearest whole number, a tie to even. -/
def roundQuotient (num den : Nat) : Nat :=
  let quotient := num / den
  let twice := 2 * (num % den)
  if twice < den then quotient
  else if den < twice then quotient + 1
  else quotient + quotient % 2

/-- The largest `e` with `2 ^ e ≤ num / den`. -/
def log2Quotient (num den : Nat) : Int :=
  let guess : Int := (num.log2 : Int) - (den.log2 : Int)
  if den * twoTo guess.toNat ≤ num * twoTo (-guess).toNat then guess else guess - 1

/-- The number of the format nearest to `num / den`; nothing if that lies beyond its range. -/
def ofQuotient? (num den : Nat) : Option Binary64 :=
  if num = 0 then some zero
  else
    let exponent := max (log2Quotient num den - 52) (-1074)
    let mantissa := roundQuotient (num * twoTo (-exponent).toNat) (den * twoTo exponent.toNat)
    let rounded : Binary64 :=
      if mantissa = twoTo 53 then ⟨twoTo 52, exponent + 1⟩ else ⟨mantissa, exponent⟩
    if 971 < rounded.exponent then none else some rounded

/-- The nearest number to the quotient, or zero where there is none in range. -/
def ofQuotient (num den : Nat) : Binary64 :=
  (ofQuotient? num den).getD zero

/-- The product of two numbers, rounded; nothing if it lies beyond the range. -/
def mul? (x y : Binary64) : Option Binary64 :=
  ofQuotient? (x.numerator * y.numerator) (x.denominator * y.denominator)

/-- The quotient of two numbers, rounded. -/
def div (x y : Binary64) : Binary64 :=
  ofQuotient (x.numerator * y.denominator) (x.denominator * y.numerator)

/-- A power of ten, rounded. -/
def powerOfTen (n : Nat) : Binary64 :=
  ofQuotient (tenTo n) 1

/-- Divides a number by a power of ten, in steps of at most `10 ^ 308`, each of them rounded. -/
def scaleDown (x : Binary64) (n : Nat) : Binary64 :=
  if n ≤ 308 then x.div (powerOfTen n)
  else if x.mantissa = 0 then zero
  else scaleDown (x.div (powerOfTen 308)) (n - 308)
termination_by n

/-- The number for `significand * 10 ^ exponent`: the significand is rounded first, and then its
product with, or its quotient by, a rounded power of ten. Nothing if it lies beyond the range. -/
def ofScientific? (significand : Nat) (exponent : Int) : Option Binary64 :=
  let x := ofQuotient significand 1
  if exponent < 0 then some (x.scaleDown exponent.natAbs)
  else if x.mantissa = 0 then some zero
  else if exponent ≤ 308 then x.mul? (powerOfTen exponent.toNat)
  else none

end Binary64

end ScrollStory
