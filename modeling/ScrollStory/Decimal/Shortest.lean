import ScrollStory.Decimal.Basic
import ScrollStory.Decimal.Binary64

/-!
# The shortest decimal number that reads back

Of the decimal numbers that round to a given binary number, the one with the fewest digits, and of
those the one nearest to it. Each number of digits fixes a grid of decimal numbers, and only the two
neighbours of the binary number on a grid need to be tried. They may be equally near: then JSON
texts have the even one, and programs the larger one.
-/

namespace ScrollStory

/-- Which one is taken of two neighbours on a grid that are equally near. -/
inductive Tie where
  /-- The one with the even last digit. -/
  | toEven
  /-- The one further away from zero. -/
  | away
  deriving DecidableEq, Repr

/-- The one that is taken of a point on a grid and the next. -/
def Tie.pick : Tie → Nat → Nat
  | toEven, n => n + n % 2
  | away, n => n + 1

namespace Binary64

/-- The interval of the real numbers that round to a binary number, all in the same unit: the
number itself, its two ends, and the unit as the quotient `1 / den`. -/
structure Interval where
  value : Nat
  low : Nat
  high : Nat
  den : Nat
  /-- Whether the two ends belong to the interval. -/
  closed : Bool

/-- The interval of a binary number. Below the smallest mantissa of an exponent the numbers lie
twice as close. -/
def interval (x : Binary64) : Interval :=
  let unit := twoTo x.exponent.toNat
  let below := if x.mantissa = twoTo 52 ∧ -1074 < x.exponent then 1 else 2
  { value := 4 * x.mantissa * unit
    low := (4 * x.mantissa - below) * unit
    high := (4 * x.mantissa + 2) * unit
    den := 4 * x.denominator
    closed := x.mantissa % 2 = 0 }

namespace Interval

/-- Whether `num / den` lies in the interval, in its unit. -/
def holds (i : Interval) (num den : Nat) : Bool :=
  if i.closed then i.low * den ≤ num && num ≤ i.high * den
  else i.low * den < num && num < i.high * den

/-- The power of ten of the first digit of the value. -/
def magnitude (i : Interval) : Int :=
  ((Nat.toDigits 10 (i.value * tenTo 400 / i.den)).length : Int) - 401

/-- The point of the grid of multiples of `10 ^ power` that lies in the interval and nearest to the
value, if there is one. -/
def onGrid (tie : Tie) (i : Interval) (power : Int) : Option Nat :=
  let up := tenTo power.toNat
  let down := tenTo (-power).toNat
  let floor := i.value * down / (i.den * up)
  let inside (n : Nat) : Bool := i.holds (n * up * i.den) down
  let distance (n : Nat) : Nat :=
    let a := n * up * i.den
    let b := i.value * down
    (a - b) + (b - a)
  match inside floor && floor ≠ 0, inside (floor + 1) with
  | true, true =>
    if distance floor < distance (floor + 1) then some floor
    else if distance (floor + 1) < distance floor then some (floor + 1)
    else some (tie.pick floor)
  | true, false => some floor
  | false, true => some (floor + 1)
  | false, false => none

/-- The first grid with a point in the interval, from one digit on, `fuel` grids at most. -/
def firstHit (tie : Tie) (i : Interval) : Nat → Int → Nat × Int
  | 0, power => (i.value / i.den, power)
  | fuel + 1, power =>
    match i.onGrid tie power with
    | some n => (n, power)
    | none => firstHit tie i fuel (power - 1)

end Interval

/-- The shortest decimal number that rounds to a binary number with the given sign. -/
def shortest (tie : Tie) (negative : Bool) (x : Binary64) : Decimal :=
  if x.mantissa = 0 then ⟨negative, 0, 0⟩
  else
    let i := x.interval
    let (n, power) := i.firstHit tie 18 i.magnitude
    Decimal.normal negative n power

end Binary64

namespace Decimal

/-- The decimal number shown for `significand * 10 ^ exponent` once it is stored as a binary number;
nothing if it lies beyond the range of binary numbers. -/
def stored? (negative : Bool) (significand : Nat) (exponent : Int) : Option Decimal :=
  (Binary64.ofScientific? significand exponent).map (Binary64.shortest .toEven negative)

/-- The number with ties broken away from zero: what a program has for the binary number that a
number stands for. A number of at most fifteen digits is the only one that short that reads back, so
it stays as it is. -/
def tiesAway (d : Decimal) : Decimal :=
  if d.coefficient < tenTo 15 then d
  else
    let num := d.coefficient * tenTo d.exponent.toNat
    let den := tenTo (-d.exponent).toNat
    ((Binary64.ofQuotient? num den).map (Binary64.shortest .away d.negative)).getD d

/-- A number of at most fifteen digits has no tie to break. -/
theorem tiesAway_of_lt {d : Decimal} (h : d.coefficient < tenTo 15) : d.tiesAway = d :=
  if_pos h

end Decimal

end ScrollStory
