import ScrollStory.Decimal.Shortest
import ScrollStory.Json.Fault

/-!
# Numbers of JSON texts

A numeral is a number as it is spelled. Its value is a whole number if it has neither a fraction nor
an exponent and fits 64 bits, and else the decimal number shown for the binary number that stores
it.
-/

namespace ScrollStory

namespace Json

/-- A number of a JSON text. -/
inductive Number where
  | whole (n : Int)
  | decimal (d : Decimal)
  deriving DecidableEq, Repr

/-- A number as it is spelled: lists of decimal digits in reading order. -/
structure Numeral where
  negative : Bool
  whole : List Nat
  fraction : Option (List Nat)
  /-- The sign, negative or not, and the digits of the exponent. -/
  exponent : Option (Bool × List Nat)
  deriving DecidableEq, Repr

namespace Numeral

/-- Reads digits onto a number as long as it stays below `2 ^ 64`, and gives back the digits left
over from the first one that does not fit. -/
def significand : Nat → List Nat → Nat × List Nat
  | n, [] => (n, [])
  | n, d :: ds => if n * 10 + d < twoTo 64 then significand (n * 10 + d) ds else (n, d :: ds)

/-- The number that a list of digits spells. -/
def ofDigits (ds : List Nat) : Nat :=
  ds.foldl (fun n d => n * 10 + d) 0

/-- The value of the exponent, zero if there is none. -/
def power (numeral : Numeral) : Int :=
  match numeral.exponent with
  | none => 0
  | some (negative, ds) => if negative then -(ofDigits ds : Int) else ofDigits ds

/-- The value of a numeral with a fraction, an exponent or more than 64 bits. Digits that do not fit
the significand count as zeros before the point and for nothing behind it. -/
def stored (numeral : Numeral) : Except Fault Number :=
  let (n, dropped) := significand 0 numeral.whole
  let places := numeral.fraction.getD []
  let (n, ignored) := significand n places
  let shift : Int := dropped.length - (places.length - ignored.length : Nat)
  match Decimal.stored? numeral.negative n (shift + numeral.power) with
  | some d => .ok (.decimal d)
  | none => .error .numberOutOfRange

/-- The value of a numeral. -/
def value (numeral : Numeral) : Except Fault Number :=
  match numeral.fraction, numeral.exponent, significand 0 numeral.whole with
  | none, none, (n, []) =>
    if numeral.negative then
      if n = 0 ∨ twoTo 63 < n then numeral.stored else .ok (.whole (-n))
    else .ok (.whole n)
  | _, _, _ => numeral.stored

end Numeral

/-- A number as something found where something else is wanted. -/
def Number.found : Number → Found
  | whole n => .whole n
  | decimal d => .decimal d

end Json

end ScrollStory
