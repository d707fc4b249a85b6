import Mathlib.Data.Rat.Cast.Defs
import Mathlib.Tactic.NormNum
import Mathlib.Tactic.Ring
import ScrollStory.Decimal.Basic

/-!
# What a decimal number denotes

A decimal number denotes a rational one. Moving zeros between coefficient and exponent does not
change it (`ScrollStory.Decimal.value_normal`).
-/

namespace ScrollStory

namespace Decimal

/-- The rational number that a decimal number denotes. -/
def value (d : Decimal) : ℚ :=
  (if d.negative then -1 else 1) * (d.coefficient * 10 ^ d.exponent)

/-- The coefficient times the power of ten stays the same when zeros are moved. -/
theorem value_stripZeros (fuel n : Nat) (exponent : Int) :
    ((stripZeros fuel n exponent).1 : ℚ) * 10 ^ (stripZeros fuel n exponent).2 =
      n * 10 ^ exponent := by
  induction fuel generalizing n exponent with
  | zero => rfl
  | succ fuel ih =>
      by_cases divisible : n % 10 = 0
      · have quotient : ((n / 10 : Nat) : ℚ) * 10 = n := by
          exact_mod_cast Nat.div_mul_cancel (Nat.dvd_of_mod_eq_zero divisible)
        rw [stripZeros, if_pos divisible, ih, zpow_add_one₀ (by norm_num), ← quotient]
        ring
      · rw [stripZeros, if_neg divisible]

/-- A number keeps its value when the zeros at its end are taken off. -/
theorem value_normal (negative : Bool) (n : Nat) (exponent : Int) :
    (normal negative n exponent).value = (if negative then -1 else 1) * (n * 10 ^ exponent) := by
  by_cases zero : n = 0
  · subst zero
    simp [normal, value]
  · simp only [normal, zero, ↓reduceIte, value]
    rw [value_stripZeros]

/-- A number of thousandths is that number over a thousand. -/
theorem value_ofThousandths (n : Nat) : (ofThousandths n).value = n / 1000 := by
  rw [ofThousandths, value_normal]
  norm_num [zpow_neg]
  ring

end Decimal

end ScrollStory
