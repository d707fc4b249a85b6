import Mathlib.Algebra.Order.Field.Power
import Mathlib.Data.Rat.Cast.Order
import Mathlib.Tactic.FieldSimp
import Mathlib.Tactic.Linarith
import Mathlib.Tactic.Positivity
import Mathlib.Tactic.Ring
import ScrollStory.Decimal.Binary64

/-!
# Rounding to binary numbers

A quotient of natural numbers in the range of numbers with a full mantissa is rounded to a number
with a full mantissa, half a unit away from it at most, and to an even mantissa where it lies in the
middle (`ScrollStory.Binary64.rounds_ofQuotient`). A whole number that a mantissa can hold stays as
it is (`ScrollStory.Binary64.value_ofQuotient_nat`).
-/

namespace ScrollStory

/-! ## Powers on both sides of a fraction -/

/-- A power is the quotient of the two powers whose exponents are natural numbers, of which one is
zero. -/
theorem pow_toNat_div (b : ℚ) (e : Int) : b ^ e.toNat / b ^ (-e).toNat = b ^ e := by
  obtain ⟨n, rfl | rfl⟩ := e.eq_nat_or_neg
  · have none : (-(n : Int)).toNat = 0 := by omega
    rw [Int.toNat_natCast, none, pow_zero, div_one, zpow_natCast]
  · have none : (-(n : Int)).toNat = 0 := by omega
    rw [neg_neg, Int.toNat_natCast, none, pow_zero, one_div, zpow_neg, zpow_natCast]

theorem cast_twoTo (n : Nat) : (twoTo n : ℚ) = 2 ^ n := by
  rw [twoTo]
  exact Nat.cast_pow 2 n

theorem cast_tenTo (n : Nat) : (tenTo n : ℚ) = 10 ^ n := by
  rw [tenTo]
  exact Nat.cast_pow 10 n

theorem twoTo_pos (n : Nat) : 0 < twoTo n := Nat.pow_pos (by decide)

theorem tenTo_pos (n : Nat) : 0 < tenTo n := Nat.pow_pos (by decide)

namespace Binary64

variable {num den : Nat}

/-! ## Quotients rounded to whole numbers -/

/-- A quotient in its whole part and the rest. -/
theorem quotient_eq (positive : 0 < den) :
    (num : ℚ) / den = (num / den : Nat) + ((num % den : Nat) : ℚ) / den := by
  have some : (den : ℚ) ≠ 0 := by exact_mod_cast positive.ne'
  have split : (den * (num / den : Nat) + (num % den : Nat) : ℚ) = num := by
    exact_mod_cast Nat.div_add_mod num den
  rw [← split]
  field_simp

/-- A rest is less than half just if twice the rest is less than the divisor. -/
theorem rest_lt_half_iff (rest : Nat) (positive : 0 < den) :
    (rest : ℚ) / den < 1 / 2 ↔ 2 * rest < den := by
  have unit : (0 : ℚ) < den := by exact_mod_cast positive
  have scaled : (rest : ℚ) / den < 1 / 2 ↔ (2 * rest : ℚ) < den := by
    rw [div_lt_div_iff₀ unit two_pos, one_mul, mul_comm]
  rw [scaled]
  exact_mod_cast Iff.rfl

/-- A rest is more than half just if twice the rest is more than the divisor. -/
theorem half_lt_rest_iff (rest : Nat) (positive : 0 < den) :
    1 / 2 < (rest : ℚ) / den ↔ den < 2 * rest := by
  have unit : (0 : ℚ) < den := by exact_mod_cast positive
  have scaled : 1 / 2 < (rest : ℚ) / den ↔ (den : ℚ) < 2 * rest := by
    rw [div_lt_div_iff₀ two_pos unit, one_mul, mul_comm]
  rw [scaled]
  exact_mod_cast Iff.rfl

/-- A rounded quotient is half a unit away at most, and even if it is half a unit away. -/
theorem roundQuotient_near (num : Nat) (positive : 0 < den) :
    |(roundQuotient num den : ℚ) - num / den| ≤ 1 / 2 ∧
      (|(roundQuotient num den : ℚ) - num / den| = 1 / 2 → roundQuotient num den % 2 = 0) := by
  have below := rest_lt_half_iff (num % den) positive
  have above := half_lt_rest_iff (num % den) positive
  rw [quotient_eq positive]
  set rest : ℚ := ((num % den : Nat) : ℚ) / den with restEq
  have small : 0 ≤ rest := by positivity
  unfold roundQuotient
  dsimp only
  split
  · rename_i less
    have less := below.mpr less
    rw [abs_sub_comm, add_sub_cancel_left, abs_of_nonneg small]
    exact ⟨less.le, fun tie => (less.ne tie).elim⟩
  · split
    · rename_i more
      have more := above.mpr more
      have whole : rest ≤ 1 := by
        rw [restEq, div_le_one (by exact_mod_cast positive)]
        exact_mod_cast (Nat.mod_lt num positive).le
      have error : |((num / den + 1 : Nat) : ℚ) - ((num / den : Nat) + rest)| = 1 - rest := by
        push_cast
        rw [add_sub_add_left_eq_sub, abs_of_nonneg (by linarith)]
      rw [error]
      exact ⟨by linarith, fun tie => by linarith⟩
    · -- A tie goes to the even number of the two.
      rename_i notLess notMore
      have half : rest = 1 / 2 :=
        le_antisymm (not_lt.mp (notMore ∘ above.mp)) (not_lt.mp (notLess ∘ below.mp))
      rw [half]
      rcases Nat.mod_two_eq_zero_or_one (num / den) with even | odd
      · rw [even, Nat.add_zero, abs_sub_comm, add_sub_cancel_left]
        norm_num [even]
      · rw [odd]
        push_cast
        rw [add_sub_add_left_eq_sub]
        norm_num
        omega

/-- A quotient without a rest is not rounded. -/
theorem roundQuotient_mul (positive : 0 < den) (n : Nat) : roundQuotient (n * den) den = n := by
  simp [roundQuotient, Nat.mul_mod_left, Nat.mul_div_cancel _ positive, positive]

/-! ## The power of two of the first digit -/

/-- A number is between the power of two that its logarithm names and the next one. -/
theorem log2_bounds {n : Nat} (positive : 0 < n) :
    (2 : ℚ) ^ (n.log2 : Int) ≤ n ∧ (n : ℚ) < 2 ^ ((n.log2 : Int) + 1) := by
  constructor
  · exact_mod_cast Nat.log2_self_le positive.ne'
  · exact_mod_cast @Nat.lt_log2_self n

/-- The difference of the two logarithms is that of the quotient, or one more. -/
theorem log2_sub_bounds (numerator : 0 < num) (positive : 0 < den) :
    (2 : ℚ) ^ ((num.log2 : Int) - den.log2 - 1) ≤ (num : ℚ) / den ∧
      (num : ℚ) / den < 2 ^ ((num.log2 : Int) - den.log2 + 1) := by
  obtain ⟨numLow, numHigh⟩ := log2_bounds numerator
  obtain ⟨denLow, denHigh⟩ := log2_bounds positive
  have unit : (0 : ℚ) < den := by exact_mod_cast positive
  constructor
  · rw [le_div_iff₀ unit]
    calc (2 : ℚ) ^ ((num.log2 : Int) - den.log2 - 1) * den
        ≤ 2 ^ ((num.log2 : Int) - den.log2 - 1) * 2 ^ ((den.log2 : Int) + 1) := by gcongr
      _ = 2 ^ (num.log2 : Int) := by
          rw [← zpow_add₀ two_ne_zero]
          congr 1
          omega
      _ ≤ num := numLow
  · rw [div_lt_iff₀ unit]
    calc (num : ℚ) < 2 ^ ((num.log2 : Int) + 1) := numHigh
      _ = 2 ^ ((num.log2 : Int) - den.log2 + 1) * 2 ^ (den.log2 : Int) := by
          rw [← zpow_add₀ two_ne_zero]
          congr 1
          omega
      _ ≤ 2 ^ ((num.log2 : Int) - den.log2 + 1) * den := by gcongr

/-- A power of two is compared with a quotient in whole numbers. -/
theorem pow_le_quotient_iff (positive : 0 < den) (e : Int) :
    (2 : ℚ) ^ e ≤ (num : ℚ) / den ↔ den * twoTo e.toNat ≤ num * twoTo (-e).toNat := by
  have unit : (0 : ℚ) < den := by exact_mod_cast positive
  have scale : (0 : ℚ) < 2 ^ (-e).toNat := by positivity
  rw [← pow_toNat_div, div_le_div_iff₀ scale unit, mul_comm ((2 : ℚ) ^ e.toNat), ← cast_twoTo,
    ← cast_twoTo]
  exact_mod_cast Iff.rfl

/-- A positive quotient lies between two powers of two that follow each other. -/
theorem log2Quotient_bounds (numerator : 0 < num) (positive : 0 < den) :
    (2 : ℚ) ^ log2Quotient num den ≤ (num : ℚ) / den ∧
      (num : ℚ) / den < 2 ^ (log2Quotient num den + 1) := by
  obtain ⟨lower, upper⟩ := log2_sub_bounds numerator positive
  unfold log2Quotient
  dsimp only
  split
  · rename_i fits
    exact ⟨(pow_le_quotient_iff positive _).mpr fits, upper⟩
  · rename_i misses
    rw [← pow_le_quotient_iff positive, not_le] at misses
    rw [sub_add_cancel]
    exact ⟨lower, misses⟩

/-! ## Rounding to a full mantissa -/

/-- The rational number that a binary number stands for. -/
def value (x : Binary64) : ℚ := x.mantissa * 2 ^ x.exponent

/-- A binary number is its numerator over its denominator. -/
theorem value_eq_div (x : Binary64) : x.value = x.numerator / x.denominator := by
  rw [numerator, denominator, Nat.cast_mul, cast_twoTo, cast_twoTo, mul_div_assoc, pow_toNat_div,
    value]

theorem denominator_pos (x : Binary64) : 0 < x.denominator := twoTo_pos _

/-- A binary number with a full mantissa is the one that is nearest to a number, and even where
another one is equally near. Below the smallest mantissa the numbers lie twice as close. -/
structure Rounds (x : Binary64) (q : ℚ) : Prop where
  full : twoTo 52 ≤ x.mantissa
  near : |x.value - q| ≤ 2 ^ x.exponent / 2
  tie : |x.value - q| = 2 ^ x.exponent / 2 → x.mantissa % 2 = 0
  below : x.mantissa = twoTo 52 → x.value - q ≤ 2 ^ x.exponent / 4

/-- A mantissa in units of a power of two. One that has a digit too many is halved in units twice as
large. -/
def carry (mantissa : Nat) (e : Int) : Binary64 :=
  if mantissa = twoTo 53 then ⟨twoTo 52, e + 1⟩ else ⟨mantissa, e⟩

/-- Carrying a mantissa does not change the number. -/
theorem value_carry (mantissa : Nat) (e : Int) : (carry mantissa e).value = mantissa * 2 ^ e := by
  unfold carry
  split
  · rename_i carried
    rw [value, carried, cast_twoTo, cast_twoTo, zpow_add_one₀ two_ne_zero]
    ring
  · rfl

/-- The quotient of two numbers in the usual range is rounded to a mantissa of 53 bits. -/
theorem ofQuotient?_eq_carry {e : Int} (numerator : 0 < num)
    (exponent : log2Quotient num den - 52 = e) (low : -1074 ≤ e) (high : e ≤ 970) :
    ofQuotient? num den =
      some (carry (roundQuotient (num * twoTo (-e).toNat) (den * twoTo e.toNat)) e) := by
  rw [ofQuotient?, if_neg numerator.ne']
  simp only [exponent, max_eq_left low]
  refine if_neg ?_
  split
  · dsimp only
    omega
  · dsimp only
    omega

/-- A quotient in units of a power of two. -/
theorem scaled_quotient (e : Int) :
    ((num * twoTo (-e).toNat : Nat) : ℚ) / (den * twoTo e.toNat : Nat) =
      (num : ℚ) / den / 2 ^ e := by
  rw [← pow_toNat_div 2 e, Nat.cast_mul, Nat.cast_mul, cast_twoTo, cast_twoTo]
  field_simp

/-- What is rounded from a full mantissa is one. -/
theorem full_of_near {q : ℚ} {mantissa : Nat} (some : (2 : ℚ) ^ 52 ≤ q)
    (near : |(mantissa : ℚ) - q| ≤ 1 / 2) : twoTo 52 ≤ mantissa := by
  have known : ((twoTo 52 - 1 : Nat) : ℚ) = 2 ^ 52 - 1 := by norm_num [twoTo]
  have above : ((twoTo 52 - 1 : Nat) : ℚ) < mantissa := by
    rw [known]
    linarith [(abs_le.mp near).1]
  have above : twoTo 52 - 1 < mantissa := by exact_mod_cast above
  omega

/-- A mantissa rounded in units of a power of two gives the number that is nearest. -/
theorem rounds_carry {q : ℚ} {mantissa : Nat} {e : Int} (some : (2 : ℚ) ^ 52 ≤ q / 2 ^ e)
    (near : |(mantissa : ℚ) - q / 2 ^ e| ≤ 1 / 2)
    (tie : |(mantissa : ℚ) - q / 2 ^ e| = 1 / 2 → mantissa % 2 = 0) :
    (carry mantissa e).Rounds q := by
  have unit : (0 : ℚ) < 2 ^ e := by positivity
  have distance : |(carry mantissa e).value - q| = |(mantissa : ℚ) - q / 2 ^ e| * 2 ^ e := by
    rw [value_carry, ← abs_of_pos unit, ← abs_mul, abs_of_pos unit, sub_mul,
      div_mul_cancel₀ _ unit.ne']
  have close : |(carry mantissa e).value - q| ≤ 2 ^ e / 2 := by
    rw [distance]
    calc |(mantissa : ℚ) - q / 2 ^ e| * 2 ^ e ≤ 1 / 2 * 2 ^ e := by gcongr
      _ = 2 ^ e / 2 := by ring
  by_cases carried : mantissa = twoTo 53
  · have made : carry mantissa e = ⟨twoTo 52, e + 1⟩ := if_pos carried
    -- In the larger unit, half of the old unit is a quarter.
    have twice : (2 : ℚ) ^ (e + 1) = 2 * 2 ^ e := by rw [zpow_add_one₀ two_ne_zero, mul_comm]
    rw [made] at close ⊢
    refine ⟨le_rfl, ?_, fun _ => (by decide : twoTo 52 % 2 = 0), fun _ => ?_⟩
    · dsimp only
      linarith
    · have less := (abs_le.mp close).2
      dsimp only
      linarith
  · have made : carry mantissa e = ⟨mantissa, e⟩ := if_neg carried
    rw [made] at close distance ⊢
    refine ⟨full_of_near some near, close, fun same => tie ?_, fun smallest => ?_⟩
    · rw [distance] at same
      exact mul_right_cancel₀ unit.ne' (same.trans (by ring))
    · have reached : (2 : ℚ) ^ 52 * 2 ^ e ≤ q := (le_div_iff₀ unit).mp some
      have known : (mantissa : ℚ) = 2 ^ 52 := by
        rw [show mantissa = twoTo 52 from smallest, cast_twoTo]
      rw [value, known]
      dsimp only
      linarith

/-- **Rounding.** A quotient in the range of the numbers with a full mantissa is rounded to one that
is nearest to it. -/
theorem rounds_ofQuotient (numerator : 0 < num) (positive : 0 < den)
    (low : (2 : ℚ) ^ (-1022 : Int) ≤ (num : ℚ) / den)
    (high : (num : ℚ) / den < 2 ^ (1023 : Int)) :
    ∃ x, ofQuotient? num den = some x ∧ x.Rounds ((num : ℚ) / den) := by
  obtain ⟨lower, upper⟩ := log2Quotient_bounds numerator positive
  have first : -1022 < log2Quotient num den + 1 :=
    (zpow_lt_zpow_iff_right₀ one_lt_two).mp (low.trans_lt upper)
  have last : log2Quotient num den < 1023 :=
    (zpow_lt_zpow_iff_right₀ one_lt_two).mp (lower.trans_lt high)
  obtain ⟨e, exponent⟩ : ∃ e, log2Quotient num den - 52 = e := ⟨_, rfl⟩
  have some : (2 : ℚ) ^ 52 ≤ (num : ℚ) / den / 2 ^ e := by
    rw [le_div_iff₀ (by positivity), ← zpow_natCast, ← zpow_add₀ two_ne_zero]
    exact (congrArg (fun k => (2 : ℚ) ^ k) (by omega)).trans_le lower
  obtain ⟨near, tie⟩ := roundQuotient_near (num * twoTo (-e).toNat)
    (Nat.mul_pos positive (twoTo_pos e.toNat))
  rw [scaled_quotient] at near tie
  exact ⟨_, ofQuotient?_eq_carry numerator exponent (by omega) (by omega),
    rounds_carry some near tie⟩

/-- A whole number that a mantissa can hold is not changed. -/
theorem value_ofQuotient_nat {n : Nat} (small : n < twoTo 53) : (ofQuotient n 1).value = n := by
  by_cases zero : n = 0
  · subst zero
    simp [ofQuotient, ofQuotient?, value, Binary64.zero]
  have positive : 0 < n := Nat.pos_of_ne_zero zero
  obtain ⟨lower, upper⟩ := log2Quotient_bounds positive Nat.one_pos
  rw [Nat.cast_one, div_one] at lower upper
  have first : 0 < log2Quotient n 1 + 1 := by
    have one : (2 : ℚ) ^ (0 : Int) ≤ n := by
      rw [zpow_zero]
      exact_mod_cast positive
    exact (zpow_lt_zpow_iff_right₀ one_lt_two).mp (one.trans_lt upper)
  have last : log2Quotient n 1 < 53 := by
    have bound : (n : ℚ) < 2 ^ (53 : Int) := by exact_mod_cast (show n < 2 ^ 53 from small)
    exact (zpow_lt_zpow_iff_right₀ one_lt_two).mp (lower.trans_lt bound)
  obtain ⟨k, exponent⟩ : ∃ k : Nat, log2Quotient n 1 - 52 = -k :=
    ⟨(52 - log2Quotient n 1).toNat, by omega⟩
  have none : (-(k : Int)).toNat = 0 := by omega
  rw [ofQuotient, ofQuotient?_eq_carry positive exponent (by omega) (by omega), Option.getD_some,
    value_carry, neg_neg, Int.toNat_natCast, none, show 1 * twoTo 0 = 1 from rfl,
    ← Nat.mul_one (n * twoTo k), roundQuotient_mul Nat.one_pos, Nat.cast_mul, cast_twoTo, mul_assoc,
    zpow_neg, zpow_natCast, mul_inv_cancel₀ (by positivity), mul_one]

end Binary64

end ScrollStory
