import ScrollStory.Decimal.Shortest
import ScrollStory.Proofs.Decimal.Rounding
import ScrollStory.Proofs.Decimal.Value

/-!
# Short decimal numbers come back

A decimal number of at most fourteen digits is the one that is shown for the binary number nearest to
it, however ties are broken (`ScrollStory.Binary64.Rounds.shortest_eq`). The numbers that round to a
binary number lie so close together that among them there is only one such decimal number, and the
search through finer and finer grids meets it before it meets any other.
-/

namespace ScrollStory

/-! ## One form for each decimal number -/

namespace Decimal

/-- Units of a power of ten in units of a smaller one. -/
theorem shift_units (n t : Nat) (e : Int) :
    ((n * 10 ^ t : Nat) : ℚ) * 10 ^ e = n * 10 ^ (e + t) := by
  rw [zpow_add₀ (by norm_num), zpow_natCast]
  push_cast
  ring

/-- Zeros at the end go over into the exponent, and none is left if there may be enough of them. -/
theorem stripZeros_eq {fuel n : Nat} (positive : 0 < n) (enough : n ≤ fuel) (e : Int) :
    ∃ strip t : Nat, stripZeros fuel n e = (strip, e + t) ∧ n = strip * 10 ^ t ∧ strip % 10 ≠ 0 := by
  induction fuel generalizing n e with
  | zero => omega
  | succ fuel ih =>
      by_cases divisible : n % 10 = 0
      · obtain ⟨strip, t, stripped, same, last⟩ := ih (n := n / 10) (by omega) (by omega) (e + 1)
        refine ⟨strip, t + 1, ?_, ?_, last⟩
        · rw [stripZeros, if_pos divisible, stripped]
          push_cast
          rw [add_assoc, add_comm (1 : Int)]
        · rw [pow_succ, ← mul_assoc, ← same]
          omega
      · exact ⟨n, 0, by simp [stripZeros, divisible], by simp, divisible⟩

/-- Coefficients that do not end in a zero tell numbers apart. -/
theorem coefficient_inj {m n : Nat} {d e : Int} (first : m % 10 ≠ 0) (second : n % 10 ≠ 0)
    (same : (m : ℚ) * 10 ^ d = n * 10 ^ e) : m = n ∧ d = e := by
  wlog ordered : d ≤ e generalizing m n d e
  · obtain ⟨coefficients, exponents⟩ := this second first same.symm (by omega)
    exact ⟨coefficients.symm, exponents.symm⟩
  obtain ⟨t, rfl⟩ : ∃ t : Nat, e = d + t := ⟨(e - d).toNat, by omega⟩
  rw [← shift_units] at same
  have scaled : m = n * 10 ^ t := by
    exact_mod_cast mul_right_cancel₀ (zpow_ne_zero d (by norm_num : (10 : ℚ) ≠ 0)) same
  cases t with
  | zero => exact ⟨by simpa using scaled, by simp⟩
  | succ t =>
      rw [pow_succ, ← mul_assoc] at scaled
      omega

/-- **One form for each number.** Numbers in units of powers of ten have the same form if they are
equal. -/
theorem normal_congr {m n : Nat} {d e : Int} (negative : Bool)
    (same : (m : ℚ) * 10 ^ d = n * 10 ^ e) : normal negative m d = normal negative n e := by
  have unit (k : Int) : (10 : ℚ) ^ k ≠ 0 := zpow_ne_zero k (by norm_num)
  have zeros : m = 0 ↔ n = 0 := by
    rw [← Nat.cast_eq_zero (R := ℚ), ← mul_left_inj' (unit d), same, zero_mul, mul_eq_zero,
      or_iff_left (unit e), Nat.cast_eq_zero]
  by_cases zero : m = 0
  · rw [normal, normal, if_pos zero, if_pos (zeros.mp zero)]
  · have zero' : n ≠ 0 := fun absent => zero (zeros.mpr absent)
    obtain ⟨a, s, stripped, left, first⟩ := stripZeros_eq (Nat.pos_of_ne_zero zero) le_rfl d
    obtain ⟨b, t, stripped', right, second⟩ := stripZeros_eq (Nat.pos_of_ne_zero zero') le_rfl e
    rw [left, right, shift_units, shift_units] at same
    obtain ⟨rfl, exponents⟩ := coefficient_inj first second same
    simp only [normal, zero, zero', ↓reduceIte, stripped, stripped', exponents]

end Decimal

namespace Binary64

namespace Interval

variable {i : Interval} {tie : Tie}

/-! ## Grids -/

/-- A rational number lies in an interval. -/
def Contains (i : Interval) (r : ℚ) : Prop :=
  if i.closed then (i.low : ℚ) ≤ r * i.den ∧ r * i.den ≤ i.high
  else (i.low : ℚ) < r * i.den ∧ r * i.den < i.high

theorem Contains.within {r : ℚ} (contains : i.Contains r) :
    (i.low : ℚ) ≤ r * i.den ∧ r * i.den ≤ i.high := by
  unfold Contains at contains
  split at contains
  · exact contains
  · exact ⟨contains.1.le, contains.2.le⟩

/-- What lies between two numbers of an interval lies in the interval. -/
theorem Contains.between {a r b : ℚ} (first : i.Contains a) (last : i.Contains b) (low : a ≤ r)
    (high : r ≤ b) : i.Contains r := by
  have unit : (0 : ℚ) ≤ i.den := Nat.cast_nonneg _
  have lower := mul_le_mul_of_nonneg_right low unit
  have upper := mul_le_mul_of_nonneg_right high unit
  unfold Contains at first last ⊢
  split at first
  · rename_i closed
    rw [if_pos closed] at last ⊢
    exact ⟨first.1.trans lower, upper.trans last.2⟩
  · rename_i closed
    rw [if_neg closed] at last ⊢
    exact ⟨first.1.trans_le lower, upper.trans_lt last.2⟩

/-- The test of a point on a grid. -/
theorem holds_iff (n : Nat) (power : Int) :
    i.holds (n * tenTo power.toNat * i.den) (tenTo (-power).toNat) = true ↔
      i.Contains (n * 10 ^ power) := by
  have scale : (0 : ℚ) < 10 ^ (-power).toNat := by positivity
  have point : ((n * tenTo power.toNat * i.den : Nat) : ℚ) =
      n * 10 ^ power * i.den * 10 ^ (-power).toNat := by
    rw [← pow_toNat_div]
    push_cast [cast_tenTo]
    field_simp
  have bound (limit : Nat) :
      ((limit * tenTo (-power).toNat : Nat) : ℚ) = limit * 10 ^ (-power).toNat := by
    rw [Nat.cast_mul, cast_tenTo]
  unfold holds Contains
  split <;> simp only [Bool.and_eq_true, decide_eq_true_eq]
  · rw [← Nat.cast_le (α := ℚ), ← Nat.cast_le (α := ℚ), point, bound, bound,
      mul_le_mul_iff_of_pos_right scale, mul_le_mul_iff_of_pos_right scale]
  · rw [← Nat.cast_lt (α := ℚ), ← Nat.cast_lt (α := ℚ), point, bound, bound,
      mul_lt_mul_iff_of_pos_right scale, mul_lt_mul_iff_of_pos_right scale]

/-- The rational number in the middle of an interval. -/
def center (i : Interval) : ℚ := i.value / i.den

/-- The point of a grid below the value. -/
theorem floor_bounds (positive : 0 < i.den) (power : Int) :
    ((i.value * tenTo (-power).toNat / (i.den * tenTo power.toNat) : Nat) : ℚ) * 10 ^ power ≤
        i.center ∧
      i.center <
        ((i.value * tenTo (-power).toNat / (i.den * tenTo power.toNat) + 1 : Nat) : ℚ) *
          10 ^ power := by
  have scale : (0 : ℚ) < 10 ^ (-power).toNat := by positivity
  have unit : (0 : ℚ) < i.den := by exact_mod_cast positive
  have step : 0 < i.den * tenTo power.toNat := Nat.mul_pos positive (tenTo_pos _)
  have grid (n : Nat) : (n : ℚ) * 10 ^ power =
      (n * (i.den * tenTo power.toNat) : Nat) / (i.den * 10 ^ (-power).toNat) := by
    rw [← pow_toNat_div]
    push_cast [cast_tenTo]
    field_simp
  have middle : i.center =
      (i.value * tenTo (-power).toNat : Nat) / (i.den * 10 ^ (-power).toNat) := by
    rw [center]
    push_cast [cast_tenTo]
    field_simp
  rw [grid, grid, middle]
  constructor
  · apply (div_le_div_iff_of_pos_right (mul_pos unit scale)).mpr
    exact_mod_cast Nat.div_mul_le_self _ _
  · apply (div_lt_div_iff_of_pos_right (mul_pos unit scale)).mpr
    exact_mod_cast Nat.lt_mul_of_div_lt (Nat.lt_succ_self _) step

/-- A tie is decided for one of the two neighbours. -/
theorem pick_cases (tie : Tie) (n : Nat) : tie.pick n = n ∨ tie.pick n = n + 1 := by
  cases tie with
  | toEven =>
      change n + n % 2 = n ∨ n + n % 2 = n + 1
      omega
  | away => exact .inr rfl

/-- A point that is found on a grid lies in the interval. -/
theorem contains_of_onGrid {power : Int} {n : Nat} (found : i.onGrid tie power = some n) :
    i.Contains (n * 10 ^ power) := by
  rw [← holds_iff]
  unfold onGrid at found
  dsimp only at found
  generalize i.value * tenTo (-power).toNat / (i.den * tenTo power.toNat) = floor at found
  split at found
  · rename_i here there
    rw [Bool.and_eq_true] at here
    split at found
    · cases found
      exact here.1
    · split at found
      · cases found
        exact there
      · cases found
        rcases pick_cases tie floor with same | next
        · rw [same]
          exact here.1
        · rw [next]
          exact there
  · rename_i here _
    rw [Bool.and_eq_true] at here
    cases found
    exact here.1
  · rename_i there
    cases found
    exact there
  · cases found

/-- If a point of a grid lies in the interval, one of the two neighbours of the value does. -/
theorem onGrid_ne_none {power : Int} {n : Nat} (positive : 0 < i.den)
    (center : i.Contains i.center) (some : n ≠ 0) (inside : i.Contains (n * 10 ^ power)) :
    i.onGrid tie power ≠ none := by
  intro absent
  obtain ⟨lower, upper⟩ := floor_bounds positive power
  unfold onGrid at absent
  dsimp only at absent
  generalize i.value * tenTo (-power).toNat / (i.den * tenTo power.toNat) = floor at *
  split at absent
  · split at absent
    · cases absent
    · split at absent <;> cases absent
  · cases absent
  · cases absent
  · rename_i here there
    rcases Nat.lt_or_ge floor n with above | below
    · have next : i.Contains ((floor + 1 : Nat) * 10 ^ power) := by
        refine center.between inside upper.le ?_
        gcongr
        exact above
      rw [← holds_iff, there] at next
      cases next
    · have last : i.Contains (floor * 10 ^ power) := by
        refine inside.between center ?_ lower
        gcongr
      have positive : floor ≠ 0 := by omega
      rw [← holds_iff] at last
      rw [last, Bool.true_and, decide_eq_false_iff_not] at here
      exact here positive

/-! ## The search -/

/-- The search ends with the only number in the interval that is on one of its grids. -/
theorem firstHit_value (tie : Tie) {q : ℚ} {n : Nat} {least : Int} (positive : 0 < i.den)
    (center : i.Contains i.center) (some : n ≠ 0) (equal : q = n * 10 ^ least)
    (inside : i.Contains q)
    (only : ∀ (k : Nat) (power : Int), least ≤ power → i.Contains (k * 10 ^ power) →
      (k : ℚ) * 10 ^ power = q)
    (fuel : Nat) {power : Int} (first : least ≤ power) (enough : power < least + fuel) :
    ((i.firstHit tie fuel power).1 : ℚ) * 10 ^ (i.firstHit tie fuel power).2 = q := by
  induction fuel generalizing power with
  | zero => omega
  | succ fuel ih =>
      rw [firstHit]
      cases found : i.onGrid tie power with
      | some k => exact only k power first (contains_of_onGrid found)
      | none =>
          have farther : power ≠ least := by
            rintro rfl
            exact onGrid_ne_none positive center some (equal ▸ inside) found
          exact ih (by omega) (by omega)

/-- The power of ten of the first digit of the value. -/
theorem le_magnitude_iff {power : Int} (positive : 0 < i.den) (large : -400 < power) :
    power ≤ i.magnitude ↔ (10 : ℚ) ^ power ≤ i.center := by
  have unit : (0 : ℚ) < i.den := by exact_mod_cast positive
  obtain ⟨places, rfl⟩ : ∃ places : Nat, power = places + 1 - 400 :=
    ⟨(power + 399).toNat, by omega⟩
  have scaled : (10 : ℚ) ^ ((places : Int) + 1 - 400) ≤ i.center ↔
      10 ^ (places + 1) * i.den ≤ i.value * tenTo 400 := by
    rw [center, le_div_iff₀ unit, zpow_sub₀ (by norm_num), div_mul_eq_mul_div,
      div_le_iff₀ (by positivity), ← Nat.cast_le (α := ℚ), Nat.cast_mul, Nat.cast_mul, cast_tenTo]
    norm_cast
  have digits := Nat.length_toDigits_le_iff (n := i.value * tenTo 400 / i.den)
    (by decide : 1 < 10) places.succ_pos
  rw [scaled, ← Nat.le_div_iff_mul_le positive, ← Nat.not_lt, ← digits, magnitude]
  omega

end Interval

/-! ## The interval of a binary number -/

section

variable {x : Binary64} {q r : ℚ}

/-- A binary number is in the middle of its interval. -/
theorem center_interval (x : Binary64) : x.interval.center = x.value := by
  have unit : (x.denominator : ℚ) ≠ 0 := by exact_mod_cast x.denominator_pos.ne'
  rw [Interval.center, value_eq_div, interval, numerator]
  push_cast
  field_simp

theorem den_interval_pos (x : Binary64) : 0 < x.interval.den :=
  Nat.mul_pos (by decide) x.denominator_pos

/-- A limit of an interval is given in quarters of the unit of the mantissa. -/
theorem cast_limit (x : Binary64) (quarters : Nat) :
    ((quarters * twoTo x.exponent.toNat : Nat) : ℚ) =
      quarters / 4 * 2 ^ x.exponent * x.interval.den := by
  have unit : (x.denominator : ℚ) ≠ 0 := by exact_mod_cast x.denominator_pos.ne'
  have power : (twoTo x.exponent.toNat : ℚ) = 2 ^ x.exponent * x.denominator := by
    rw [← pow_toNat_div, denominator, cast_twoTo, cast_twoTo]
    field_simp
  rw [interval, Nat.cast_mul, power]
  push_cast
  ring

/-- The numbers of an interval lie half a unit around the value, or a quarter below it for the
smallest mantissa. -/
theorem contains_interval (full : twoTo 52 ≤ x.mantissa) :
    ∃ below : ℚ, (below = 1 / 2 ∨ below = 1 / 4 ∧ x.mantissa = twoTo 52) ∧
      ∀ r, x.interval.Contains r ↔
        if x.mantissa % 2 = 0 then
          x.value - below * 2 ^ x.exponent ≤ r ∧ r ≤ x.value + 1 / 2 * 2 ^ x.exponent
        else x.value - below * 2 ^ x.exponent < r ∧ r < x.value + 1 / 2 * 2 ^ x.exponent := by
  have large : 2 ≤ 4 * x.mantissa := le_trans (by decide : 2 ≤ 4 * twoTo 52) (by omega)
  obtain ⟨quarters, few, low, which⟩ : ∃ quarters : Nat, quarters ≤ 2 ∧
      x.interval.low = (4 * x.mantissa - quarters) * twoTo x.exponent.toNat ∧
      ((quarters : ℚ) / 4 = 1 / 2 ∨ (quarters : ℚ) / 4 = 1 / 4 ∧ x.mantissa = twoTo 52) := by
    by_cases smallest : x.mantissa = twoTo 52 ∧ -1074 < x.exponent
    · exact ⟨1, by decide, by simp only [interval, smallest.1, smallest.2, and_self, ↓reduceIte],
        .inr ⟨by norm_num, smallest.1⟩⟩
    · exact ⟨2, le_rfl, by simp only [interval, smallest, ↓reduceIte], .inl (by norm_num)⟩
  have lowest : (x.interval.low : ℚ) =
      (x.value - quarters / 4 * 2 ^ x.exponent) * x.interval.den := by
    rw [low, cast_limit, Nat.cast_sub (by omega), value]
    push_cast
    ring
  have highest : (x.interval.high : ℚ) =
      (x.value + 1 / 2 * 2 ^ x.exponent) * x.interval.den := by
    have high : x.interval.high = (4 * x.mantissa + 2) * twoTo x.exponent.toNat := rfl
    rw [high, cast_limit, value]
    push_cast
    ring
  have closed : x.interval.closed = decide (x.mantissa % 2 = 0) := rfl
  have unit : (0 : ℚ) < x.interval.den := by exact_mod_cast x.den_interval_pos
  refine ⟨quarters / 4, which, fun r => ?_⟩
  rw [Interval.Contains, closed, lowest, highest]
  simp only [decide_eq_true_eq, mul_le_mul_iff_of_pos_right unit, mul_lt_mul_iff_of_pos_right unit]

/-- What is rounded lies in the interval of what it is rounded to. -/
theorem Rounds.contains (rounds : x.Rounds q) : x.interval.Contains q := by
  obtain ⟨below, which, contains⟩ := contains_interval rounds.full
  obtain ⟨left, right⟩ := abs_le.mp rounds.near
  have lower : x.value - below * 2 ^ x.exponent ≤ q := by
    rcases which with rfl | ⟨rfl, smallest⟩
    · linarith
    · linarith [rounds.below smallest]
  rw [contains]
  split
  · exact ⟨lower, by linarith⟩
  · rename_i odd
    have apart : |x.value - q| < 2 ^ x.exponent / 2 :=
      lt_of_le_of_ne rounds.near fun tie => odd (rounds.tie tie)
    obtain ⟨left, right⟩ := abs_lt.mp apart
    rcases which with rfl | ⟨rfl, smallest⟩
    · constructor <;> linarith
    · exact absurd (smallest ▸ (by decide : twoTo 52 % 2 = 0)) odd

/-- A number in the interval of a binary number with a full mantissa is at most half a unit from it.
-/
theorem near_of_contains (full : twoTo 52 ≤ x.mantissa) (inside : x.interval.Contains r) :
    |r - x.value| ≤ 2 ^ x.exponent / 2 := by
  obtain ⟨below, which, contains⟩ := contains_interval full
  have unit : (0 : ℚ) < 2 ^ x.exponent := by positivity
  have few : below * 2 ^ x.exponent ≤ 1 / 2 * 2 ^ x.exponent := by
    rcases which with rfl | ⟨rfl, _⟩
    · exact le_rfl
    · linarith
  rw [contains] at inside
  rw [abs_le]
  split at inside <;> constructor <;> linarith

/-- A binary number that is the nearest to some number lies in its own interval. -/
theorem Rounds.contains_value (rounds : x.Rounds q) : x.interval.Contains x.value := by
  have unit : (0 : ℚ) < 2 ^ x.exponent := by positivity
  have itself : x.Rounds x.value := by
    refine ⟨rounds.full, ?_, fun tie => ?_, fun _ => ?_⟩
    · rw [sub_self, abs_zero]
      positivity
    · rw [sub_self, abs_zero] at tie
      linarith
    · rw [sub_self]
      positivity
  exact itself.contains

end

/-! ## Numbers of few digits -/

namespace Rounds

variable {x : Binary64} {n : Nat} {power : Int}

theorem step_pos (power : Int) : (0 : ℚ) < 10 ^ (power - 1) := by positivity

/-- A number in steps of a tenth of its last digit. -/
theorem in_steps (n : Nat) (power : Int) :
    (n : ℚ) * 10 ^ power = (n * 10 : Nat) * 10 ^ (power - 1) := by
  simpa using (Decimal.shift_units n 1 (power - 1)).symm

/-- A positive multiple of a power of ten is at least ten steps of the next smaller power. -/
theorem ten_steps_le (power : Int) (positive : 0 < n) :
    10 * 10 ^ (power - 1) ≤ (n : ℚ) * 10 ^ power := by
  rw [in_steps]
  gcongr
  exact_mod_cast (by omega : 10 ≤ n * 10)

/-- A number of at most fourteen digits is at most a quadrillion steps of the next smaller power. -/
theorem le_steps (power : Int) (few : n < tenTo 14) :
    (n : ℚ) * 10 ^ power ≤ 10 ^ 15 * 10 ^ (power - 1) := by
  have few : n < 10 ^ 14 := few
  rw [in_steps]
  gcongr
  exact_mod_cast (by omega : n * 10 ≤ 10 ^ 15)

/-- The numbers that round to the same binary number are less than a step apart. -/
theorem unit_lt_step (rounds : x.Rounds (n * 10 ^ power)) (few : n < tenTo 14) :
    (2 : ℚ) ^ x.exponent < 10 ^ (power - 1) := by
  have full : (2 : ℚ) ^ 52 * 2 ^ x.exponent ≤ x.value := by
    rw [value]
    gcongr
    exact_mod_cast rounds.full
  have unit : (0 : ℚ) < 2 ^ x.exponent := by positivity
  linarith [(abs_le.mp rounds.near).2, le_steps power few, step_pos power]

/-- There is one number in the interval on the grids of steps. -/
theorem eq_of_contains (rounds : x.Rounds (n * 10 ^ power)) (few : n < tenTo 14) (k : Nat)
    (other : Int) (coarse : power - 1 ≤ other) (inside : x.interval.Contains (k * 10 ^ other)) :
    (k : ℚ) * 10 ^ other = n * 10 ^ power := by
  obtain ⟨t, rfl⟩ : ∃ t : Nat, other = power - 1 + t := ⟨(other - (power - 1)).toNat, by omega⟩
  have step := step_pos power
  have narrow := rounds.unit_lt_step few
  obtain ⟨left, right⟩ := abs_le.mp rounds.near
  obtain ⟨low, high⟩ := abs_le.mp (near_of_contains rounds.full inside)
  rw [← Decimal.shift_units] at low high ⊢
  rw [in_steps n] at left right ⊢
  -- Both are whole numbers of steps, and both round to a number whose unit is less than a step.
  have close : |((k * 10 ^ t : Nat) : ℚ) - (n * 10 : Nat)| < 1 := by
    have scaled : |((k * 10 ^ t : Nat) : ℚ) - (n * 10 : Nat)| * 10 ^ (power - 1) <
        1 * 10 ^ (power - 1) := by
      rw [← abs_of_pos step, ← abs_mul, abs_of_pos step, sub_mul, one_mul, abs_lt]
      constructor <;> linarith
    exact lt_of_mul_lt_mul_right scaled step.le
  have whole : |((k * 10 ^ t : Nat) : Int) - (n * 10 : Nat)| < 1 := by exact_mod_cast close
  have zero := Int.abs_lt_one_iff.mp whole
  have same : k * 10 ^ t = n * 10 := by omega
  rw [same]

/-- The search begins on one of the grids of steps, less than eighteen grids above the last. -/
theorem magnitude_bounds (rounds : x.Rounds (n * 10 ^ power)) (positive : 0 < n)
    (few : n < tenTo 14) (large : -390 < power) :
    power - 1 ≤ x.interval.magnitude ∧ x.interval.magnitude < power - 1 + 18 := by
  have step := step_pos power
  have narrow := rounds.unit_lt_step few
  have least := ten_steps_le power positive
  have most := le_steps power few
  obtain ⟨left, right⟩ := abs_le.mp rounds.near
  constructor
  · rw [Interval.le_magnitude_iff x.den_interval_pos (by omega), center_interval]
    linarith
  · rw [← Int.not_le, Interval.le_magnitude_iff x.den_interval_pos (by omega), center_interval,
      not_le, zpow_add₀ (by norm_num)]
    norm_num
    linarith

/-- **Short decimal numbers come back.** Of the decimal numbers that round to a binary number, one
with fourteen digits at most is the one that is shown. -/
theorem shortest_eq (rounds : x.Rounds (n * 10 ^ power)) (positive : 0 < n) (few : n < tenTo 14)
    (large : -390 < power) (tie : Tie) (negative : Bool) :
    x.shortest tie negative = Decimal.normal negative n power := by
  have center : x.interval.Contains x.interval.center :=
    (center_interval x).symm ▸ rounds.contains_value
  obtain ⟨first, last⟩ := rounds.magnitude_bounds positive few large
  have found := Interval.firstHit_value tie x.den_interval_pos center
    (by omega : n * 10 ≠ 0) (in_steps n power) rounds.contains (rounds.eq_of_contains few) 18 first
    last
  have mantissa : x.mantissa ≠ 0 := by
    have full := rounds.full
    have some := twoTo_pos 52
    omega
  rw [shortest, if_neg mantissa]
  exact Decimal.normal_congr negative found

end Rounds

/-! ## Quotients by powers of ten -/

/-- The powers of ten up to the fifteenth are binary numbers. -/
theorem value_powerOfTen {k : Nat} (small : k ≤ 15) : (powerOfTen k).value = 10 ^ k := by
  have fits : tenTo k < twoTo 53 :=
    (Nat.pow_le_pow_right (by decide) small).trans_lt (by decide : 10 ^ 15 < twoTo 53)
  rw [powerOfTen, value_ofQuotient_nat fits, cast_tenTo]

/-- A positive binary number has a positive numerator. -/
theorem numerator_pos {x : Binary64} (positive : 0 < x.value) : 0 < x.numerator := by
  rw [value_eq_div] at positive
  apply Nat.pos_of_ne_zero
  intro zero
  rw [zero, Nat.cast_zero, zero_div] at positive
  exact positive.false

/-- A quotient of binary numbers is rounded. -/
theorem rounds_div {x y : Binary64} (first : 0 < x.value) (second : 0 < y.value)
    (low : (2 : ℚ) ^ (-1022 : Int) ≤ x.value / y.value)
    (high : x.value / y.value < 2 ^ (1023 : Int)) : (x.div y).Rounds (x.value / y.value) := by
  have quotient : x.value / y.value =
      (x.numerator * y.denominator : Nat) / (x.denominator * y.numerator : Nat) := by
    rw [value_eq_div, value_eq_div]
    push_cast
    rw [div_div_div_eq]
  rw [quotient] at low high ⊢
  obtain ⟨z, made, rounds⟩ := rounds_ofQuotient
    (Nat.mul_pos (numerator_pos first) y.denominator_pos)
    (Nat.mul_pos x.denominator_pos (numerator_pos second)) low high
  rw [div, ofQuotient, made]
  exact rounds

/-- A whole number of few digits over a small power of ten is shown as this decimal number. -/
theorem shortest_div_powerOfTen {n k : Nat} (positive : 0 < n) (few : n < tenTo 14)
    (small : k ≤ 15) (tie : Tie) (negative : Bool) :
    ((ofQuotient n 1).div (powerOfTen k)).shortest tie negative =
      Decimal.normal negative n (-k) := by
  have numerator : (ofQuotient n 1).value = n :=
    value_ofQuotient_nat (few.trans (by decide))
  have denominator := value_powerOfTen small
  have quotient : (ofQuotient n 1).value / (powerOfTen k).value = n * 10 ^ (-(k : Int)) := by
    rw [numerator, denominator, zpow_neg, zpow_natCast, div_eq_mul_inv]
  have low : (2 : ℚ) ^ (-1022 : Int) ≤ n * 10 ^ (-(k : Int)) := by
    have one : (1 : ℚ) ≤ n := by exact_mod_cast positive
    calc (2 : ℚ) ^ (-1022 : Int) ≤ 2 ^ (-50 : Int) := zpow_le_zpow_right₀ one_le_two (by decide)
      _ ≤ 1 * 10 ^ (-15 : Int) := by norm_num
      _ ≤ n * 10 ^ (-(k : Int)) := by
          gcongr
          · norm_num
          · omega
  have high : (n : ℚ) * 10 ^ (-(k : Int)) < 2 ^ (1023 : Int) := by
    have most : (n : ℚ) < 10 ^ 14 := by exact_mod_cast (show n < 10 ^ 14 from few)
    calc (n : ℚ) * 10 ^ (-(k : Int)) ≤ n * 10 ^ (0 : Int) := by
          gcongr
          · norm_num
          · omega
      _ < 2 ^ (50 : Int) := by
          rw [zpow_zero, mul_one]
          exact most.trans (by norm_num)
      _ ≤ 2 ^ (1023 : Int) := zpow_le_zpow_right₀ one_le_two (by decide)
  rw [← quotient] at low high
  have rounds := rounds_div (numerator ▸ by exact_mod_cast positive) (denominator ▸ by positivity)
    low high
  rw [quotient] at rounds
  exact rounds.shortest_eq positive few (by omega) tie negative

end Binary64

/-- A decimal number of few digits is stored and shown as it is. -/
theorem Decimal.stored?_places {n k : Nat} (positive : 0 < n) (few : n < tenTo 14) (some : 0 < k)
    (small : k ≤ 15) (negative : Bool) :
    stored? negative n (-k) = Option.some (normal negative n (-k)) := by
  have below : (-(k : Int)) < 0 := by omega
  have places : (-(k : Int)).natAbs = k := by omega
  rw [stored?, Binary64.ofScientific?, if_pos below, Option.map_some, places, Binary64.scaleDown,
    if_pos (by omega), Binary64.shortest_div_powerOfTen positive few small]

end ScrollStory
