import ScrollStory.Proofs.Decimal.Texts
import ScrollStory.Proofs.Json.Scan
import ScrollStory.Proofs.Json.Whole

/-!
# Decimal numbers in JSON texts

A decimal number that is written in full is scanned into its numeral
(`ScrollStory.Json.scannable_normal`), and the numeral is read as the number if it has few digits,
although it is stored as a binary number in between (`ScrollStory.Json.readable_normal`).
-/

namespace ScrollStory

namespace Json

open Scan (Fraction Scannable Scans)

/-! ## The text of a number -/

/-- Before the point there is a zero, or the first digit of the coefficient and maybe others. -/
theorem whole_parts_cases (d : Decimal) :
    d.parts.1 = ['0'] ∨ d.parts.1.head? = (Decimal.digits d.coefficient).head? := by
  have some : Decimal.digits d.coefficient ≠ [] := Nat.toDigits_ne_nil
  rw [Decimal.parts]
  dsimp only
  split
  · exact .inr (List.head?_append_of_ne_nil _ some)
  · split
    · rw [List.head?_take, if_neg (by omega)]
      exact .inr rfl
    · exact .inl rfl

/-- The digits of a positive number before the point do not begin with a zero, unless there is no
other. -/
theorem whole_parts {d : Decimal} (positive : 0 < d.coefficient) : Scan.Whole d.parts.1 := by
  rcases whole_parts_cases d with zero | head
  · rw [zero]
    exact .zero
  · exact Scan.whole_of_isDigits d.isDigits_whole (head ▸ Decimal.head_digits_ne_zero positive)

/-- A point with digits behind it spells a fraction. -/
theorem fraction_of_isDigits {cs : List Char} (digits : IsDigits cs) :
    Fraction ('.' :: cs) (some (digitValues cs)) := by
  obtain ⟨first, others, rfl⟩ := List.exists_cons_of_ne_nil digits.1
  exact .digits digits.2

/-- The numeral of a decimal has its sign, its whole part and its places. -/
theorem numeral_decimal {d : Decimal} (full : d.FullInJson) :
    (Number.decimal d).numeral =
      ⟨d.negative, digitValues d.parts.1, some (digitValues d.jsonPlaces), none⟩ := by
  rw [Decimal.FullInJson] at full
  rw [Number.numeral, if_pos full, Decimal.jsonPlaces]
  split <;> rfl

/-- A positive number in full is scanned into its numeral. -/
theorem scannable_decimal {d : Decimal} (positive : 0 < d.coefficient) (full : d.FullInJson) :
    Scannable (.decimal d) := by
  have lexeme := Lexeme.number (whole_parts positive) (fraction_of_isDigits d.isDigits_jsonPlaces)
    .none d.negative
  intro rest delimited
  rw [numeral_decimal full, Number.write, full.json_eq, String.toList_ofList]
  have scanned := lexeme.run_between fun _ _ => delimited
  simpa [Decimal.sign] using scanned

/-! ## Its value -/

/-- The digits of a numeral in full are put together to one number if they fit. -/
theorem stored_numeral {whole places : List Char} (negative : Bool)
    (fits : Nat.ofDigitChars 10 (whole ++ places) 0 < twoTo 64) {d : Decimal}
    (stored : Decimal.stored? negative (Nat.ofDigitChars 10 (whole ++ places) 0)
      (-places.length) = some d) :
    Numeral.value ⟨negative, digitValues whole, some (digitValues places), none⟩ =
      .ok (.decimal d) := by
  rw [Nat.ofDigitChars_append, ← foldl_digitValues, ← foldl_digitValues] at fits stored
  have front := Nat.lt_of_le_of_lt (le_foldl_digits _ (digitValues places)) fits
  have first := Numeral.significand_of_lt front
  have second := Numeral.significand_of_lt fits
  have length : (digitValues places).length = places.length := List.length_map ..
  change Numeral.stored _ = _
  rw [Numeral.stored]
  dsimp only
  rw [first]
  dsimp only
  rw [Option.getD_some, second]
  simp only [Numeral.power, List.length_nil, Nat.sub_zero, length, Int.natCast_zero, zero_sub,
    add_zero, stored]

section

variable {n k : Nat} {d : Decimal} (made : d = .normal false n (-k))

include made

/-- The digits of a number in a JSON text denote it in units of its last place. -/
theorem units_eq :
    (Nat.ofDigitChars 10 (d.parts.1 ++ d.jsonPlaces) 0 : ℚ) * 10 ^ (-(d.jsonPlaces.length : Int)) =
      n * 10 ^ (-(k : Int)) := by
  have value := d.value_eq_spelled
  rw [made, Decimal.value_normal, Decimal.negative_normal, ← made, ← d.spelled_jsonPlaces, spelled,
    if_neg Bool.false_ne_true, one_mul, one_mul] at value
  rw [value, zpow_neg, zpow_natCast, div_eq_mul_inv]

/-- A decimal that was made with `k` places is written with no more of them, or with one. -/
theorem length_jsonPlaces_le : d.jsonPlaces.length ≤ k + 1 := by
  have own : d.parts.2.length ≤ k := made ▸ Decimal.length_places_normal false n k
  unfold Decimal.jsonPlaces
  split
  · exact Nat.le_add_left 1 k
  · omega

/-- A number gets one more digit in a JSON text at most. -/
theorem units_le : Nat.ofDigitChars 10 (d.parts.1 ++ d.jsonPlaces) 0 ≤ n * 10 := by
  have places := length_jsonPlaces_le made
  have step : (0 : ℚ) < 10 ^ (-((k + 1 : Nat) : Int)) := by positivity
  have shifted : (n * 10 : Nat) * (10 : ℚ) ^ (-((k + 1 : Nat) : Int)) = n * 10 ^ (-(k : Int)) := by
    have moved := Decimal.shift_units n 1 (-((k + 1 : Nat) : Int))
    rw [pow_one] at moved
    rw [moved]
    congr 2
    omega
  have most : (Nat.ofDigitChars 10 (d.parts.1 ++ d.jsonPlaces) 0 : ℚ) ≤ (n * 10 : Nat) := by
    refine le_of_mul_le_mul_right ?_ step
    rw [shifted, ← units_eq made]
    gcongr
    norm_num
  exact_mod_cast most

end

/-- **Short decimal numbers are read as they are written**, although they are stored as binary
numbers in between. -/
theorem readable_normal {n k : Nat} (positive : 0 < n) (few : n < tenTo 13) (small : k ≤ 5) :
    Readable (.decimal (.normal false n (-k))) := by
  obtain ⟨d, made⟩ : ∃ d, d = Decimal.normal false n (-k) := ⟨_, rfl⟩
  have full : d.FullInJson := made ▸ Decimal.fullInJson_normal false (few.trans (by decide)) small
  have units := units_eq made
  have places := length_jsonPlaces_le made
  have some : 0 < d.jsonPlaces.length := List.length_pos_of_ne_nil d.isDigits_jsonPlaces.1
  have short : Nat.ofDigitChars 10 (d.parts.1 ++ d.jsonPlaces) 0 < tenTo 14 :=
    calc Nat.ofDigitChars 10 (d.parts.1 ++ d.jsonPlaces) 0 ≤ n * 10 := units_le made
      _ < tenTo 13 * 10 := Nat.mul_lt_mul_of_pos_right few (by decide)
      _ = tenTo 14 := rfl
  have unitsPositive : 0 < Nat.ofDigitChars 10 (d.parts.1 ++ d.jsonPlaces) 0 := by
    have product : (0 : ℚ) < n * 10 ^ (-(k : Int)) := by positivity
    rw [← units, mul_pos_iff_of_pos_right (by positivity)] at product
    exact_mod_cast product
  have natural : d.negative = false := made ▸ Decimal.negative_normal _ _ _
  rw [← made, Readable, numeral_decimal full, natural]
  -- The text may have a zero behind the point that the number has no place for.
  apply stored_numeral false (short.trans (by decide))
  rw [Decimal.stored?_places unitsPositive short some (by omega), made]
  exact congrArg Option.some (Decimal.normal_congr false (made ▸ units))

/-- A positive number of few digits with few places is scanned into its numeral. -/
theorem scannable_normal {n k : Nat} (positive : 0 < n) (few : n < tenTo 14) (small : k ≤ 5) :
    Scannable (.decimal (.normal false n (-k))) := by
  have coefficient : 0 < (Decimal.normal false n (-k)).coefficient := by
    obtain ⟨strip, t, made, _, last⟩ := Decimal.normal_eq positive false (-k)
    rw [made]
    refine Nat.pos_of_ne_zero fun zero : strip = 0 => last ?_
    rw [zero]
  exact scannable_decimal coefficient (Decimal.fullInJson_normal false few small)

end Json

end ScrollStory
