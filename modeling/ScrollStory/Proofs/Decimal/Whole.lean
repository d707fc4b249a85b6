import ScrollStory.Proofs.Decimal.Digits

/-!
# Whole numbers in digits

A natural number written in full is its digits in base ten, without leading zeros
(`ScrollStory.Decimal.plain_ofInt`).
-/

namespace ScrollStory

namespace Decimal

/-- The digits of ten times a number are its own with a zero behind them. -/
theorem digits_mul_ten {n : Nat} (positive : 0 < n) : digits (n * 10) = digits n ++ ['0'] := by
  have appended := Nat.toDigits_append_toDigits (b := 10) (d := 0) (by decide) positive (by decide)
  rw [Nat.add_zero, Nat.mul_comm] at appended
  exact appended.symm

/-- The digits of a positive number do not begin with a zero. -/
theorem head_digits_ne_zero {n : Nat} (positive : 0 < n) : (digits n).head? ≠ some '0' := by
  induction n using Nat.strongRecOn with
  | ind n ih =>
      by_cases small : n < 10
      · rw [digits, Nat.toDigits_of_lt_base small]
        simp only [List.head?_cons, ne_eq, Option.some.injEq, Nat.digitChar_eq_zero]
        omega
      · have shorter := ih (n / 10) (by omega) (by omega)
        obtain ⟨first, others, cons⟩ :=
          List.exists_cons_of_ne_nil (Nat.toDigits_ne_nil (n := n / 10) (b := 10))
        rw [digits, cons] at shorter
        rw [digits, Nat.toDigits_of_base_le (by decide) (by omega), cons]
        exact shorter

/-- Zeros that leave the coefficient come back as zeros behind its digits. -/
theorem digits_stripZeros (fuel : Nat) {n : Nat} (positive : 0 < n) (power : Nat) :
    ∃ strip added : Nat, stripZeros fuel n power = (strip, (added : Int)) ∧ 0 < strip ∧
      digits strip ++ List.replicate added '0' = digits n ++ List.replicate power '0' := by
  induction fuel generalizing n power with
  | zero => exact ⟨n, power, rfl, positive, rfl⟩
  | succ fuel ih =>
      by_cases divisible : n % 10 = 0
      · have quotient : n / 10 * 10 = n := by omega
        obtain ⟨strip, added, stripped, stripPositive, same⟩ :=
          ih (n := n / 10) (by omega) (power + 1)
        refine ⟨strip, added, ?_, stripPositive, ?_⟩
        · rw [stripZeros, if_pos divisible]
          exact_mod_cast stripped
        · rw [same, ← quotient, digits_mul_ten (by omega), quotient, List.replicate_succ]
          simp
      · exact ⟨n, power, by rw [stripZeros, if_neg divisible], positive, rfl⟩

/-- **Whole numbers in full.** A natural number is written as its digits. -/
theorem plain_ofInt (n : Nat) : (ofInt n).plain = String.ofList (digits n) := by
  have natural : decide ((n : Int) < 0) = false := by simp
  by_cases zero : n = 0
  · subst zero
    rfl
  · have positive : 0 < n := Nat.pos_of_ne_zero zero
    obtain ⟨strip, added, stripped, _, same⟩ := digits_stripZeros n positive 0
    have normalised : ofInt n = ⟨false, strip, added⟩ := by
      simp only [ofInt, normal, Int.natAbs_natCast, zero, ↓reduceIte, natural]
      rw [show ((0 : Int)) = ((0 : Nat) : Int) from rfl, stripped]
    simp only [normalised, plain, parts, sign, Int.natCast_nonneg, ↓reduceIte, Int.toNat_natCast,
      Bool.false_eq_true, List.isEmpty_nil, List.append_nil, List.nil_append, same,
      List.replicate_zero]

end Decimal

end ScrollStory
