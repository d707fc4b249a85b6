import ScrollStory.Decimal.Basic

/-!
# The digits of decimal numbers

A decimal number is written with digits before its point, one at least, and with as many digits
behind it as it has powers of ten below one (`ScrollStory.Decimal.isDigits_whole`,
`ScrollStory.Decimal.length_places`). Beside digits there is a point in its text, and a minus sign
(`ScrollStory.Decimal.mem_plain`).
-/

namespace ScrollStory

/-- Some digits, one at least. -/
def IsDigits (cs : List Char) : Prop := cs ≠ [] ∧ ∀ c ∈ cs, c.isDigit

instance (cs : List Char) : Decidable (IsDigits cs) :=
  decidable_of_iff (cs ≠ [] ∧ cs.all Char.isDigit = true) (and_congr_right fun _ => List.all_eq_true)

theorem IsDigits.not_mem {cs : List Char} (digits : IsDigits cs) {c : Char} (other : ¬c.isDigit) :
    c ∉ cs :=
  fun member => other (digits.2 c member)

/-- Digits and points. -/
def IsNumeric (cs : List Char) : Prop := ∀ c ∈ cs, c.isDigit ∨ c = '.'

theorem IsDigits.numeric {cs : List Char} (digits : IsDigits cs) : IsNumeric cs :=
  fun c member => .inl (digits.2 c member)

/-- Digits with a point between them are digits and points. -/
theorem IsDigits.numeric_point {whole places : List Char} (digits : IsDigits whole)
    (behind : IsDigits places) : IsNumeric (whole ++ '.' :: places) := by
  intro c member
  rcases List.mem_append.mp member with inWhole | others
  · exact digits.numeric c inWhole
  · rcases List.mem_cons.mp others with rfl | inPlaces
    · exact .inr rfl
    · exact behind.numeric c inPlaces

namespace Decimal

theorem isDigits_digits (n : Nat) : IsDigits (digits n) :=
  ⟨Nat.toDigits_ne_nil, fun _ member => Nat.isDigit_of_mem_toDigits (by decide) (by decide) member⟩

theorem isDigit_of_mem_zeros {count : Nat} {c : Char} (member : c ∈ List.replicate count '0') :
    c.isDigit := by
  rw [List.eq_of_mem_replicate member]
  rfl

theorem digits_inj {m n : Nat} (same : digits m = digits n) : m = n := by
  have numbers := congrArg (Nat.ofDigitChars 10 · 0) same
  simpa only [digits, Nat.ofDigitChars_ten_toDigits] using numbers

/-! ## Both sides of the point -/

variable (d : Decimal)

/-- What stands before the point of a decimal are digits. -/
theorem isDigits_whole : IsDigits d.parts.1 := by
  have own := isDigits_digits d.coefficient
  rw [parts]
  dsimp only
  split
  · refine ⟨List.append_ne_nil_of_left_ne_nil own.1 _, fun c member => ?_⟩
    exact (List.mem_append.mp member).elim (own.2 c) isDigit_of_mem_zeros
  · split
    · rename_i within
      refine ⟨?_, fun c member => own.2 c (List.mem_of_mem_take member)⟩
      rw [ne_eq, List.take_eq_nil_iff, not_or]
      exact ⟨by omega, own.1⟩
    · exact ⟨List.cons_ne_nil _ _, fun c member => List.mem_singleton.mp member ▸ rfl⟩

/-- There is a place for every power of ten below one. -/
theorem length_places : d.parts.2.length = (-d.exponent).toNat := by
  rw [parts]
  dsimp only
  split
  · simp only [List.length_nil]
    omega
  · split
    · rw [List.length_drop]
      omega
    · rw [List.length_append, List.length_replicate]
      omega

/-- What stands behind the point of a decimal are digits. -/
theorem isDigit_of_mem_places {c : Char} (member : c ∈ d.parts.2) : c.isDigit := by
  have own := isDigits_digits d.coefficient
  rw [parts] at member
  dsimp only at member
  split at member
  · cases member
  · split at member
    · exact own.2 c (List.mem_of_mem_drop member)
    · exact (List.mem_append.mp member).elim isDigit_of_mem_zeros (own.2 c)

/-- The characters of a number in full. -/
theorem mem_plain {d : Decimal} {c : Char} (member : c ∈ d.plain.toList) :
    c.isDigit ∨ c = '.' ∨ c = '-' := by
  rw [plain, String.toList_ofList, List.mem_append, List.mem_append] at member
  rcases member with (sign | whole) | places
  · rw [Decimal.sign] at sign
    split at sign
    · exact .inr (.inr (List.mem_singleton.mp sign))
    · cases sign
  · exact .inl (d.isDigits_whole.2 c whole)
  · split at places
    · cases places
    · rcases List.mem_cons.mp places with rfl | behind
      · exact .inr (.inl rfl)
      · exact .inl (d.isDigit_of_mem_places behind)

end Decimal

end ScrollStory
