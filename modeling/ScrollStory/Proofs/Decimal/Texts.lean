import ScrollStory.Proofs.Decimal.Digits
import ScrollStory.Proofs.Decimal.Nearest
import ScrollStory.Text.Pieces

/-!
# What the texts of decimal numbers denote

A text with digits, and with digits behind a point if there is one, denotes a rational number. Both
texts of a decimal number denote the number itself, the one with an exponent apart
(`ScrollStory.Decimal.denoted?_plain`, `ScrollStory.Decimal.FullInJson.denoted?_json`). A number in full has no
more places than the power of ten that it is given in units of, and the last of them is not zero
(`ScrollStory.Decimal.inFull_plain`).
-/

namespace ScrollStory

/-! ## Texts that denote numbers -/

/-- The number that digits before and behind a point spell. -/
def spelled (whole places : List Char) : ℚ :=
  Nat.ofDigitChars 10 (whole ++ places) 0 / 10 ^ places.length

/-- The number that a text without a sign denotes, if it is one in full. -/
def unsigned? (cs : List Char) : Option ℚ :=
  match Text.pieces '.' cs with
  | [whole] => if IsDigits whole then some (spelled whole []) else none
  | [whole, places] =>
    if IsDigits whole ∧ IsDigits places then some (spelled whole places) else none
  | _ => none

/-- The number that a text denotes, if it is one in full: digits, and digits behind a point if there
is one, with a minus sign in front if it is negative. -/
def denoted? (s : String) : Option ℚ :=
  match s.toList with
  | '-' :: cs => (unsigned? cs).map (- ·)
  | cs => unsigned? cs

/-- Digits alone denote the number that they spell. -/
theorem unsigned?_whole {whole : List Char} (digits : IsDigits whole) :
    unsigned? whole = some (spelled whole []) := by
  rw [unsigned?, Text.pieces_of_not_mem (digits.not_mem (by decide))]
  exact if_pos digits

/-- Digits with a point between them denote the number that they spell. -/
theorem unsigned?_point {whole places : List Char} (digits : IsDigits whole)
    (behind : IsDigits places) :
    unsigned? (whole ++ '.' :: places) = some (spelled whole places) := by
  rw [unsigned?, Text.pieces_append (digits.not_mem (by decide)),
    Text.pieces_of_not_mem (behind.not_mem (by decide))]
  exact if_pos ⟨digits, behind⟩

/-- Digits, and behind a point at most `places` more, of which the last one is not zero. -/
inductive InFull (places : Nat) : List Char → Prop
  | whole {cs : List Char} (digits : IsDigits cs) : InFull places cs
  | point {cs fs : List Char} (digits : IsDigits cs) (behind : IsDigits fs)
      (few : fs.length ≤ places) (last : fs.getLast? ≠ some '0') : InFull places (cs ++ '.' :: fs)

/-! ## Digits -/

/-- Zeros behind a number multiply it by powers of ten. -/
theorem ofDigitChars_zeros (count start : Nat) :
    Nat.ofDigitChars 10 (List.replicate count '0') start = start * 10 ^ count := by
  induction count generalizing start with
  | zero => simp
  | succ count ih =>
      rw [List.replicate_succ, Nat.ofDigitChars_cons, ih, pow_succ]
      simp
      ring

namespace Decimal

/-- The last digit of a number is its rest when it is divided by ten. -/
theorem getLast?_digits (n : Nat) : (digits n).getLast? = some (Nat.digitChar (n % 10)) := by
  by_cases small : n < 10
  · rw [digits, Nat.toDigits_of_lt_base small, Nat.mod_eq_of_lt small]
    rfl
  · rw [digits, Nat.toDigits_of_base_le (by decide) (by omega), List.getLast?_append]
    rfl

theorem getLast?_digits_ne_zero {n : Nat} (last : n % 10 ≠ 0) : (digits n).getLast? ≠ some '0' := by
  rw [getLast?_digits, ne_eq, Option.some.injEq, Nat.digitChar_eq_zero]
  exact last

/-! ## The digits of a decimal number -/

variable (d : Decimal)

/-- The digits on both sides of the point spell the coefficient. -/
theorem ofDigitChars_parts :
    Nat.ofDigitChars 10 (d.parts.1 ++ d.parts.2) 0 = d.coefficient * 10 ^ d.exponent.toNat := by
  have own : Nat.ofDigitChars 10 (digits d.coefficient) 0 = d.coefficient :=
    Nat.ofDigitChars_ten_toDigits
  rw [parts]
  dsimp only
  split
  · rw [List.append_nil, Nat.ofDigitChars_append, own, ofDigitChars_zeros]
  · have none : d.exponent.toNat = 0 := by omega
    rw [none, pow_zero, mul_one]
    split
    · rw [List.take_append_drop, own]
    · rw [List.singleton_append, ← List.cons_append, ← List.replicate_succ,
        Nat.ofDigitChars_append, ofDigitChars_zeros, zero_mul, own]

/-- The digits of a number spell it. -/
theorem value_eq_spelled :
    d.value = (if d.negative then -1 else 1) * spelled d.parts.1 d.parts.2 := by
  rw [value, spelled, ofDigitChars_parts, length_places, ← pow_toNat_div]
  push_cast
  rw [mul_div_assoc]

theorem head?_whole_append (rest : List Char) : (d.parts.1 ++ rest).head? ≠ some '-' := by
  obtain ⟨first, others, whole⟩ := List.exists_cons_of_ne_nil d.isDigits_whole.1
  have digit := d.isDigits_whole.2 first (whole ▸ List.mem_cons_self)
  rw [whole, List.cons_append, List.head?_cons, ne_eq, Option.some.injEq]
  rintro rfl
  exact absurd digit (by decide)

/-- A text of digits behind the sign of a number denotes the number. -/
theorem denoted?_signed {rest : List Char}
    (unsigned : unsigned? (d.parts.1 ++ rest) = some (spelled d.parts.1 d.parts.2)) :
    denoted? (String.ofList (d.sign ++ (d.parts.1 ++ rest))) = some d.value := by
  rw [value_eq_spelled, denoted?, String.toList_ofList, sign]
  cases d.negative with
  | true =>
      simp only [↓reduceIte, List.cons_append, List.nil_append, unsigned, Option.map_some,
        neg_one_mul]
  | false =>
      have first := d.head?_whole_append rest
      simp only [Bool.false_eq_true, ↓reduceIte, List.nil_append, one_mul]
      split
      · rename_i negative
        rw [negative] at first
        exact absurd rfl first
      · exact unsigned

/-- **Numbers in full.** The text of a number in full denotes the number. -/
theorem denoted?_plain : denoted? d.plain = some d.value := by
  rw [plain]
  dsimp only
  rw [List.append_assoc]
  apply denoted?_signed
  cases places : d.parts.2 with
  | nil => simpa using unsigned?_whole d.isDigits_whole
  | cons c cs =>
      refine unsigned?_point d.isDigits_whole ⟨List.cons_ne_nil c cs, fun c member => ?_⟩
      exact d.isDigit_of_mem_places (places ▸ member)

/-- A zero behind the point changes nothing. -/
theorem spelled_zero (whole : List Char) : spelled whole ['0'] = spelled whole [] := by
  have digits := ofDigitChars_zeros 1 (Nat.ofDigitChars 10 whole 0)
  rw [List.replicate_one] at digits
  rw [spelled, spelled, Nat.ofDigitChars_append, digits, List.append_nil]
  norm_num

/-- A number is written in full in a JSON text. -/
def FullInJson : Prop := d.coefficient = 0 ∨ (-5 ≤ d.magnitude ∧ d.magnitude ≤ 15)

/-- The places of a number in a JSON text, one at least. -/
def jsonPlaces : List Char := if d.parts.2.isEmpty then ['0'] else d.parts.2

/-- The places in a JSON text are digits, one at least. -/
theorem isDigits_jsonPlaces : IsDigits d.jsonPlaces := by
  unfold jsonPlaces
  split
  · decide
  · rename_i some
    rw [List.isEmpty_iff] at some
    exact ⟨some, fun _ member => d.isDigit_of_mem_places member⟩

/-- The zero that a JSON text puts behind the point of a whole number does not change it. -/
theorem spelled_jsonPlaces : spelled d.parts.1 d.jsonPlaces = spelled d.parts.1 d.parts.2 := by
  unfold jsonPlaces
  split
  · rename_i none
    rw [List.isEmpty_iff] at none
    rw [none, spelled_zero]
  · rfl

variable {d} in
/-- A number that is written in full has a point and at least one place in a JSON text. -/
theorem FullInJson.json_eq (full : d.FullInJson) :
    d.json = String.ofList (d.sign ++ (d.parts.1 ++ '.' :: d.jsonPlaces)) := by
  rw [FullInJson] at full
  rw [json, if_pos full]
  dsimp only
  rw [List.append_assoc, jsonPlaces]

variable {d} in
/-- **JSON numbers in full.** The text of a number in a JSON text denotes the number. -/
theorem FullInJson.denoted?_json (full : d.FullInJson) : denoted? d.json = some d.value := by
  rw [full.json_eq]
  apply denoted?_signed
  rw [← spelled_jsonPlaces]
  exact unsigned?_point d.isDigits_whole d.isDigits_jsonPlaces

/-! ## Numbers in units of a power of ten -/

variable {d} {n k : Nat}

/-- A positive number in units of a power of ten, its zeros at the end taken away. -/
theorem normal_eq (positive : 0 < n) (negative : Bool) (e : Int) :
    ∃ strip t : Nat, normal negative n e = ⟨negative, strip, e + t⟩ ∧ n = strip * 10 ^ t ∧
      strip % 10 ≠ 0 := by
  obtain ⟨strip, t, stripped, same, last⟩ := stripZeros_eq positive le_rfl e
  refine ⟨strip, t, ?_, same, last⟩
  simp only [normal, positive.ne', ↓reduceIte, stripped]

/-- A number keeps its sign when the zeros at its end are taken off. -/
theorem negative_normal (negative : Bool) (n : Nat) (e : Int) :
    (normal negative n e).negative = negative := by
  rw [normal]
  split <;> rfl

/-- The last place of a number whose coefficient does not end in a zero is not zero. -/
theorem getLast?_places (last : d.coefficient % 10 ≠ 0) : d.parts.2.getLast? ≠ some '0' := by
  have own := getLast?_digits_ne_zero last
  rw [parts]
  dsimp only
  split
  · exact (Option.some_ne_none '0').symm
  · split
    · rw [List.getLast?_drop]
      split
      · exact (Option.some_ne_none '0').symm
      · exact own
    · rw [List.getLast?_append, Option.or_of_isSome]
      · exact own
      · rw [getLast?_digits]
        rfl

/-- There are no more places than the unit has. -/
theorem length_places_normal (negative : Bool) (n k : Nat) :
    (normal negative n (-k)).parts.2.length ≤ k := by
  rw [length_places]
  by_cases zero : n = 0
  · rw [normal, if_pos zero]
    exact Nat.zero_le k
  · obtain ⟨strip, t, made, _, _⟩ := normal_eq (Nat.pos_of_ne_zero zero) negative (-k)
    rw [made]
    dsimp only
    omega

/-- A number that is not negative is written in full with no more places than its unit has, and
without a zero at the end of them. -/
theorem inFull_plain (n k : Nat) : InFull k (normal false n (-k)).plain.toList := by
  by_cases zero : n = 0
  · rw [normal, if_pos zero]
    exact .whole (by decide)
  obtain ⟨strip, t, made, _, last⟩ := normal_eq (Nat.pos_of_ne_zero zero) false (-k)
  rw [made]
  set d : Decimal := ⟨false, strip, -k + t⟩
  have few : d.parts.2.length ≤ k := made ▸ length_places_normal false n k
  rw [plain, String.toList_ofList]
  cases places : d.parts.2 with
  | nil => simpa [sign, d] using InFull.whole d.isDigits_whole
  | cons c cs =>
      have behind : IsDigits d.parts.2 :=
        ⟨places ▸ List.cons_ne_nil c cs, fun _ member => d.isDigit_of_mem_places member⟩
      have full := InFull.point d.isDigits_whole behind few (getLast?_places last)
      rw [places] at full
      simpa [sign, d] using full

/-- A number of few digits with few places is written in full in a JSON text. -/
theorem fullInJson_normal (negative : Bool) (few : n < tenTo 14) (small : k ≤ 5) :
    (normal negative n (-k)).FullInJson := by
  by_cases zero : n = 0
  · rw [normal, if_pos zero]
    exact .inl rfl
  obtain ⟨strip, t, made, same, last⟩ := normal_eq (Nat.pos_of_ne_zero zero) negative (-k)
  have room : t ≤ 14 := by
    by_contra more
    have large : 10 ^ 15 ≤ 10 ^ t := Nat.pow_le_pow_right (by decide) (by omega)
    have some : 1 * 10 ^ t ≤ strip * 10 ^ t := Nat.mul_le_mul_right _ (by omega)
    have few : n < 10 ^ 14 := few
    omega
  have digitCount : (digits strip).length ≤ 15 - t := by
    rw [digits, Nat.length_toDigits_le_iff (by decide) (by omega),
      ← Nat.mul_lt_mul_right (Nat.pow_pos (by decide) : 0 < 10 ^ t), ← same, ← pow_add,
      Nat.sub_add_cancel (by omega)]
    exact few.trans (by decide)
  have some : 0 < (digits strip).length := Nat.length_toDigits_pos
  rw [made]
  refine .inr ⟨?_, ?_⟩ <;> rw [magnitude] <;> dsimp only <;> omega

end Decimal

end ScrollStory
