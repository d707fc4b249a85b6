import ScrollStory.Proofs.Json.Tokens

/-!
# Spelled texts

A text spells tokens if these are written one after another in it, each in a way that the grammar of
JSON texts has for it, with any white space around them. Such a text is scanned into these tokens
and nothing else (`ScrollStory.Json.Spells.tokensOfString_eq`).
-/

namespace ScrollStory

namespace Json

open Text (Chunk)

namespace Scan

/-- Characters as chunks. -/
def chars (cs : List Char) : List Chunk := cs.map .char

@[simp] theorem chars_nil : chars [] = [] := rfl

@[simp] theorem chars_cons (c : Char) (cs : List Char) : chars (c :: cs) = .char c :: chars cs :=
  rfl

@[simp] theorem chars_append (cs ds : List Char) : chars (cs ++ ds) = chars cs ++ chars ds :=
  List.map_append

/-- The scanner gives the tokens of a step and goes on behind it. -/
theorem run_cons_go {state : State} {chunk : Chunk} (tokens : List Token) (next : State)
    (step : state.step chunk = .go tokens next) (rest : List Chunk) :
    run state (chunk :: rest) = tokens ++ run next rest := by
  rw [run, step]

/-- The scanner starts a token with its first character. -/
theorem run_start {c : Char} (tokens : List Token) (next : State)
    (start : startToken c = .go tokens next) (rest : List Char) :
    run .between (chars (c :: rest)) = tokens ++ run next (chars rest) := by
  have step : State.between.step (.char c) = .go tokens next := start
  rw [chars_cons, run_cons_go tokens next step]

/-! ## Strings -/

/-- A string without anything wrong with it, given by its characters so far, the last one first. -/
def Draft.clean (cs : List Char) : Draft := ⟨cs, none, false, none⟩

/-- What may stand between the quotes of a string, and the draft that it makes of another one. -/
inductive Writes : List Char → Draft → Draft → Prop
  | nil (draft : Draft) : Writes [] draft draft
  | plain {c : Char} {text : List Char} {draft done : Draft} (visible : ¬c < ' ')
      (notQuote : c ≠ '"') (notBackslash : c ≠ '\\') (others : Writes text (draft.push c) done) :
      Writes (c :: text) draft done
  | escape {letter c : Char} {text : List Char} {draft done : Draft}
      (stands : escaped? letter = some c) (others : Writes text (draft.push c) done) :
      Writes ('\\' :: letter :: text) draft done
  | unit {a b c d : Char} {n : Nat} {text : List Char} {draft done : Draft}
      (code : unit? [.char d, .char c, .char b, .char a] = some n)
      (others : Writes text (draft.pushUnit n) done) :
      Writes ('\\' :: 'u' :: a :: b :: c :: d :: text) draft done

/-- What may stand between the quotes of a string, and the characters that it stands for. -/
inductive Literal : List Char → List Char → Prop
  | nil : Literal [] []
  | plain {c : Char} {text cs : List Char} (visible : ¬c < ' ') (notQuote : c ≠ '"')
      (notBackslash : c ≠ '\\') (others : Literal text cs) : Literal (c :: text) (c :: cs)
  | escape {letter c : Char} {text cs : List Char} (stands : escaped? letter = some c)
      (others : Literal text cs) : Literal ('\\' :: letter :: text) (c :: cs)
  | unit {a b c d : Char} {n : Nat} {text cs : List Char}
      (code : unit? [.char d, .char c, .char b, .char a] = some n)
      (high : Draft.isHighHalf n = false) (low : Draft.isLowHalf n = false)
      (others : Literal text cs) :
      Literal ('\\' :: 'u' :: a :: b :: c :: d :: text) (Char.ofNat n :: cs)
  /-- A character beyond sixteen bits, as the two halves of a surrogate pair. -/
  | pair {a b c d e f g h : Char} {first second : Nat} {text cs : List Char}
      (code : unit? [.char d, .char c, .char b, .char a] = some first)
      (high : Draft.isHighHalf first = true)
      (code' : unit? [.char h, .char g, .char f, .char e] = some second)
      (low : Draft.isLowHalf second = true) (others : Literal text cs) :
      Literal ('\\' :: 'u' :: a :: b :: c :: d :: '\\' :: 'u' :: e :: f :: g :: h :: text)
        (Char.ofNat (0x10000 + (first - 0xD800) * 0x400 + (second - 0xDC00)) :: cs)

theorem Draft.close_clean (cs : List Char) :
    (Draft.clean cs).close = .string (String.ofList cs.reverse) := rfl

/-- A spelled literal adds the characters that it stands for to a clean draft. -/
theorem Literal.writes {text cs : List Char} (literal : Literal text cs) (before : List Char) :
    Writes text (.clean before) (.clean (cs.reverse ++ before)) := by
  induction literal generalizing before with
  | nil => exact .nil _
  | @plain c text cs visible notQuote notBackslash others ih =>
      have pushed := ih (c :: before)
      rw [List.reverse_cons, List.append_assoc]
      exact .plain visible notQuote notBackslash pushed
  | @escape letter c text cs stands others ih =>
      have pushed := ih (c :: before)
      rw [List.reverse_cons, List.append_assoc]
      exact .escape stands pushed
  | @unit a b c d n text cs code high low others ih =>
      have pushed : (Draft.clean before).pushUnit n = .clean (Char.ofNat n :: before) := by
        simp [Draft.pushUnit, Draft.clean, high, low]
      have written := ih (Char.ofNat n :: before)
      rw [← pushed] at written
      rw [List.reverse_cons, List.append_assoc]
      exact .unit code written
  | @pair a b c d e f g h first second text cs code high code' low others ih =>
      let joined := Char.ofNat (0x10000 + (first - 0xD800) * 0x400 + (second - 0xDC00))
      have pushed : ((Draft.clean before).pushUnit first).pushUnit second =
          .clean (joined :: before) := by
        simp [Draft.pushUnit, Draft.clean, high, low, joined]
      have written := ih (joined :: before)
      rw [← pushed] at written
      rw [List.reverse_cons, List.append_assoc]
      exact .unit code (.unit code' written)

theorem size_of_hexDigit? {c : Char} {n : Nat} (digit : hexDigit? c = some n) :
    Chunk.size (.char c) = 1 := by
  have small : c.toNat < 128 := by
    have bound : '9'.toNat < 128 ∧ 'f'.toNat < 128 ∧ 'F'.toNat < 128 := by decide
    unfold hexDigit? at digit
    split at digit
    · exact Nat.lt_of_le_of_lt (‹_ ∧ c ≤ '9'›.2) bound.1
    · split at digit
      · exact Nat.lt_of_le_of_lt (‹_ ∧ c ≤ 'f'›.2) bound.2.1
      · split at digit
        · exact Nat.lt_of_le_of_lt (‹_ ∧ c ≤ 'F'›.2) bound.2.2
        · cases digit
  exact Char.utf8Size_eq_one_iff.mpr (UInt32.le_iff_toNat_le.mpr (Nat.le_of_lt_succ small))

/-- Four hexadecimal digits behind a backslash and a `u` are scanned as one unit. -/
theorem run_unit {a b c d : Char} {n : Nat}
    (code : unit? [.char d, .char c, .char b, .char a] = some n) (draft : Draft)
    (rest : List Chunk) :
    run (.string .plain draft) (chars ['\\', 'u', a, b, c, d] ++ rest) =
      run (.string .plain (draft.pushUnit n)) rest := by
  have digits := code
  simp only [unit?, Option.bind_eq_bind, Option.bind_eq_some_iff] at digits
  obtain ⟨_, first, _, second, _, third, _, fourth, _⟩ := digits
  have sizes := And.intro (size_of_hexDigit? first) (And.intro (size_of_hexDigit? second)
    (And.intro (size_of_hexDigit? third) (size_of_hexDigit? fourth)))
  simp only [chars_cons, chars_nil, List.cons_append, List.nil_append]
  rw [run_cons_go [] (.string .escape draft) rfl, run_cons_go [] (.string (.unit []) draft) rfl,
    run_cons_go [] (.string (.unit [.char a]) draft),
    run_cons_go [] (.string (.unit [.char b, .char a]) draft),
    run_cons_go [] (.string (.unit [.char c, .char b, .char a]) draft),
    run_cons_go [] (.string .plain (draft.pushUnit n))]
  · rfl
  all_goals simp [State.step, stepString, byteCount, sizes, code]

/-- The scanner makes of a draft what the text writes. -/
theorem run_writes {text : List Char} {draft done : Draft} (writes : Writes text draft done)
    (rest : List Chunk) :
    run (.string .plain draft) (chars text ++ rest) = run (.string .plain done) rest := by
  induction writes with
  | nil => rfl
  | @plain c text draft done visible notQuote notBackslash others ih =>
      rw [chars_cons, List.cons_append, run_cons_go [] (.string .plain (draft.push c))]
      · exact ih
      · simp [State.step, stepString, notQuote, notBackslash, visible]
  | @escape letter c text draft done stands others ih =>
      have step : (State.string .escape draft).step (.char letter) =
          .go [] (.string .plain (draft.push c)) := by
        have notUnit : letter ≠ 'u' := by
          rintro rfl
          cases stands
        simp only [State.step, stepString, stands]
      rw [chars_cons, chars_cons, List.cons_append, List.cons_append,
        run_cons_go [] (.string .escape draft) rfl, run_cons_go _ _ step]
      exact ih
  | @unit a b c d n text draft done code others ih =>
      have unit := run_unit code draft (chars text ++ rest)
      rw [← ih, ← unit]
      rfl

/-- A string is scanned into the token of its draft. -/
theorem run_quoted {text : List Char} {done : Draft} (writes : Writes text .empty done)
    (rest : List Char) :
    run .between (chars ('"' :: (text ++ ['"']) ++ rest)) = done.close :: run .between (chars rest)
    := by
  have close : (State.string .plain done).step (.char '"') = .go [done.close] .between := rfl
  rw [List.cons_append, run_start [] (.string .plain .empty) rfl, List.append_assoc, chars_append,
    List.nil_append, run_writes writes, List.cons_append, List.nil_append, chars_cons,
    run_cons_go _ _ close]
  rfl

/-! ## Numbers -/

/-- What may stand behind a number: the text ends, or goes on with a character that no number goes
on with. -/
def Delimited (rest : List Char) : Prop :=
  ∀ c ∈ rest.head?, digit? c = none ∧ c ≠ '.' ∧ c ≠ 'e' ∧ c ≠ 'E'

theorem delimited_nil : Delimited [] := by
  intro c member
  cases member

/-- A text is delimited if it begins with a character that no number goes on with. -/
theorem delimited_cons {c : Char} {rest : List Char}
    (delimiter : digit? c = none ∧ c ≠ '.' ∧ c ≠ 'e' ∧ c ≠ 'E') : Delimited (c :: rest) := by
  intro other member
  cases member
  exact delimiter

/-- The digits before the point: zero, or digits of which the first is another one. -/
inductive Whole : List Char → Prop
  | zero : Whole ['0']
  | digits {c : Char} {cs : List Char} (nonzero : c ≠ '0') (digits : ∀ d ∈ c :: cs, d.isDigit) :
      Whole (c :: cs)

/-- The point and the digits behind it, if there are any. -/
inductive Fraction : List Char → Option (List Nat) → Prop
  | none : Fraction [] none
  | digits {c : Char} {cs : List Char} (digits : ∀ d ∈ c :: cs, d.isDigit) :
      Fraction ('.' :: c :: cs) (some (digitValues (c :: cs)))

/-- The letter, the sign and the digits of an exponent, if there is one. -/
inductive Exponent : List Char → Option (Bool × List Nat) → Prop
  | none : Exponent [] none
  | unsigned {letter c : Char} {cs : List Char} (isLetter : letter = 'e' ∨ letter = 'E')
      (digits : ∀ d ∈ c :: cs, d.isDigit) :
      Exponent (letter :: c :: cs) (some (false, digitValues (c :: cs)))
  | signed {letter sign c : Char} {cs : List Char} (isLetter : letter = 'e' ∨ letter = 'E')
      (isSign : sign = '+' ∨ sign = '-') (digits : ∀ d ∈ c :: cs, d.isDigit) :
      Exponent (letter :: sign :: c :: cs) (some (sign = '-', digitValues (c :: cs)))

/-- A digit other than zero begins a number. -/
theorem startToken_digit {c : Char} (digit : c.isDigit) (nonzero : c ≠ '0') :
    startToken c = .go [] (.number .whole { noDigits false with whole := [c.toNat - 48] }) := by
  have every : ∀ n : Fin 58, 48 < n.val →
      startToken (Char.ofNat n.val) =
        .go [] (.number .whole { noDigits false with whole := [n.val - 48] }) := by
    decide
  obtain ⟨low, high⟩ : 48 ≤ c.toNat ∧ c.toNat ≤ 57 := by
    simpa [Char.isDigit, UInt32.le_iff_toNat_le] using digit
  have apart : c.toNat ≠ 48 := fun same => nonzero (Char.toNat_inj.mp same)
  have known := every ⟨c.toNat, by omega⟩ (by simp only; omega)
  simpa only [Char.ofNat_toNat] using known

theorem digit?_of_isDigit {c : Char} (digit : c.isDigit) : digit? c = some (c.toNat - 48) := by
  simp only [Char.isDigit, Bool.and_eq_true, decide_eq_true_eq] at digit
  exact if_pos digit

/-- Digits within a part of a number that goes on with digits are added to the part. -/
theorem run_digits {part : NumberPart} (add : Numeral → Nat → Numeral)
    (step : ∀ numeral c d, digit? c = some d →
      stepNumber part numeral c = .go [] (.number part (add numeral d)))
    {cs : List Char} (digits : ∀ c ∈ cs, c.isDigit) (numeral : Numeral) (rest : List Char) :
    run (.number part numeral) (chars (cs ++ rest)) =
      run (.number part ((digitValues cs).foldl add numeral)) (chars rest) := by
  induction cs generalizing numeral with
  | nil => rfl
  | cons c cs ih =>
      have digit := digit?_of_isDigit (digits c List.mem_cons_self)
      have taken : (State.number part numeral).step (.char c) =
          .go [] (.number part (add numeral (c.toNat - 48))) := step numeral c _ digit
      rw [List.cons_append, chars_cons, run_cons_go _ _ taken]
      exact ih (fun d member => digits d (List.mem_cons_of_mem _ member)) _

/-- Digits before the point are collected with the last one first. -/
theorem foldl_addWhole (ds : List Nat) (numeral : Numeral) :
    ds.foldl addWhole numeral = { numeral with whole := ds.reverse ++ numeral.whole } := by
  induction ds generalizing numeral with
  | nil => rfl
  | cons d ds ih => simp [ih, addWhole]

/-- Digits behind the point are collected with the last one first. -/
theorem foldl_addFraction (ds seen : List Nat) (numeral : Numeral) :
    ds.foldl addFraction { numeral with fraction := some seen } =
      { numeral with fraction := some (ds.reverse ++ seen) } := by
  induction ds generalizing seen with
  | nil => rfl
  | cons d ds ih =>
      have others := ih (d :: seen)
      simpa [addFraction] using others

/-- Digits of an exponent are collected with the last one first. -/
theorem foldl_addExponent (ds seen : List Nat) (negative : Bool) (numeral : Numeral) :
    ds.foldl addExponent { numeral with exponent := some (negative, seen) } =
      { numeral with exponent := some (negative, ds.reverse ++ seen) } := by
  induction ds generalizing seen with
  | nil => rfl
  | cons d ds ih =>
      have others := ih (d :: seen)
      simpa [addExponent] using others

/-- The digits before the point leave the number where it may end or go on with a point. -/
theorem run_whole {cs : List Char} (whole : Whole cs) (negative : Bool) (rest : List Char) :
    ∃ part, (part = .zero ∨ part = .whole) ∧
      run .between (chars ((if negative then ['-'] else []) ++ cs ++ rest)) =
        run (.number part ⟨negative, (digitValues cs).reverse, none, none⟩) (chars rest) := by
  have minus (behind : List Char) : run .between (chars ('-' :: behind)) =
      run (.number .sign (noDigits true)) (chars behind) := run_start [] _ rfl behind
  cases whole with
  | zero =>
      refine ⟨.zero, .inl rfl, ?_⟩
      cases negative with
      | false => exact run_start [] _ rfl rest
      | true => exact (minus _).trans (run_cons_go [] _ rfl _)
  | @digits c cs nonzero digits =>
      have digit := digits c List.mem_cons_self
      have value := digit?_of_isDigit digit
      have more : ∀ d ∈ cs, d.isDigit := fun d member => digits d (List.mem_cons_of_mem _ member)
      have start : run .between (chars ((if negative then ['-'] else []) ++ c :: cs ++ rest)) =
          run (.number .whole (addWhole (noDigits negative) (c.toNat - 48)))
            (chars (cs ++ rest)) := by
        cases negative with
        | false => exact run_start [] _ (startToken_digit digit nonzero) _
        | true =>
            have step : (State.number .sign (noDigits true)).step (.char c) =
                .go [] (.number .whole (addWhole (noDigits true) (c.toNat - 48))) := by
              have positive : c.toNat - 48 ≠ 0 := by
                have small : 48 ≤ c.toNat ∧ c.toNat ≤ 57 := by
                  simpa [Char.isDigit, UInt32.le_iff_toNat_le] using digit
                have apart : c.toNat ≠ 48 := fun same => nonzero (Char.toNat_inj.mp same)
                omega
              simp only [State.step, stepNumber, value]
            exact (minus _).trans (run_cons_go _ _ step _)
      refine ⟨.whole, .inr rfl, ?_⟩
      rw [start, run_digits addWhole _ more, foldl_addWhole]
      · simp [addWhole, noDigits, digitValues]
      · intro numeral c d known
        simp only [stepNumber, known]

/-- The scanner reads a fraction behind the whole part of a number. -/
theorem run_fraction {fs : List Char} {fraction : Option (List Nat)}
    (spelled : Fraction fs fraction) {part : NumberPart} (before : part = .zero ∨ part = .whole)
    (negative : Bool) (whole : List Nat) (rest : List Char) :
    ∃ next, (next = .zero ∨ next = .whole ∨ next = .fraction) ∧
      run (.number part ⟨negative, whole, none, none⟩) (chars (fs ++ rest)) =
        run (.number next ⟨negative, whole, fraction.map List.reverse, none⟩) (chars rest) := by
  cases spelled with
  | none => exact ⟨part, before.imp_right .inl, rfl⟩
  | @digits c cs digits =>
      let point : Numeral := ⟨negative, whole, none, none⟩
      have value := digit?_of_isDigit (digits c List.mem_cons_self)
      have more : ∀ d ∈ cs, d.isDigit := fun d member => digits d (List.mem_cons_of_mem _ member)
      have first : (State.number part point).step (.char '.') = .go [] (.number .point point) := by
        rcases before with rfl | rfl <;> rfl
      have second : (State.number .point point).step (.char c) =
          .go [] (.number .fraction (addFraction point (c.toNat - 48))) := by
        simp only [State.step, stepNumber, value]
      refine ⟨.fraction, .inr (.inr rfl), ?_⟩
      rw [List.cons_append, List.cons_append, chars_cons, run_cons_go _ _ first, chars_cons,
        List.nil_append, run_cons_go _ _ second, List.nil_append, run_digits addFraction _ more]
      · have added := foldl_addFraction (digitValues cs) [c.toNat - 48] point
        rw [addFraction]
        simp only [point, Option.getD_none] at added ⊢
        rw [added]
        simp [digitValues]
      · intro numeral c d known
        simp only [stepNumber, known]

/-- The scanner reads an exponent behind the other parts of a number. -/
theorem run_exponent {es : List Char} {exponent : Option (Bool × List Nat)}
    (spelled : Exponent es exponent) {part : NumberPart}
    (before : part = .zero ∨ part = .whole ∨ part = .fraction) (negative : Bool)
    (whole : List Nat) (fraction : Option (List Nat)) (rest : List Char) :
    ∃ next, next.mayEnd = true ∧
      run (.number part ⟨negative, whole, fraction, none⟩) (chars (es ++ rest)) =
        run (.number next
          ⟨negative, whole, fraction, exponent.map fun (sign, ds) => (sign, ds.reverse)⟩)
          (chars rest) := by
  let mantissa : Numeral := ⟨negative, whole, fraction, none⟩
  have letterStep {letter : Char} (isLetter : letter = 'e' ∨ letter = 'E') :
      (State.number part mantissa).step (.char letter) =
        .go [] (.number .letter mantissa) := by
    rcases isLetter with rfl | rfl <;> rcases before with rfl | rfl | rfl <;> rfl
  -- The digits are read alike behind the letter and behind a sign.
  have tail {c : Char} {cs : List Char} (digits : ∀ d ∈ c :: cs, d.isDigit) {start : NumberPart}
      {numeral : Numeral} {sign : Bool} {seen : List Nat}
      (step : ∀ d, digit? c = some d → stepNumber start numeral c =
        .go [] (.number .exponent { mantissa with exponent := some (sign, d :: seen) })) :
      run (.number start numeral) (chars (c :: cs ++ rest)) =
        run (.number .exponent { mantissa with
          exponent := some (sign, (digitValues (c :: cs)).reverse ++ seen) }) (chars rest) := by
    have more : ∀ d ∈ cs, d.isDigit := fun d member => digits d (List.mem_cons_of_mem _ member)
    have first : (State.number start numeral).step (.char c) = .go [] (.number .exponent
        { mantissa with exponent := some (sign, (c.toNat - 48) :: seen) }) :=
      step _ (digit?_of_isDigit (digits c List.mem_cons_self))
    rw [List.cons_append, chars_cons, run_cons_go _ _ first, List.nil_append,
      run_digits addExponent _ more, foldl_addExponent]
    · simp [digitValues]
    · intro numeral c d known
      simp only [stepNumber, known]
  cases spelled with
  | none =>
      refine ⟨part, ?_, rfl⟩
      rcases before with rfl | rfl | rfl <;> rfl
  | @unsigned letter c cs isLetter digits =>
      refine ⟨.exponent, rfl, ?_⟩
      have digitsRun := @tail c cs digits .letter mantissa false [] fun d known => by
        simp only [stepNumber, known]
        rfl
      rw [List.append_nil] at digitsRun
      rw [List.cons_append, chars_cons, run_cons_go _ _ (letterStep isLetter), List.nil_append,
        digitsRun]
      rfl
  | @signed letter sign c cs isLetter isSign digits =>
      refine ⟨.exponent, rfl, ?_⟩
      have signStep : (State.number .letter mantissa).step (.char sign) = .go [] (.number
          .letterSign { mantissa with exponent := some (sign = '-', []) }) := by
        rcases isSign with rfl | rfl <;> rfl
      have digitsRun := @tail c cs digits .letterSign
        { mantissa with exponent := some (sign = '-', []) } (sign = '-') [] fun d known => by
          simp only [stepNumber, known]
          rfl
      rw [List.append_nil] at digitsRun
      rw [List.cons_append, List.cons_append, chars_cons, run_cons_go _ _ (letterStep isLetter),
        List.nil_append, chars_cons, run_cons_go _ _ signStep, List.nil_append, digitsRun]
      rfl

/-- A number that may end does so in front of a delimiter. -/
theorem run_number_end {part : NumberPart} (mayEnd : part.mayEnd) (numeral : Numeral)
    {rest : List Char} (delimited : Delimited rest) :
    run (.number part numeral) (chars rest) = numberToken numeral :: run .between (chars rest) := by
  cases rest with
  | nil => simp [run, State.finish, mayEnd]
  | cons c rest =>
      obtain ⟨noDigit, noPoint, noSmall, noLarge⟩ := delimited c rfl
      have after : stepNumber part numeral c = (startToken c).after (numberToken numeral) := by
        cases part <;> simp_all [NumberPart.mayEnd, stepNumber]
      rw [chars_cons, run, run, State.step, State.step, after]
      cases startToken c <;> rfl

/-- A number is scanned into its numeral. -/
theorem run_number {cs fs es : List Char} {fraction : Option (List Nat)}
    {exponent : Option (Bool × List Nat)} (whole : Whole cs) (behind : Fraction fs fraction)
    (power : Exponent es exponent) (negative : Bool) {rest : List Char}
    (delimited : Delimited rest) :
    run .between (chars ((if negative then ['-'] else []) ++ cs ++ (fs ++ (es ++ rest)))) =
      .number ⟨negative, digitValues cs, fraction, exponent⟩ :: run .between (chars rest) := by
  obtain ⟨part, early, first⟩ := run_whole whole negative (fs ++ (es ++ rest))
  obtain ⟨next, late, second⟩ :=
    run_fraction behind early negative (digitValues cs).reverse (es ++ rest)
  obtain ⟨last, mayEnd, third⟩ :=
    run_exponent power late negative (digitValues cs).reverse (fraction.map List.reverse) rest
  rw [first, second, third, run_number_end mayEnd _ delimited, numberToken]
  simp [Function.comp_def]

end Scan

/-! ## Texts -/

open Scan

/-- The ways in which a token is written. -/
inductive Lexeme : List Char → Token → Prop
  | openBrace : Lexeme ['\x7b'] .openBrace
  | closeBrace : Lexeme ['\x7d'] .closeBrace
  | openBracket : Lexeme ['['] .openBracket
  | closeBracket : Lexeme [']'] .closeBracket
  | comma : Lexeme [','] .comma
  | colon : Lexeme [':'] .colon
  | null : Lexeme ['n', 'u', 'l', 'l'] .null
  | yes : Lexeme ['t', 'r', 'u', 'e'] (.bool true)
  | no : Lexeme ['f', 'a', 'l', 's', 'e'] (.bool false)
  | number {cs fs es : List Char} {fraction : Option (List Nat)}
      {exponent : Option (Bool × List Nat)} (whole : Whole cs) (behind : Fraction fs fraction)
      (power : Exponent es exponent) (negative : Bool) :
      Lexeme ((if negative then ['-'] else []) ++ cs ++ (fs ++ es))
        (.number ⟨negative, digitValues cs, fraction, exponent⟩)
  | string {text cs : List Char} (literal : Literal text cs) :
      Lexeme ('"' :: (text ++ ['"'])) (.string (String.ofList cs))
  /-- A string that stands for no characters, because of halves of surrogate pairs in it. -/
  | unreadable {text : List Char} {draft : Draft} {fault : Fault}
      (writes : Writes text .empty draft) (broken : draft.close = .unreadable fault) :
      Lexeme ('"' :: (text ++ ['"'])) (.unreadable fault)

/-- A text consists of tokens and of white space around them. A number ends where it cannot go on.
-/
inductive Spells : List Char → List Token → Prop
  | nil : Spells [] []
  | blank {c : Char} {text : List Char} {tokens : List Token} (blank : c ∈ [' ', '\n', '\t', '\r'])
      (others : Spells text tokens) : Spells (c :: text) tokens
  | token {word text : List Char} {token : Token} {tokens : List Token}
      (first : Lexeme word token) (apart : ∀ numeral, token = .number numeral → Delimited text)
      (others : Spells text tokens) : Spells (word ++ text) (token :: tokens)

theorem Spells.of_eq {text other : List Char} {tokens : List Token} (spells : Spells text tokens)
    (same : other = text) : Spells other tokens := same ▸ spells

/-- Between tokens, the scanner reads a lexeme as its token and is between tokens again. A number
has to be delimited for that. -/
theorem Lexeme.run_between {word : List Char} {token : Token} (lexeme : Lexeme word token)
    {rest : List Char} (apart : ∀ numeral, token = .number numeral → Delimited rest) :
    run .between (chars (word ++ rest)) = token :: run .between (chars rest) := by
  cases lexeme with
  | number whole behind power negative =>
      have number := run_number whole behind power negative (apart _ rfl)
      simpa only [List.append_assoc] using number
  | @string text cs literal =>
      have writes := literal.writes []
      have close := Draft.close_clean cs.reverse
      rw [List.append_nil] at writes
      rw [List.reverse_reverse] at close
      exact (run_quoted writes rest).trans (by rw [close])
  | unreadable writes broken => exact (run_quoted writes rest).trans (by rw [broken])
  | _ => rfl

/-- **Spelled texts.** A text that spells tokens is scanned into these tokens. -/
theorem Spells.tokensOfString_eq {text : String} {tokens : List Token}
    (spells : Spells text.toList tokens) : tokensOfString text = tokens := by
  suffices every : ∀ {cs tokens}, Spells cs tokens → run .between (chars cs) = tokens from
    every spells
  intro cs tokens spells
  induction spells with
  | nil => rfl
  | @blank c text tokens blank others ih =>
      have start : startToken c = .go [] .between := by
        simp only [List.mem_cons, List.not_mem_nil, or_false] at blank
        rcases blank with rfl | rfl | rfl | rfl <;> rfl
      rw [run_start [] _ start, ih, List.nil_append]
  | token first apart others ih => rw [first.run_between apart, ih]

end Json

end ScrollStory
