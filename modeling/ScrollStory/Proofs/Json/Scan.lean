import Mathlib.Data.List.Forall2
import ScrollStory.Proofs.Decimal.Whole
import ScrollStory.Proofs.Json.Lexemes

/-!
# Scanning written values

A written value is scanned into the tokens that spell it, in both layouts and whatever follows, as
long as a number in it could not go on there (`ScrollStory.Json.Value.scans_write`). The text of a
value is therefore scanned into these tokens and nothing else
(`ScrollStory.Json.Value.tokensOfString_text`).
-/

namespace ScrollStory

namespace Json

open Text (Chunk)

namespace Scan

/-- A text is scanned into tokens, whatever follows that cannot be part of a number. -/
def Scans (text : List Char) (tokens : List Token) : Prop :=
  ∀ rest, Delimited rest → run .between (chars (text ++ rest)) = tokens ++ run .between (chars rest)

/-! ## Strings -/

/-- The two hexadecimal digits of a control character. -/
private theorem hexDigit?_low (n : Fin 32) :
    hexDigit? (if n.val < 16 then '0' else '1') = some (n.val / 16) ∧
      hexDigit? (Nat.digitChar (n.val % 16)) = some (n.val % 16) := by
  revert n
  decide

/-- A character of a string stands for itself in the way in which it is written. -/
theorem literal_escapedChar {text cs : List Char} (literal : Literal text cs) (c : Char) :
    Literal (escapedChar c ++ text) (c :: cs) := by
  unfold escapedChar
  split
  · subst c; exact .escape rfl literal
  split
  · subst c; exact .escape rfl literal
  split
  · subst c; exact .escape rfl literal
  split
  · subst c; exact .escape rfl literal
  split
  · subst c; exact .escape rfl literal
  split
  · subst c; exact .escape rfl literal
  split
  · subst c; exact .escape rfl literal
  split
  · rename_i control
    have small : c.toNat < 32 := control
    obtain ⟨tens, units⟩ := hexDigit?_low ⟨c.toNat, small⟩
    have code : unit? [.char (Nat.digitChar (c.toNat % 16)),
        .char (if c.toNat < 16 then '0' else '1'), .char '0', .char '0'] = some c.toNat := by
      simp only [unit?, tens, units, show hexDigit? '0' = some 0 from rfl, Option.bind_eq_bind,
        Option.bind_some, Option.some.injEq]
      omega
    have high : Draft.isHighHalf c.toNat = false := by simp [Draft.isHighHalf]; omega
    have low : Draft.isLowHalf c.toNat = false := by simp [Draft.isLowHalf]; omega
    have written := Literal.unit code high low literal
    rwa [Char.ofNat_toNat] at written
  · exact .plain ‹_› ‹_› ‹_› literal

theorem literal_flatMap (cs : List Char) : Literal (cs.flatMap escapedChar) cs := by
  induction cs with
  | nil => exact .nil
  | cons c cs ih => exact literal_escapedChar ih c

theorem lexeme_quote (s : String) : Lexeme (quote s) (.string s) := by
  have quoted := Lexeme.string (literal_flatMap s.toList)
  rwa [String.ofList_toList] at quoted

/-- A quoted string is scanned into the token of the string. -/
theorem run_quote (s : String) (rest : List Char) :
    run .between (chars (quote s ++ rest)) = .string s :: run .between (chars rest) :=
  (lexeme_quote s).run_between nofun

theorem scans_quote (s : String) : Scans (quote s) [.string s] :=
  fun rest _ => run_quote s rest

/-! ## Numbers -/

/-- Digits that do not begin with a zero spell a whole number. -/
theorem whole_of_isDigits {cs : List Char} (digits : IsDigits cs) (head : cs.head? ≠ some '0') :
    Whole cs := by
  obtain ⟨first, others, rfl⟩ := List.exists_cons_of_ne_nil digits.1
  exact .digits (fun same => head (congrArg some same)) digits.2

/-- The digits of a natural number are those of a number without sign, fraction and exponent. -/
theorem lexeme_digits (n : Nat) :
    Lexeme (Decimal.digits n) (.number (Number.whole n).numeral) := by
  have whole : Whole (Decimal.digits n) := by
    by_cases zero : n = 0
    · subst zero
      exact .zero
    · have head := Decimal.head_digits_ne_zero (Nat.pos_of_ne_zero zero)
      exact whole_of_isDigits (Decimal.isDigits_digits n) head
  have number := Lexeme.number whole .none .none false
  rw [Number.numeral_nat]
  simpa using number

theorem scans_nat (n : Nat) : Scans (Decimal.digits n) [.number (Number.whole n).numeral] :=
  fun _ delimited => (lexeme_digits n).run_between fun _ _ => delimited

theorem scans_writeNat (n : Nat) :
    Scans (Number.whole n).write [.number (Number.whole n).numeral] := by
  have written : (Number.whole n).write = Decimal.digits n := by
    rw [Number.write, Decimal.plain_ofInt, String.toList_ofList]
  rw [written]
  exact scans_nat n

/-! ## Lists and objects -/

/-- The line break in front of a part, and the spaces behind it, leave no token. -/
theorem run_newline (level : Nat) (rest : List Chunk) :
    run .between (chars (newline level) ++ rest) = run .between rest := by
  have spaces (count : Nat) :
      run .between (chars (List.replicate count ' ') ++ rest) = run .between rest := by
    induction count with
    | zero => rfl
    | succ count ih =>
        rw [List.replicate_succ, chars_cons, List.cons_append, run_cons_go [] .between rfl]
        exact ih
  rw [newline, chars_cons, List.cons_append, run_cons_go [] .between rfl]
  exact spaces (2 * level)

theorem delimited_newline (level : Nat) (rest : List Char) : Delimited (newline level ++ rest) :=
  delimited_cons (by decide)

/-- Parts with commas between them are scanned into the tokens of the parts with commas between
them. -/
theorem run_separated {lineBreak : List Char}
    (quiet : ∀ rest, run .between (chars lineBreak ++ rest) = run .between rest)
    {parts : List (List Char)} {tokens : List (List Token)}
    (scans : List.Forall₂ Scans parts tokens) {rest : List Char} (delimited : Delimited rest) :
    run .between (chars (separated lineBreak parts ++ rest)) =
      listed tokens ++ run .between (chars rest) := by
  induction scans with
  | nil => rfl
  | @cons part partTokens parts tokens first others ih =>
      cases others with
      | nil =>
          simp only [separated, listed, List.append_assoc, chars_append, quiet, List.flatMap_nil,
            List.append_nil]
          rw [← chars_append]
          exact first rest delimited
      | @cons next nextTokens parts tokens second others =>
          let behind := separated lineBreak (next :: parts) ++ rest
          calc run .between (chars (separated lineBreak (part :: next :: parts) ++ rest))
              = run .between (chars (part ++ ',' :: behind)) := by
                simp only [separated, behind, List.append_assoc, chars_append, quiet,
                  List.cons_append, chars_cons]
            _ = partTokens ++ run .between (chars (',' :: behind)) :=
                first _ (delimited_cons (by decide))
            _ = partTokens ++ .comma :: run .between (chars behind) := by
                rw [run_start [.comma] .between rfl]
                rfl
            _ = listed (partTokens :: nextTokens :: tokens) ++ run .between (chars rest) := by
                rw [ih]
                simp [listed]

/-- What stands between brackets is scanned into its tokens between those of the brackets. -/
theorem scans_bracketed (format : Format) (level : Nat) {left right : Char}
    {opening closing : Token}
    (opens : startToken left = .go [opening] .between)
    (closes : startToken right = .go [closing] .between)
    (delimiter : digit? right = none ∧ right ≠ '.' ∧ right ≠ 'e' ∧ right ≠ 'E')
    {parts : List (List Char)} {tokens : List (List Token)}
    (scans : List.Forall₂ Scans parts tokens) :
    Scans (bracketed format level left right parts) (opening :: (listed tokens ++ [closing])) := by
  intro rest _
  have close : run .between (chars (right :: rest)) = closing :: run .between (chars rest) :=
    run_start _ _ closes rest
  have opened (behind : List Char) :
      run .between (chars (left :: behind)) = opening :: run .between (chars behind) :=
    run_start _ _ opens behind
  cases scans with
  | nil =>
      cases format <;>
        simpa only [bracketed, listed, List.cons_append, List.nil_append, opened] using
          congrArg _ close
  | @cons part partTokens parts tokens first others =>
      have all := List.Forall₂.cons first others
      cases format with
      | compact =>
          have scanned := run_separated (fun _ => rfl : ∀ behind,
            run .between (chars [] ++ behind) = run .between behind) all
            (delimited_cons delimiter : Delimited (right :: rest))
          simp only [bracketed, List.cons_append, List.append_assoc, List.nil_append, opened,
            scanned, close]
      | pretty =>
          have closed : run .between (chars (newline level ++ right :: rest)) =
              closing :: run .between (chars rest) := by
            rw [chars_append, run_newline, close]
          have scanned := run_separated (run_newline (level + 1)) all
            (delimited_newline level (right :: rest))
          rw [closed] at scanned
          simp only [bracketed, List.cons_append, List.append_assoc, List.nil_append, opened,
            scanned]

/-! ## Values -/

/-- A number whose text is scanned into its numeral. -/
def Scannable (n : Number) : Prop := Scans n.write [.number n.numeral]

/-- A member of an object is scanned into its key, a colon and the tokens of its value. -/
theorem scans_member (format : Format) (key : String) {text : List Char} {tokens : List Token}
    (scans : Scans text tokens) :
    Scans (quote key ++ ':' :: (match format with | .pretty => [' '] | .compact => []) ++ text)
      (.string key :: .colon :: tokens) := by
  intro rest delimited
  have colon (behind : List Char) :
      run .between (chars (':' :: behind)) = .colon :: run .between (chars behind) :=
    run_start [.colon] .between rfl behind
  have blank (behind : List Char) :
      run .between (chars (' ' :: behind)) = run .between (chars behind) :=
    run_start [] .between rfl behind
  cases format <;>
    simp only [List.append_assoc, List.cons_append, List.nil_append, run_quote, colon, blank,
      scans rest delimited]

end Scan

namespace Value

open Scan

mutual

/-- A written value is scanned into the tokens that spell it. -/
theorem scans_write (format : Format) (level : Nat) :
    ∀ value : Value, value.EveryNumber Scannable → Scans (value.write format level) value.tokens
  | null, _ => fun _ _ => rfl
  | bool true, _ => fun _ _ => rfl
  | bool false, _ => fun _ _ => rfl
  | number _, scannable => scannable
  | string s, _ => scans_quote s
  | array items, scannable =>
    scans_bracketed format level rfl rfl (by decide)
      (scans_writeItems format (level + 1) items scannable)
  | object members, scannable =>
    scans_bracketed format level rfl rfl (by decide)
      (scans_writeMembers format (level + 1) members scannable)

/-- The items of a list are scanned one by one. -/
theorem scans_writeItems (format : Format) (level : Nat) :
    ∀ items : List Value, EveryNumberOfItems Scannable items →
      List.Forall₂ Scans (writeItems format level items) (itemTokens items)
  | [], _ => .nil
  | item :: items, scannable =>
    .cons (scans_write format level item scannable.1)
      (scans_writeItems format level items scannable.2)

/-- The members of an object are scanned one by one. -/
theorem scans_writeMembers (format : Format) (level : Nat) :
    ∀ members : List (String × Value), EveryNumberOfMembers Scannable members →
      List.Forall₂ Scans (writeMembers format level members) (memberTokens members)
  | [], _ => .nil
  | (key, value) :: members, scannable =>
    .cons (scans_member format key (scans_write format level value scannable.1))
      (scans_writeMembers format level members scannable.2)

end

/-- **The text of a value.** In both layouts the text of a value is scanned into the tokens that
spell it. -/
theorem tokensOfString_text (format : Format) {value : Value}
    (scannable : value.EveryNumber Scannable) :
    tokensOfString (value.text format) = value.tokens := by
  have scanned := scans_write format 0 value scannable [] delimited_nil
  rw [List.append_nil, chars_nil, run, State.finish, List.append_nil] at scanned
  rw [tokensOfString, text, String.toList_ofList]
  exact scanned

end Value

end Json

end ScrollStory
