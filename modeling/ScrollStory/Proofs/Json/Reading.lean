import Mathlib.Data.List.Forall2
import ScrollStory.Json.Record
import ScrollStory.Proofs.Json.Tokens

/-!
# Reading spelled values

`ScrollStory.Json.Reads` says that a reader takes given tokens for a given value, whatever follows
them. The readers of strings, numbers, lists, names, records and whole values take the tokens that
spell a value for that value. For a record given as an object it is enough that its members fill the
draft one after another (`ScrollStory.Json.Fills.reads_draft`).
-/

namespace ScrollStory

namespace Json

variable {α β σ : Type}

/-- A reader takes some tokens for a value, whatever follows them. -/
def Reads (reader : Read α) (tokens : List Token) (a : α) : Prop :=
  ∀ rest, reader (tokens ++ rest) = .ok (a, rest)

theorem Read.bind_of_ok {reader : Read α} {next : α → Read β} {tokens rest : List Token} {a : α}
    (first : reader tokens = .ok (a, rest)) : (reader >>= next) tokens = next a rest := by
  simp only [bind, StateT.bind, Except.bind, first]

namespace Reads

theorem pure (a : α) : Reads (Pure.pure a) [] a := fun _ => rfl

theorem bind {reader : Read α} {next : α → Read β} {tokens others : List Token} {a : α} {b : β}
    (first : Reads reader tokens a) (second : Reads (next a) others b) :
    Reads (reader >>= next) (tokens ++ others) b := by
  intro rest
  rw [List.append_assoc, Read.bind_of_ok (first _)]
  exact second rest

theorem bind_nil {reader : Read α} {next : α → Read β} {tokens : List Token} {a : α} {b : β}
    (first : Reads reader tokens a) (second : Reads (next a) [] b) :
    Reads (reader >>= next) tokens b := by
  have joined := first.bind second
  rwa [List.append_nil] at joined

/-- A reader whose value goes through a function. -/
theorem bind_pure {reader : Read α} {tokens : List Token} {a : α} (first : Reads reader tokens a)
    (f : α → β) : Reads (reader >>= fun a => Pure.pure (f a)) tokens (f a) := by
  intro rest
  exact Read.bind_of_ok (first rest)

theorem map {reader : Read α} {tokens : List Token} {a : α} (first : Reads reader tokens a)
    (f : α → β) : Reads (f <$> reader) tokens (f a) :=
  first.bind_pure f

/-! ## Single tokens -/

theorem string (s : String) : Reads Read.string [.string s] s := fun _ => rfl

theorem bool (b : Bool) : Reads Read.bool [.bool b] b := fun _ => rfl

/-- A null is read as the absence of a value. -/
theorem optional_none (value : Read α) : Reads (Read.optional value) [.null] none := fun _ => rfl

/-- Tokens that do not begin with a null are read as a value that is there. -/
theorem optional_some {value : Read α} {first : Token} {tokens : List Token} {a : α}
    (present : first ≠ .null) (reads : Reads value (first :: tokens) a) :
    Reads (Read.optional value) (first :: tokens) (some a) := by
  intro rest
  have read := reads.map some rest
  rw [List.cons_append] at *
  unfold Read.optional
  split
  · simp_all
  · exact read

/-- An optional string is read back from its tokens. -/
theorem optionalString (s : Option String) :
    Reads (Read.optional Read.string) (Value.optionalString s).tokens s := by
  cases s with
  | none => exact optional_none _
  | some s => exact optional_some (by simp) (string s)

/-- A known name is read as what the table has for it. -/
theorem oneOf {table : List (String × α)} {name : String} {a : α}
    (known : table.find? (·.1 = name) = some (name, a)) :
    Reads (Read.oneOf table) [.string name] a := by
  intro rest
  simp only [List.cons_append, List.nil_append, Read.oneOf, Read.named, known]
  rfl

end Reads

/-! ## Numbers -/

/-- A number only grows with its digits. -/
theorem le_foldl_digits (n : Nat) (ds : List Nat) :
    n ≤ ds.foldl (fun n d => n * 10 + d) n := by
  induction ds generalizing n with
  | nil => exact Nat.le_refl n
  | cons d ds ih => exact Nat.le_trans (by omega) (ih (n * 10 + d))

/-- Digits of a number below `2 ^ 64` all fit the significand. -/
theorem Numeral.significand_of_lt {n : Nat} {ds : List Nat}
    (fits : ds.foldl (fun n d => n * 10 + d) n < twoTo 64) :
    significand n ds = (ds.foldl (fun n d => n * 10 + d) n, []) := by
  induction ds generalizing n with
  | nil => rfl
  | cons d ds ih =>
      have first : n * 10 + d < twoTo 64 := Nat.lt_of_le_of_lt (le_foldl_digits _ ds) fits
      rw [significand, if_pos first]
      exact ih fits

/-- The number that decimal digits stand for. -/
theorem foldl_digitValues (cs : List Char) (n : Nat) :
    (digitValues cs).foldl (fun n d => n * 10 + d) n = Nat.ofDigitChars 10 cs n := by
  induction cs generalizing n with
  | nil => simp [digitValues]
  | cons c cs ih =>
      rw [Nat.ofDigitChars_cons, ← ih, Nat.mul_comm 10 n]
      rfl

/-- The numeral of a natural number below `2 ^ 64` has this number as its value. -/
theorem value_numeral_nat {n : Nat} (fits : n < twoTo 64) :
    (Number.whole n).numeral.value = .ok (.whole n) := by
  have total : (digitValues (Decimal.digits n)).foldl (fun n d => n * 10 + d) 0 = n := by
    rw [foldl_digitValues]
    exact Nat.ofDigitChars_ten_toDigits
  have significand := Numeral.significand_of_lt (total.symm ▸ fits)
  rw [total] at significand
  simp only [Number.numeral_nat, Numeral.value, significand, Bool.false_eq_true, ↓reduceIte]

/-- A number of 32 bits is read back from its tokens. -/
theorem Reads.word {n : Nat} (fits : n < twoTo 32) :
    Reads Read.word (Value.nat n).tokens n := by
  intro rest
  have wide : n < twoTo 64 := Nat.lt_trans fits (by decide)
  have bounds : (0 : Int) ≤ n ∧ (n : Int) < (twoTo 32 : Nat) := ⟨by omega, by exact_mod_cast fits⟩
  simp only [Value.nat, Value.tokens, List.cons_append, List.nil_append, Read.word,
    value_numeral_nat wide, bounds, and_self, ↓reduceIte, Int.toNat_natCast]

/-! ## Lists -/

/-- Items behind the first one are read up to the closing bracket, which stays. -/
theorem items_continued {item : Read α} {parts : List (List Token)} {as : List α}
    (reads : List.Forall₂ (Reads item) parts as) (opens : ∀ part ∈ parts, Opens part) {fuel : Nat}
    (enough : parts.length < fuel) (rest : List Token) :
    Read.items item fuel false (parts.flatMap (Token.comma :: ·) ++ .closeBracket :: rest) =
      .ok (as, .closeBracket :: rest) := by
  induction reads generalizing fuel with
  | nil =>
      obtain ⟨fuel, rfl⟩ := Nat.exists_eq_succ_of_ne_zero (Nat.ne_of_gt enough)
      rfl
  | @cons part a parts as first others ih =>
      obtain ⟨fuel, rfl⟩ := Nat.exists_eq_succ_of_ne_zero (Nat.ne_of_gt (Nat.zero_lt_of_lt enough))
      obtain ⟨token, tokens, rfl, notBracket, _⟩ := opens part (by simp)
      have next := ih (fun part member => opens part (by simp [member]))
        (Nat.lt_of_succ_lt_succ enough)
      have comma (behind : List Token) :
          Read.nextItem false (.comma :: token :: behind) = .ok (true, token :: behind) := by
        simp [Read.nextItem, notBracket]
      have read := first (parts.flatMap (Token.comma :: ·) ++ .closeBracket :: rest)
      simp only [List.flatMap_cons, List.cons_append, List.append_assoc, Read.items] at read ⊢
      rw [Read.bind_of_ok (comma _), if_pos rfl, Read.bind_of_ok read, Read.bind_of_ok next]
      rfl

/-- A list is read by reading its items. -/
theorem Reads.list {item : Read α} {parts : List (List Token)} {as : List α}
    (reads : List.Forall₂ (Reads item) parts as) (opens : ∀ part ∈ parts, Opens part) :
    Reads (Read.list item) (inBrackets parts) as := by
  intro rest
  have closing : Read.endList (.closeBracket :: rest) = .ok ((), rest) := rfl
  cases reads with
  | nil => rfl
  | @cons part a parts as first others =>
      obtain ⟨token, tokens, rfl, notBracket, _⟩ := opens part (by simp)
      let behind := parts.flatMap (Token.comma :: ·) ++ .closeBracket :: rest
      have next : Read.items item (token :: (tokens ++ behind)).length false behind =
          .ok (as, .closeBracket :: rest) := by
        apply items_continued others fun part member => opens part (by simp [member])
        have counted := length_le_flatMap_comma parts
        simp only [behind, List.length_cons, List.length_append]
        omega
      have start : Read.nextItem true (token :: (tokens ++ behind)) =
          .ok (true, token :: (tokens ++ behind)) := by
        simp [Read.nextItem]
      have read : item (token :: (tokens ++ behind)) = .ok (a, behind) := first behind
      have items : Read.items item ((token :: (tokens ++ behind)).length + 1) true
          (token :: (tokens ++ behind)) = .ok (a :: as, .closeBracket :: rest) := by
        rw [Read.items, Read.bind_of_ok start, if_pos rfl, Read.bind_of_ok read,
          Read.bind_of_ok next]
        rfl
      have whole : Read.list item (.openBracket :: (token :: (tokens ++ behind))) =
          .ok (a :: as, rest) := by
        rw [Read.list, Read.bind_of_ok items, Read.bind_of_ok closing]
        rfl
      simpa only [listed, List.cons_append, List.append_assoc, List.nil_append] using whole

/-! ## Records -/

/-- Members fill a draft one after another: each takes the tokens behind its key. -/
inductive Fills (member : String → σ → Read σ) : σ → List (List Token) → σ → Prop
  | nil (draft : σ) : Fills member draft [] draft
  | cons {draft next done : σ} {name : String} {tokens : List Token} {parts : List (List Token)}
      (first : Reads (member name draft) tokens next) (others : Fills member next parts done) :
      Fills member draft ((.string name :: tokens) :: parts) done

/-- Members behind the first one are read up to the closing brace. -/
theorem Fills.members_continued {member : String → σ → Read σ} {draft done : σ}
    {parts : List (List Token)} (fills : Fills member draft parts done) {fuel : Nat}
    (enough : parts.length < fuel) (rest : List Token) :
    Read.members member fuel false draft
        (parts.flatMap (Token.comma :: ·) ++ .closeBrace :: rest) =
      .ok (done, rest) := by
  induction fills generalizing fuel with
  | nil draft =>
      obtain ⟨fuel, rfl⟩ := Nat.exists_eq_succ_of_ne_zero (Nat.ne_of_gt enough)
      rfl
  | @cons draft next done name tokens parts first others ih =>
      obtain ⟨fuel, rfl⟩ := Nat.exists_eq_succ_of_ne_zero (Nat.ne_of_gt (Nat.zero_lt_of_lt enough))
      have key (behind : List Token) :
          Read.nextKey false (.comma :: .string name :: behind) = .ok (some name, behind) := rfl
      have read := first (parts.flatMap (Token.comma :: ·) ++ .closeBrace :: rest)
      simp only [List.flatMap_cons, List.cons_append, List.append_assoc, Read.members] at read ⊢
      rw [Read.bind_of_ok (key _)]
      simp only
      rw [Read.bind_of_ok read]
      exact ih (Nat.lt_of_succ_lt_succ enough)

/-- Members that fill a draft are read onto it. -/
theorem Fills.reads_draft {member : String → σ → Read σ} {start done : σ}
    {parts : List (List Token)} (fills : Fills member start parts done) :
    Reads (Read.draft member start) (listed parts ++ [.closeBrace]) done := by
  intro rest
  cases fills with
  | nil => rfl
  | @cons _ next _ name tokens parts first others =>
      let behind := parts.flatMap (Token.comma :: ·) ++ .closeBrace :: rest
      have key : Read.nextKey true (.string name :: (tokens ++ behind)) =
          .ok (some name, tokens ++ behind) := rfl
      have read : member name start (tokens ++ behind) = .ok (next, behind) := first behind
      have filled : Read.members member (.string name :: (tokens ++ behind)).length false next
          behind = .ok (done, rest) := by
        apply others.members_continued
        have counted := length_le_flatMap_comma parts
        simp only [behind, List.length_cons, List.length_append]
        omega
      have whole : Read.draft member start (.string name :: (tokens ++ behind)) =
          .ok (done, rest) := by
        simp only [Read.draft, Read.members]
        rw [Read.bind_of_ok key]
        simp only
        rw [Read.bind_of_ok read]
        exact filled
      simpa only [listed, List.cons_append, List.append_assoc, List.nil_append] using whole

namespace Reads

/-- The value of a member whose key has not been met. -/
theorem field (name : String) {value : Read α} {tokens : List Token} {a : α}
    (reads : Reads value tokens a) : Reads (Read.field name none value) (.colon :: tokens) a :=
  fun rest => reads rest

/-- A record that is given as an object. -/
theorem record (wanted : String) {ofObject : Read α} (ofList : Read α) {tokens : List Token} {a : α}
    (reads : Reads ofObject tokens a) :
    Reads (Read.record wanted ofObject ofList) (.openBrace :: tokens) a :=
  fun rest => reads rest

end Reads

end Json

end ScrollStory
