import Mathlib.Data.List.Basic

/-!
# Balanced program texts

In a balanced text every string ends on the line on which it begins and has no backslash in it, and
outside strings the brackets are nested and closed. A scanner that remembers which brackets are open
reads a text from the beginning to the end, and what it reads with nothing left open is balanced
(`ScrollStory.Script.Reads.balanced`).
-/

namespace ScrollStory

namespace Script

/-- The opening brackets with the closing ones. -/
def brackets : List (Char × Char) := [('(', ')'), ('\x7b', '\x7d'), ('[', ']')]

/-- Whether a character closes something. -/
def isClosing (c : Char) : Bool := (brackets.map Prod.snd).contains c

/-- A character outside strings that opens nothing and closes nothing. -/
def Neutral (c : Char) : Prop := c ≠ '"' ∧ brackets.lookup c = none ∧ isClosing c = false

/-- A character in a string that neither ends it nor begins an escape nor ends the line. -/
def Inside (c : Char) : Prop := c ≠ '"' ∧ c ≠ '\\' ∧ c ≠ '\n'

/-- A text whose brackets close each other in pairs outside its strings, and whose strings end. -/
inductive Balanced : List Char → Prop where
  | nil : Balanced []
  | neutral {c : Char} {rest : List Char} (neutral : Neutral c) (later : Balanced rest) :
      Balanced (c :: rest)
  | string {body rest : List Char} (inside : ∀ c ∈ body, Inside c) (later : Balanced rest) :
      Balanced ('"' :: (body ++ '"' :: rest))
  | bracket {opening closing : Char} {inner rest : List Char}
      (pair : brackets.lookup opening = some closing) (within : Balanced inner)
      (later : Balanced rest) : Balanced (opening :: (inner ++ closing :: rest))

/-! ## The scanner -/

/-- Where a scanner stands, with the closing brackets that it expects, the next one first. -/
inductive Position where
  | code (expected : List Char)
  | string (expected : List Char)
  deriving DecidableEq, Repr

namespace Position

/-- The position behind a character. -/
def next? : Position → Char → Option Position
  | code expected, c =>
    if c = '"' then some (string expected)
    else
      match brackets.lookup c with
      | some closing => some (code (closing :: expected))
      | none =>
        if isClosing c then
          if expected.head? = some c then some (code expected.tail) else none
        else some (code expected)
  | string expected, c =>
    if c = '"' then some (code expected)
    else if c = '\\' ∨ c = '\n' then none
    else some (string expected)

/-- The position behind a text. -/
def after? (position : Position) : List Char → Option Position
  | [] => some position
  | c :: cs => (position.next? c).bind (after? · cs)

theorem after?_append (position : Position) (cs others : List Char) :
    position.after? (cs ++ others) = (position.after? cs).bind (after? · others) := by
  induction cs generalizing position with
  | nil => rfl
  | cons c cs ih =>
      rw [List.cons_append, after?, after?]
      cases position.next? c with
      | none => rfl
      | some next => exact ih next

end Position

/-! ## What is read is balanced -/

/-- A text that closes the expected brackets in their order, with balanced texts between them. -/
inductive Closes : List Char → List Char → Prop where
  | nil {cs : List Char} (balanced : Balanced cs) : Closes [] cs
  | cons {closing : Char} {expected inner rest : List Char} (within : Balanced inner)
      (later : Closes expected rest) : Closes (closing :: expected) (inner ++ closing :: rest)

namespace Closes

variable {expected cs : List Char}

/-- A neutral character may stand in front of a text that closes brackets. -/
theorem neutral {c : Char} (neutral : Neutral c) (closes : Closes expected cs) :
    Closes expected (c :: cs) := by
  cases closes with
  | nil balanced => exact .nil (.neutral neutral balanced)
  | cons within later => exact .cons (.neutral neutral within) later

/-- A string may stand in front of a text that closes brackets. -/
theorem string {body : List Char} (inside : ∀ c ∈ body, Inside c) (closes : Closes expected cs) :
    Closes expected ('"' :: (body ++ '"' :: cs)) := by
  cases closes with
  | nil balanced => exact .nil (.string inside balanced)
  | cons within later => simpa using Closes.cons (.string inside within) later

/-- An opening bracket has its closing one expected in the text behind it. -/
theorem bracket {opening closing : Char} (pair : brackets.lookup opening = some closing)
    (closes : Closes (closing :: expected) cs) : Closes expected (opening :: cs) := by
  cases closes with
  | cons within later =>
      cases later with
      | nil balanced => exact .nil (.bracket pair within balanced)
      | cons within' later => simpa using Closes.cons (.bracket pair within within') later

end Closes

/-- A text behind which a scanner expects nothing closes the brackets that were expected before it.
In a string, the text first ends the string. The induction is on the text, for both positions at
once. -/
theorem Position.closes_of_after? {cs : List Char} :
    (∀ {expected}, (code expected).after? cs = some (code []) → Closes expected cs) ∧
      ∀ {expected}, (string expected).after? cs = some (code []) →
        ∃ body rest, (∀ c ∈ body, Inside c) ∧ cs = body ++ '"' :: rest ∧ Closes expected rest := by
  induction cs with
  | nil =>
      constructor
      · intro expected read
        cases read
        exact .nil .nil
      · intro expected read
        cases read
  | cons c cs ih =>
      obtain ⟨ofCode, ofString⟩ := ih
      constructor
      · intro expected read
        rw [after?, next?] at read
        split at read
        · rename_i quote
          obtain ⟨body, rest, inside, rfl, closes⟩ := ofString read
          exact quote ▸ .string inside closes
        · rename_i quote
          split at read
          · rename_i closing pair
            exact .bracket pair (ofCode read)
          · rename_i single
            split at read
            · split at read
              · rename_i next
                obtain ⟨later, rfl⟩ : ∃ later, expected = c :: later :=
                  List.head?_eq_some_iff.mp next
                have empty : Balanced [] := .nil
                exact .cons empty (ofCode read)
              · cases read
            · rename_i other
              exact .neutral ⟨quote, single, by simpa using other⟩ (ofCode read)
      · intro expected read
        rw [after?, next?] at read
        split at read
        · rename_i quote
          exact ⟨[], cs, List.forall_mem_nil _, by rw [quote]; rfl, ofCode read⟩
        · rename_i quote
          split at read
          · cases read
          · rename_i plain
            obtain ⟨body, rest, inside, rfl, closes⟩ := ofString read
            refine ⟨c :: body, rest, ?_, rfl, closes⟩
            exact List.forall_mem_cons.mpr ⟨⟨quote, not_or.mp plain⟩, inside⟩

/-! ## Reading texts piece by piece -/

/-- A text takes the scanner from one position to another. -/
def Reads (before : Position) (s : String) (after : Position) : Prop :=
  before.after? s.toList = some after

namespace Reads

variable {before between after : Position} {s t : String}

/-- A text is balanced if a scanner expects nothing before it and nothing behind it. -/
theorem balanced (read : Reads (.code []) s (.code [])) : Balanced s.toList := by
  cases Position.closes_of_after?.1 read with
  | nil balanced => exact balanced

theorem append (first : Reads before s between) (second : Reads between t after) :
    Reads before (s ++ t) after := by
  rw [Reads, String.toList_append, Position.after?_append, first]
  exact second

theorem join {texts : List String} (each : ∀ text ∈ texts, Reads before text before) :
    Reads before (String.join texts) before := by
  induction texts with
  | nil => rfl
  | cons text texts ih =>
      rw [String.join_cons]
      exact (each text List.mem_cons_self).append
        (ih fun other member => each other (List.mem_cons_of_mem _ member))

end Reads

/-! ## Texts that leave the scanner where it is -/

/-- A character that means nothing to the scanner, inside strings and outside. -/
def isQuiet (c : Char) : Bool :=
  !(['"', '\\', '\n', '(', ')', '\x7b', '\x7d', '[', ']'].contains c)

/-- A text of characters that mean nothing to the scanner. -/
def Quiet (s : String) : Prop := s.toList.all isQuiet = true

instance (s : String) : Decidable (Quiet s) := inferInstanceAs (Decidable (_ = true))

theorem next?_of_isQuiet {c : Char} (quiet : isQuiet c = true) (position : Position) :
    position.next? c = some position := by
  simp only [isQuiet, List.contains_eq_mem, Bool.not_eq_true', decide_eq_false_iff_not,
    List.mem_cons, List.not_mem_nil, or_false, not_or] at quiet
  obtain ⟨quote, backslash, line, round, round', brace, brace', square, square'⟩ := quiet
  cases position with
  | code expected =>
      simp [Position.next?, brackets, isClosing, List.lookup_cons, quote, round, round', brace,
        brace', square, square', beq_false_of_ne]
  | string expected => simp [Position.next?, quote, backslash, line]

namespace Quiet

variable {s t : String}

theorem append (first : Quiet s) (second : Quiet t) : Quiet (s ++ t) := by
  rw [Quiet, String.toList_append, List.all_append, first, second]
  rfl

/-- Quiet texts with a quiet separator make a quiet text. -/
theorem intercalate {texts : List String} (separator : Quiet s)
    (each : ∀ text ∈ texts, Quiet text) : Quiet (s.intercalate texts) := by
  induction texts with
  | nil => rfl
  | cons text texts ih =>
      obtain ⟨first, later⟩ := List.forall_mem_cons.mp each
      cases texts with
      | nil =>
          rw [String.intercalate_singleton]
          exact first
      | cons next texts =>
          rw [String.intercalate_cons_cons]
          exact (first.append separator).append (ih later)

/-- A quiet text leaves a scanner where it is. -/
theorem reads (quiet : Quiet s) (position : Position) : Reads position s position := by
  have all (cs : List Char) (quiet : cs.all isQuiet = true) :
      position.after? cs = some position := by
    induction cs with
    | nil => rfl
    | cons c cs ih =>
        rw [List.all_cons, Bool.and_eq_true] at quiet
        rw [Position.after?, next?_of_isQuiet quiet.1]
        exact ih quiet.2
  exact all s.toList quiet

end Quiet

end Script

end ScrollStory
