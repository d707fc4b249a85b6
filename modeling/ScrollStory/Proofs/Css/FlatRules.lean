import Mathlib.Data.List.TakeWhile
import ScrollStory.Proofs.Css.Lengths
import ScrollStory.Text.Pieces

/-!
# Reading rules back

A reader of stylesheets that knows flat rules only. Every closing brace ends a rule, which has one
opening brace, and every semicolon ends a declaration, which has one colon. A text is refused if
anything begins in it that may hide a mark: a string, a comment, an escape or an at-rule. Calm rules
have no marks in their parts, and their text is read as just these rules
(`ScrollStory.Css.reads_rulesText`).
-/

namespace ScrollStory

open CssLength (isSpace)

namespace Css

/-! ## The reader -/

/-- A rule that has been read. -/
structure FlatRule where
  selector : String
  declarations : List (String × String)
  deriving DecidableEq, Repr

/-- A text without the white space around it. -/
def bare (cs : List Char) : String := String.ofList (Text.strip isSpace cs)

/-- The text before and the text behind the only mark of a kind. -/
def cut? (mark : Char) (cs : List Char) : Option (List Char × List Char) :=
  match Text.pieces mark cs with
  | [before, behind] => some (before, behind)
  | _ => none

/-- Reads the pieces before the last one, which has to be blank. -/
def readEnded? {α : Type} (read : List Char → Option α) : List (List Char) → Option (List α)
  | [] => none
  | [last] => if last.all isSpace then some [] else none
  | piece :: next :: rest => do
    let item ← read piece
    let items ← readEnded? read (next :: rest)
    return item :: items

/-- Reads a declaration. -/
def readDeclaration? (cs : List Char) : Option (String × String) :=
  (cut? ':' cs).map fun parts => (bare parts.1, bare parts.2)

/-- Reads a rule without its closing brace. -/
def readRule? (cs : List Char) : Option FlatRule := do
  let parts ← cut? '{' cs
  let declarations ← readEnded? readDeclaration? (Text.pieces ';' parts.2)
  return ⟨bare parts.1, declarations⟩

/-- The characters with which a string, a comment, an escape or an at-rule begins. -/
def openers : List Char := ['"', '\x27', '/', '\\', '@']

/-- Reads rules one after another. -/
def readRules? (text : String) : Option (List FlatRule) :=
  if text.toList.any openers.contains then none
  else readEnded? readRule? (Text.pieces '}' text.toList)

end Css

/-! ## Pieces -/

namespace Css

/-- A text is cut at a mark that stands in it once. -/
theorem cut?_append {mark : Char} {before behind : List Char} (free : mark ∉ before)
    (free' : mark ∉ behind) : cut? mark (before ++ mark :: behind) = some (before, behind) := by
  rw [cut?, Text.pieces_append free, Text.pieces_of_not_mem free']

/-- The piece before a mark is read first, and then the pieces behind it. -/
theorem readEnded?_append {α : Type} {read : List Char → Option α} {mark : Char}
    {before : List Char} (free : mark ∉ before) (behind : List Char) {item : α}
    (reads : read before = some item) :
    readEnded? read (Text.pieces mark (before ++ mark :: behind)) =
      (readEnded? read (Text.pieces mark behind)).map (item :: ·) := by
  rw [Text.pieces_append free]
  obtain ⟨next, rest, split⟩ := List.exists_cons_of_ne_nil (Text.pieces_ne_nil mark behind)
  rw [split, readEnded?, reads]
  cases readEnded? read (next :: rest) <;> rfl

/-- Nothing is read from a blank text. -/
theorem readEnded?_blank {α : Type} {read : List Char → Option α} {mark : Char}
    (seen : isSpace mark = false) {cs : List Char} (blank : ∀ c ∈ cs, isSpace c = true) :
    readEnded? read (Text.pieces mark cs) = some [] := by
  have free : mark ∉ cs := by
    intro member
    rw [blank mark member] at seen
    cases seen
  rw [Text.pieces_of_not_mem free, readEnded?, if_pos (List.all_eq_true.mpr blank)]

end Css

/-! ## White space around a text -/

namespace Text

variable {p : Char → Bool} {cs : List Char}

theorem strip_append_left {front : List Char} (all : ∀ c ∈ front, p c = true) :
    strip p (front ++ cs) = strip p cs := by
  rw [strip, strip, List.dropWhile_append_of_pos all]

theorem dropEndWhile_append {back : List Char} (all : ∀ c ∈ back, p c = true) :
    dropEndWhile p (cs ++ back) = dropEndWhile p cs := by
  rw [dropEndWhile, dropEndWhile, List.reverse_append, List.dropWhile_append_of_pos]
  exact fun c member => all c (List.mem_reverse.mp member)

theorem strip_append_right {back : List Char} (all : ∀ c ∈ back, p c = true) :
    strip p (cs ++ back) = strip p cs := by
  rw [strip, strip, List.dropWhile_append]
  split
  · rename_i empty
    rw [List.isEmpty_iff.mp empty, List.dropWhile_eq_nil_iff.2 all]
  · exact dropEndWhile_append all

/-- Nothing is taken off a text that neither begins nor ends with what is taken off. -/
theorem strip_eq_self (first : ∀ c ∈ cs.head?, p c = false)
    (last : ∀ c ∈ cs.getLast?, p c = false) : strip p cs = cs := by
  have keep {cs : List Char} (first : ∀ c ∈ cs.head?, p c = false) : cs.dropWhile p = cs := by
    cases cs with
    | nil => rfl
    | cons c cs => rw [List.dropWhile_cons, first c rfl, if_neg Bool.false_ne_true]
  rw [← List.head?_reverse] at last
  rw [strip, keep first, dropEndWhile, keep last, List.reverse_reverse]

end Text

namespace Css

/-! ## Calm rules -/

/-- The characters that mean something between the texts of a rule, or hide what does. -/
def marks : List Char := ['{', '}', ';', ':'] ++ openers

/-- A text without marks. -/
def Calm (s : String) : Prop := ∀ mark ∈ marks, mark ∉ s.toList

instance (s : String) : Decidable (Calm s) := List.decidableBAll _ _

/-- Declarations whose texts are calm. -/
def CalmAll (declarations : List (String × String)) : Prop :=
  ∀ declaration ∈ declarations, Calm declaration.1 ∧ Calm declaration.2

instance (declarations : List (String × String)) : Decidable (CalmAll declarations) :=
  List.decidableBAll _ _

/-- A rule whose texts are calm. -/
structure Rule.IsCalm (rule : Rule) : Prop where
  selector : Calm rule.selector.text
  declarations : CalmAll rule.declarations

/-- A rule as it is read. -/
def Rule.flat (rule : Rule) : FlatRule where
  selector := bare rule.selector.text.toList
  declarations := rule.declarations.map fun declaration =>
    (bare declaration.1.toList, bare declaration.2.toList)

/-- White space has no marks in it. -/
theorem not_mem_space {space : List Char} (blank : ∀ c ∈ space, isSpace c = true) :
    ∀ mark ∈ marks, mark ∉ space := by
  have seen : ∀ mark ∈ marks, isSpace mark = false := forall_mem_of_all (by decide)
  intro mark listed member
  have space := blank mark member
  rw [seen mark listed] at space
  cases space

theorem bare_append_left {front : List Char} (blank : ∀ c ∈ front, isSpace c = true)
    (cs : List Char) : bare (front ++ cs) = bare cs := by
  rw [bare, bare, Text.strip_append_left blank]

theorem bare_append_right {back : List Char} (blank : ∀ c ∈ back, isSpace c = true)
    (cs : List Char) : bare (cs ++ back) = bare cs := by
  rw [bare, bare, Text.strip_append_right blank]

/-! ## Reading calm rules -/

/-- A calm declaration is read as its name and its value. -/
theorem readDeclaration?_calm {space : List Char} (blank : ∀ c ∈ space, isSpace c = true)
    {declaration : String × String} (calm : Calm declaration.1 ∧ Calm declaration.2) :
    readDeclaration? ((space ++ declaration.1.toList) ++ ':' :: ' ' :: declaration.2.toList) =
      some (bare declaration.1.toList, bare declaration.2.toList) := by
  have colon : ':' ∈ marks := by decide
  have free : ':' ∉ space ++ declaration.1.toList := by
    rw [List.mem_append, not_or]
    exact ⟨not_mem_space blank ':' colon, calm.1 ':' colon⟩
  have free' : ':' ∉ ' ' :: declaration.2.toList := by
    rw [List.mem_cons, not_or]
    exact ⟨by decide, calm.2 ':' colon⟩
  have gap : ∀ c ∈ [' '], isSpace c = true := List.forall_mem_singleton.mpr rfl
  have value : bare (' ' :: declaration.2.toList) = bare declaration.2.toList :=
    bare_append_left gap _
  rw [readDeclaration?, cut?_append free free', Option.map_some, bare_append_left blank, value]

/-- Declarations are read one after another, each with the line break of the one before it. -/
theorem readEnded?_declarations {declarations : List (String × String)}
    (calm : CalmAll declarations) {space : List Char} (blank : ∀ c ∈ space, isSpace c = true) :
    readEnded? readDeclaration?
        (Text.pieces ';' (space ++ (String.join (declarations.map declarationText)).toList)) =
      some (declarations.map fun declaration =>
        (bare declaration.1.toList, bare declaration.2.toList)) := by
  induction declarations generalizing space with
  | nil =>
      rw [List.map_nil, String.join_nil, String.toList_empty, List.append_nil]
      exact readEnded?_blank (by decide) blank
  | cons declaration declarations ih =>
      obtain ⟨first, later⟩ := List.forall_mem_cons.mp calm
      have indented : ∀ c ∈ space ++ "    ".toList, isSpace c = true :=
        List.forall_mem_append.mpr ⟨blank, forall_mem_of_all (by decide)⟩
      have split : space ++ (String.join ((declaration :: declarations).map
            declarationText)).toList =
          ((space ++ "    ".toList ++ declaration.1.toList) ++ ':' :: ' ' ::
            declaration.2.toList) ++ ';' :: (['\n'] ++
              (String.join (declarations.map declarationText)).toList) := by
        simp [String.join_cons, declarationText]
      have free : ';' ∉ (space ++ "    ".toList ++ declaration.1.toList) ++ ':' :: ' ' ::
          declaration.2.toList := by
        have semicolon : ';' ∈ marks := by decide
        have before := not_mem_space indented ';' semicolon
        simp only [List.mem_append, List.mem_cons, not_or]
        simp only [List.mem_append, not_or] at before
        exact ⟨⟨before, first.1 ';' semicolon⟩, by decide, by decide, first.2 ';' semicolon⟩
      rw [split, readEnded?_append free _ (readDeclaration?_calm indented first),
        ih later (List.forall_mem_singleton.mpr rfl)]
      rfl

/-- The only marks among declarations are those that separate their texts. -/
theorem not_mem_declarations {declarations : List (String × String)} (calm : CalmAll declarations)
    {mark : Char} (listed : mark ∈ marks) (other : mark ≠ ':' ∧ mark ≠ ';') :
    mark ∉ (String.join (declarations.map declarationText)).toList := by
  have free : ∀ mark ∈ marks, mark ∉ [' ', '\n'] := forall_mem_of_all (by decide)
  induction declarations with
  | nil => exact List.not_mem_nil
  | cons declaration declarations ih =>
      obtain ⟨first, later⟩ := List.forall_mem_cons.mp calm
      have fresh := free mark listed
      simp only [List.mem_cons, List.not_mem_nil, or_false, not_or] at fresh
      rw [List.map_cons, String.join_cons, String.toList_append, List.mem_append, not_or]
      refine ⟨?_, ih later⟩
      simp [declarationText, fresh, other, first.1 mark listed, first.2 mark listed]

/-- The text of a rule without its closing brace. -/
def Rule.opening (rule : Rule) : List Char :=
  rule.selector.text.toList ++ ' ' :: '{' ::
    (['\n'] ++ (String.join (rule.declarations.map declarationText)).toList)

/-- A calm rule is read back from its text without the closing brace. -/
theorem readRule?_opening {rule : Rule} (calm : rule.IsCalm) {space : List Char}
    (blank : ∀ c ∈ space, isSpace c = true) :
    readRule? (space ++ rule.opening) = some rule.flat := by
  have brace : '{' ∈ marks := by decide
  have split : space ++ rule.opening = (space ++ (rule.selector.text.toList ++ [' '])) ++ '{' ::
      (['\n'] ++ (String.join (rule.declarations.map declarationText)).toList) := by
    simp [Rule.opening]
  have free : '{' ∉ space ++ (rule.selector.text.toList ++ [' ']) := by
    simp only [List.mem_append, not_or]
    exact ⟨not_mem_space blank '{' brace, calm.selector '{' brace, by decide⟩
  have free' : '{' ∉ ['\n'] ++ (String.join (rule.declarations.map declarationText)).toList := by
    rw [List.mem_append, not_or]
    exact ⟨by decide, not_mem_declarations calm.declarations brace (by decide)⟩
  have gap : ∀ c ∈ [' '], isSpace c = true := List.forall_mem_singleton.mpr rfl
  have line : ∀ c ∈ ['\n'], isSpace c = true := List.forall_mem_singleton.mpr rfl
  have body := readEnded?_declarations calm.declarations line
  rw [split, readRule?, cut?_append free free', Option.bind_eq_bind, Option.bind_some, body,
    Option.bind_eq_bind, Option.bind_some, bare_append_left blank, bare_append_right gap]
  rfl

/-! ## Texts that are read as rules -/

/-- A text that is read as some rules, with any white space before it and any text behind it. -/
structure Reads (cs : List Char) (rules : List FlatRule) : Prop where
  shown : ∀ c ∈ cs, c ∉ openers
  onward : ∀ space rest, (∀ c ∈ space, isSpace c = true) →
    ∃ space', (∀ c ∈ space', isSpace c = true) ∧
      readEnded? readRule? (Text.pieces '}' (space ++ (cs ++ rest))) =
        (readEnded? readRule? (Text.pieces '}' (space' ++ rest))).map (rules ++ ·)

namespace Reads

theorem append {cs others : List Char} {rules more : List FlatRule} (first : Reads cs rules)
    (second : Reads others more) : Reads (cs ++ others) (rules ++ more) := by
  refine ⟨List.forall_mem_append.mpr ⟨first.shown, second.shown⟩, fun space rest blank => ?_⟩
  obtain ⟨space₁, blank₁, read₁⟩ := first.onward space (others ++ rest) blank
  obtain ⟨space₂, blank₂, read₂⟩ := second.onward space₁ rest blank₁
  refine ⟨space₂, blank₂, ?_⟩
  rw [List.append_assoc, read₁, read₂, Option.map_map]
  congr 1
  funext read
  rw [Function.comp_apply, List.append_assoc]

/-- A blank text is read as no rules. -/
theorem blank {cs : List Char} (blank : ∀ c ∈ cs, isSpace c = true) : Reads cs [] := by
  have shown : ∀ c ∈ openers, isSpace c = false := forall_mem_of_all (by decide)
  refine ⟨fun c member listed => ?_, fun space rest blank' => ?_⟩
  · have space := blank c member
    rw [shown c listed] at space
    cases space
  · refine ⟨space ++ cs, List.forall_mem_append.mpr ⟨blank', blank⟩, ?_⟩
    rw [List.append_assoc]
    cases readEnded? readRule? (Text.pieces '}' (space ++ (cs ++ rest))) <;> rfl

/-- Texts that are read one after another. -/
theorem join {α : Type} {text : α → String} {rules : α → List FlatRule} {as : List α}
    (each : ∀ a ∈ as, Reads (text a).toList (rules a)) :
    Reads (String.join (as.map text)).toList (as.flatMap rules) := by
  induction as with
  | nil => exact .blank (List.forall_mem_nil _)
  | cons a as ih =>
      obtain ⟨first, later⟩ := List.forall_mem_cons.mp each
      rw [List.map_cons, String.join_cons, String.toList_append]
      exact first.append (ih later)

/-- The whole of a text is read as its rules. -/
theorem readRules?_eq {text : String} {rules : List FlatRule} (reads : Reads text.toList rules) :
    readRules? text = some rules := by
  have shown : text.toList.any openers.contains = false := by
    rw [List.any_eq_false]
    intro c member listed
    exact reads.shown c member (List.contains_iff_mem.mp listed)
  obtain ⟨space, blank, read⟩ := reads.onward [] [] (List.forall_mem_nil _)
  rw [List.nil_append, List.append_nil, List.append_nil, readEnded?_blank (by decide) blank] at read
  rw [readRules?, shown, if_neg Bool.false_ne_true, read, Option.map_some, List.append_nil]

end Reads

theorem Rule.toList_text (rule : Rule) : rule.text.toList = rule.opening ++ '}' :: ['\n'] := by
  simp [Rule.text, Rule.opening]

/-- Before the closing brace of a calm rule there are no marks but its own. -/
theorem Rule.IsCalm.not_mem_opening {rule : Rule} (calm : rule.IsCalm) {mark : Char}
    (listed : mark ∈ marks) (other : mark ≠ ':' ∧ mark ≠ ';' ∧ mark ≠ '{') :
    mark ∉ rule.opening := by
  have free : ∀ mark ∈ marks, mark ∉ [' ', '\n'] := forall_mem_of_all (by decide)
  have fresh := free mark listed
  simp only [List.mem_cons, List.not_mem_nil, or_false, not_or] at fresh
  have inside := not_mem_declarations calm.declarations listed ⟨other.1, other.2.1⟩
  simp only [Rule.opening, List.mem_append, List.mem_cons, List.not_mem_nil, or_false, not_or]
  exact ⟨calm.selector mark listed, fresh.1, other.2.2, fresh.2, inside⟩

/-- The text of a calm rule is read as the rule. -/
theorem reads_rule {rule : Rule} (calm : rule.IsCalm) : Reads rule.text.toList [rule.flat] := by
  rw [rule.toList_text]
  have line : ∀ c ∈ ['\n'], isSpace c = true := List.forall_mem_singleton.mpr rfl
  refine ⟨fun c member listed => ?_, fun space rest blank => ⟨['\n'], line, ?_⟩⟩
  · have hidden : ∀ mark ∈ openers, mark ∈ marks ∧ mark ∉ [':', ';', '{', '}', '\n'] :=
      forall_mem_of_all (by decide)
    obtain ⟨mark, other⟩ := hidden c listed
    simp only [List.mem_cons, List.not_mem_nil, or_false, not_or] at other
    have free := calm.not_mem_opening mark ⟨other.1, other.2.1, other.2.2.1⟩
    simp [free, other] at member
  · have brace : '}' ∈ marks := by decide
    have free : '}' ∉ space ++ rule.opening := by
      rw [List.mem_append, not_or]
      exact ⟨not_mem_space blank '}' brace, calm.not_mem_opening brace (by decide)⟩
    have split : space ++ (rule.opening ++ '}' :: ['\n'] ++ rest) =
        (space ++ rule.opening) ++ '}' :: (['\n'] ++ rest) := by
      simp
    rw [split, readEnded?_append free _ (readRule?_opening calm blank)]
    rfl

/-- The text of calm rules is read as the rules. -/
theorem reads_rulesText {rules : List Rule} (calm : ∀ rule ∈ rules, rule.IsCalm) :
    Reads (rulesText rules).toList (rules.map Rule.flat) := by
  rw [List.map_eq_flatMap]
  exact .join fun rule member => reads_rule (calm rule member)

/-- Braces within braces are no rules. -/
example : readRules? "a \x7b b: c; \x7d" = some [⟨"a", [("b", "c")]⟩] ∧
    readRules? "a \x7b b \x7b c: d; \x7d \x7d" = none := by decide

end Css

end ScrollStory
