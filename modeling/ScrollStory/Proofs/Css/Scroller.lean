import ScrollStory.Proofs.Css.Coverage

/-!
# The rules of the element that scrolls

What a stylesheet has behind its fixed part is read as the rules of the element that scrolls and
behind these as the rules of the pages; without such an element the rules of the pages are all
(`ScrollStory.Article.readRules?_ownCss`).
-/

namespace ScrollStory

open CssLength (isSpace)

open Css (FlatRule Rule Selector bare readRules?)

namespace Css

/-! ## Line ends behind a text -/

/-- A text has the pieces that it has with more behind it, but for the last one. -/
theorem exists_last_piece {mark : Char} {back : List Char} (free : mark ∉ back) (cs : List Char) :
    ∃ front last, Text.pieces mark cs = front ++ [last] ∧
      Text.pieces mark (cs ++ back) = front ++ [last ++ back] := by
  induction cs with
  | nil => exact ⟨[], [], rfl, Text.pieces_of_not_mem free⟩
  | cons c cs ih =>
      obtain ⟨front, last, pieces, longer⟩ := ih
      rw [List.cons_append, Text.pieces, Text.pieces, pieces, longer]
      by_cases cut : c = mark
      · rw [if_pos cut, if_pos cut]
        exact ⟨[] :: front, last, rfl, rfl⟩
      · rw [if_neg cut, if_neg cut]
        cases front with
        | nil => exact ⟨[], c :: last, rfl, rfl⟩
        | cons piece front => exact ⟨(c :: piece) :: front, last, rfl, rfl⟩

/-- The first of some pieces is read before the others. -/
theorem readEnded?_cons {α : Type} (read : List Char → Option α) (piece : List Char)
    {pieces : List (List Char)} (some : pieces ≠ []) :
    readEnded? read (piece :: pieces) =
      (read piece).bind fun item => (readEnded? read pieces).map (item :: ·) := by
  obtain ⟨next, rest, rfl⟩ := List.exists_cons_of_ne_nil some
  rw [readEnded?]
  cases read piece with
  | none => rfl
  | some item => cases readEnded? read (next :: rest) <;> rfl

/-- White space at the end of the last piece does not matter. -/
theorem readEnded?_concat {α : Type} (read : List Char → Option α) (front : List (List Char))
    {last back : List Char} (blank : ∀ c ∈ back, isSpace c = true) :
    readEnded? read (front ++ [last ++ back]) = readEnded? read (front ++ [last]) := by
  induction front with
  | nil =>
      have same : (last ++ back).all isSpace = last.all isSpace := by
        rw [List.all_append, List.all_eq_true.mpr blank, Bool.and_true]
      rw [List.nil_append, List.nil_append, readEnded?, readEnded?, same]
  | cons piece front ih =>
      rw [List.cons_append, List.cons_append, readEnded?_cons read piece (by simp),
        readEnded?_cons read piece (by simp), ih]

/-- White space behind a text is not read. -/
theorem readRules?_append_blank (text : String) {back : List Char}
    (blank : ∀ c ∈ back, isSpace c = true) :
    readRules? (String.ofList (text.toList ++ back)) = readRules? text := by
  have free : '}' ∉ back := fun member => absurd (blank '}' member) (by decide)
  have shown : back.any openers.contains = false := by
    rw [List.any_eq_false]
    intro c member listed
    have opener : ∀ c ∈ openers, isSpace c = false := forall_mem_of_all (by decide)
    exact absurd (blank c member) (by rw [opener c (List.contains_iff_mem.mp listed)]; decide)
  obtain ⟨front, last, pieces, longer⟩ := exists_last_piece free text.toList
  rw [readRules?, readRules?, String.toList_ofList, List.any_append, shown, Bool.or_false, longer,
    pieces, readEnded?_concat readRule? front blank]

theorem Reads.readRules?_of_append {text : String} {back : List Char} {rules : List FlatRule}
    (blank : ∀ c ∈ back, isSpace c = true) (reads : Reads (text.toList ++ back) rules) :
    readRules? text = some rules := by
  rw [← readRules?_append_blank text blank]
  exact Reads.readRules?_eq (by rwa [String.toList_ofList])

/-! ## Texts that end with a rule -/

/-- A text that begins with no white space and ends with a brace and some line ends. -/
structure Closed (s : String) (back : List Char) : Prop where
  text : ∃ first middle, s.toList = first :: (middle ++ '}' :: back) ∧ Text.isBlank first = false
  lines : ∀ c ∈ back, c = '\n'

namespace Closed

variable {s t : String} {back back' : List Char}

theorem append (first : Closed s back) (second : Closed t back') (between : String) :
    Closed (s ++ between ++ t) back' := by
  obtain ⟨⟨c, middle, text, start⟩, -⟩ := first
  obtain ⟨⟨c', middle', text', -⟩, ends⟩ := second
  refine ⟨⟨c, middle ++ '}' :: back ++ between.toList ++ c' :: middle', ?_, start⟩, ends⟩
  rw [String.toList_append, String.toList_append, text, text']
  simp

/-- Trimming takes the line ends away and nothing else. -/
theorem toList_trim (closed : Closed s back) : s.toList = (Text.trim s).toList ++ back := by
  obtain ⟨⟨first, middle, text, start⟩, ends⟩ := closed
  have split : s.toList = first :: middle ++ ['}'] ++ back := by
    rw [text]
    simp
  have blank : ∀ c ∈ back, Text.isBlank c = true := fun c member => ends c member ▸ rfl
  have core : Text.strip Text.isBlank s.toList = first :: middle ++ ['}'] := by
    rw [split, Text.strip_append_right blank]
    apply Text.strip_eq_self
    · exact fun c head => Option.some.inj head ▸ start
    · rw [List.getLast?_concat]
      exact fun c brace => Option.some.inj brace ▸ rfl
  rw [Text.trim, String.toList_ofList]
  exact split.trans (congrArg (· ++ back) core.symm)

/-- Something is left of a closed text without the white space around it. -/
theorem isEmpty_trim (closed : Closed s back) : (Text.trim s).isEmpty = false := by
  rw [Bool.eq_false_iff, ne_eq, String.isEmpty_iff]
  intro none
  have text := closed.toList_trim
  obtain ⟨⟨first, middle, same, -⟩, -⟩ := closed
  have longer := congrArg List.length (same.symm.trans text)
  rw [none] at longer
  simp only [List.length_cons, List.length_append, String.toList_empty, List.length_nil] at longer
  omega

/-- A closed text stays closed with another line end. -/
theorem line (closed : Closed s back) : Closed (s ++ "\n") (back ++ ['\n']) := by
  obtain ⟨⟨first, middle, text, start⟩, lines⟩ := closed
  refine ⟨⟨first, middle, ?_, start⟩,
    List.forall_mem_append.mpr ⟨lines, List.forall_mem_singleton.mpr rfl⟩⟩
  rw [String.toList_append, text]
  simp

theorem append_or (closed : Closed s back) (later : t = "" ∨ ∃ back, Closed t back) :
    ∃ back, Closed (s ++ t) back := by
  rcases later with rfl | ⟨back', closed'⟩
  · rw [String.append_empty]
    exact ⟨back, closed⟩
  · have both := closed.append closed' ""
    rw [String.append_empty] at both
    exact ⟨back', both⟩

theorem join {texts : List String} (each : ∀ text ∈ texts, text = "" ∨ ∃ back, Closed text back) :
    String.join texts = "" ∨ ∃ back, Closed (String.join texts) back := by
  induction texts with
  | nil => exact .inl rfl
  | cons text texts ih =>
      obtain ⟨first, later⟩ := List.forall_mem_cons.mp each
      rw [String.join_cons]
      rcases first with rfl | ⟨back, closed⟩
      · rw [String.empty_append]
        exact ih later
      · exact .inr (closed.append_or (ih later))

end Closed

section

variable {s t : String} {rules more : List FlatRule}

theorem isSpace_of_lines {back : List Char} (lines : ∀ c ∈ back, c = '\n') :
    ∀ c ∈ back, isSpace c = true :=
  fun c member => lines c member ▸ rfl

/-- Rules are read from a closed text also without the white space around it. -/
theorem readRules?_trim (shape : s = "" ∨ ∃ back, Closed s back) (reads : Reads s.toList rules) :
    readRules? (Text.trim s) = some rules := by
  rcases shape with rfl | ⟨back, closed⟩
  · exact reads.readRules?_eq
  · rw [closed.toList_trim] at reads
    exact reads.readRules?_of_append (isSpace_of_lines closed.lines)

/-- Two texts with blank lines between them are read one after the other, if there is any text in
the second one. -/
theorem readRules?_shown (closed : Closed s ['\n']) (reads : Reads s.toList rules)
    (shape : t = "" ∨ ∃ back, Closed t back) (reads' : Reads t.toList more) :
    readRules? ("\n\n".intercalate ([Text.trim s, Text.trim t].filter (!·.isEmpty))) =
      some (rules ++ more) := by
  have line : ∀ c ∈ ['\n'], isSpace c = true := List.forall_mem_singleton.mpr rfl
  rcases shape with rfl | ⟨back, closed'⟩
  · have blank : (Text.trim "").isEmpty = true := by decide
    have shown : [Text.trim s, Text.trim ""].filter (!·.isEmpty) = [Text.trim s] := by
      simp [blank, closed.isEmpty_trim]
    have both := reads.append reads'
    rw [String.toList_empty, List.append_nil, closed.toList_trim] at both
    rw [shown, String.intercalate_singleton]
    exact both.readRules?_of_append line
  · have shown : [Text.trim s, Text.trim t].filter (!·.isEmpty) = [Text.trim s, Text.trim t] := by
      simp [closed.isEmpty_trim, closed'.isEmpty_trim]
    have both := (reads.append (.blank line)).append reads'
    rw [List.append_nil, closed.toList_trim, closed'.toList_trim] at both
    rw [shown, String.intercalate_cons_cons, String.intercalate_singleton]
    refine Reads.readRules?_of_append (isSpace_of_lines closed'.lines) ?_
    simpa using both

end

/-- The text of a rule whose selector does not begin with white space is closed. -/
theorem closed_rule {rule : Rule} {c : Char} (first : rule.selector.text.toList.head? = some c)
    (start : Text.isBlank c = false) : Closed rule.text ['\n'] := by
  obtain ⟨cs, same⟩ := List.head?_eq_some_iff.mp first
  refine ⟨⟨c, cs ++ ' ' :: '{' ::
    (['\n'] ++ (String.join (rule.declarations.map declarationText)).toList), ?_, start⟩,
    List.forall_mem_singleton.mpr rfl⟩
  rw [rule.toList_text, Rule.opening, same]
  simp

/-! ## The rules of the element that scrolls -/

/-- The rule that keeps the document where it is. -/
def documentRule : Rule :=
  ⟨.general "html,\nbody", [("height", "100%"), ("overflow", "hidden")]⟩

/-- The rule that has an element scroll. -/
def elementRule (name : String) : Rule :=
  ⟨.scroller name, [("height", "100vh"), ("overflow-y", "auto"), ("overflow-x", "hidden")]⟩

/-- The text for the element that scrolls consists of two rules. -/
theorem scrollerText_eq (name : String) :
    scrollerText name = documentRule.text ++ "\n" ++ (elementRule name).text := by
  change "\n".intercalate [documentRule.text, (elementRule name).text] = _
  rw [String.intercalate_cons_cons, String.intercalate_singleton]

/-- The rules of the element that scrolls as they are read. -/
def flatScrollerRules (name : String) : List FlatRule :=
  [ ⟨"html,\nbody", [("height", "100%"), ("overflow", "hidden")]⟩,
    ⟨"." ++ name, [("height", "100vh"), ("overflow-y", "auto"), ("overflow-x", "hidden")]⟩ ]

/-- The rule for the element that scrolls is read with its three declarations. -/
theorem flat_elementRule {name : String} (plain : PlainName name) :
    (elementRule name).flat =
      ⟨"." ++ name, [("height", "100vh"), ("overflow-y", "auto"), ("overflow-x", "hidden")]⟩ := by
  have first : ∀ c ∈ ("." ++ name).toList.head?, isSpace c = false := by
    simp [isSpace]
  have last : ∀ c ∈ ("." ++ name).toList.getLast?, isSpace c = false := by
    rw [Selector.getLast?_append plain.nonempty]
    exact fun c last => isSpace_of_plain (plain.characters c (List.mem_of_getLast? last))
  have selector : bare ("." ++ name).toList = "." ++ name := by
    rw [bare, Text.strip_eq_self first last, String.ofList_toList]
  have declarations : [("height", "100vh"), ("overflow-y", "auto"), ("overflow-x", "hidden")].map
      (fun declaration => (bare declaration.1.toList, bare declaration.2.toList)) =
        [("height", "100vh"), ("overflow-y", "auto"), ("overflow-x", "hidden")] := by decide
  rw [Rule.flat, elementRule, declarations]
  exact congrArg (FlatRule.mk · _) selector

/-- The text for the element that scrolls is read as its rules. -/
theorem reads_scrollerText {name : String} (plain : PlainName name) :
    Reads (scrollerText name).toList (flatScrollerRules name) := by
  have line : ∀ c ∈ "\n".toList, isSpace c = true := List.forall_mem_singleton.mpr rfl
  have document : documentRule.IsCalm := ⟨by decide, by decide⟩
  have element : (elementRule name).IsCalm := by
    refine ⟨Calm.append (by decide) (calm_of_plainText plain.plainText), ?_⟩
    change CalmAll [("height", "100vh"), ("overflow-y", "auto"), ("overflow-x", "hidden")]
    decide
  have flat : documentRule.flat =
      ⟨"html,\nbody", [("height", "100%"), ("overflow", "hidden")]⟩ := by decide
  have rules := ((reads_rule document).append (.blank line)).append (reads_rule element)
  rw [flat, flat_elementRule plain] at rules
  rw [scrollerText_eq, String.toList_append, String.toList_append]
  exact rules

/-- The text for the element that scrolls is closed. -/
theorem closed_scrollerText (name : String) : Closed (scrollerText name) ['\n'] := by
  have document : Closed documentRule.text ['\n'] := closed_rule (c := 'h') rfl rfl
  have point : (elementRule name).selector.text.toList.head? = some '.' := by
    simp [elementRule, Selector.text]
  rw [scrollerText_eq]
  exact document.append (closed_rule point rfl) "\n"

end Css

/-! ## The rules of the pages -/

open Css (Closed Reads flatScrollerRules)

namespace Page

variable {page : Page}

/-- The text of a rule of a page is closed. -/
theorem closed_rule {rule : Rule} (member : rule ∈ page.placedRules) : Closed rule.text ['\n'] := by
  have first : rule.selector.text.toList.head? = some '#' ∨
      rule.selector.text.toList.head? = some '.' := by
    rcases Selector.of_pageId? (pageId?_placedRules member) with same | ⟨slot, slotted⟩
    · rw [same]
      exact .inl (by simp [Selector.text])
    · rcases slotted with same | same | same
      all_goals
        rw [same]
        simp [Selector.text]
  rcases first with hash | point
  · exact Css.closed_rule hash rfl
  · exact Css.closed_rule point rfl

/-- The text for a page is closed, unless it is empty. -/
theorem closed_placedCss (page : Page) :
    page.placedCss = "" ∨ ∃ back, Closed page.placedCss back := by
  have each : ∀ rule ∈ page.placedRules, Closed rule.text ['\n'] :=
    fun _ member => closed_rule member
  unfold placedCss
  cases listed : page.placedRules with
  | nil => exact .inl rfl
  | cons rule rules =>
      rw [listed] at each
      obtain ⟨first, later⟩ := List.forall_mem_cons.mp each
      have others : ∀ text ∈ rules.map Rule.text, text = "" ∨ ∃ back, Closed text back := by
        intro text member
        obtain ⟨other, listed, rfl⟩ := List.mem_map.mp member
        exact .inr ⟨_, later other listed⟩
      obtain ⟨back, closed⟩ := first.append_or (Closed.join others)
      refine .inr ⟨back ++ ['\n'], ?_⟩
      rw [Css.rulesText, List.map_cons, String.join_cons]
      exact closed.line

end Page

/-! ## The parts of a stylesheet -/

/-- The parts behind the first one may be put together before. -/
theorem intercalate_shown (separator first : String) (others : List String) :
    separator.intercalate ((first :: others).filter (!·.isEmpty)) =
      separator.intercalate
        ([first, separator.intercalate (others.filter (!·.isEmpty))].filter (!·.isEmpty)) := by
  cases shown : others.filter (!·.isEmpty) with
  | nil =>
      rw [String.intercalate_nil, List.filter_cons, List.filter_cons, shown]
      rfl
  | cons next rest =>
      have some : next.isEmpty = false := by
        have member : next ∈ others.filter (!·.isEmpty) := shown ▸ List.mem_cons_self
        simpa using (List.mem_filter.mp member).2
      have behind : (separator.intercalate (next :: rest)).isEmpty = false := by
        cases rest with
        | nil => rwa [String.intercalate_singleton]
        | cons last rest =>
            rw [String.intercalate_cons_cons]
            simpa [Bool.eq_false_iff] using fun none _ => absurd none (by simpa using some)
      cases empty : first.isEmpty with
      | true => simp [empty, shown, behind]
      | false => simp [empty, shown, behind, String.intercalate_cons_cons]

namespace Article

variable {settings : ParseSettings} {article : Article}

/-- The part of a stylesheet behind its fixed part. -/
def ownCss (article : Article) (render : RenderSettings) : String :=
  "\n\n".intercalate ([Text.trim ((render.scrollerClass.map Css.scrollerText).getD ""),
    Text.trim (String.join (article.pages.map Page.placedCss))].filter (!·.isEmpty))

/-- A stylesheet is its fixed part and its own, without those that are blank. -/
theorem stylesheet_of_placed (placed : ∀ page ∈ article.pages, page.Placed)
    (render : RenderSettings) :
    article.stylesheet render = .ok ("\n\n".intercalate
      ([Text.trim render.baseStylesheet, article.ownCss render].filter (!·.isEmpty))) := by
  rw [stylesheet, pagesCss_of_placed placed, ownCss, ← intercalate_shown]
  rfl

/-- The part behind the fixed part is read as the rules of the element that scrolls, if there is
one, and then those of the pages. -/
theorem readRules?_ownCss (well : article.WellFormed settings) {render : RenderSettings}
    (scroller : ∀ name, render.scrollerClass = some name → isIdentifier name = true) :
    readRules? (article.ownCss render) =
      some ((render.scrollerClass.map flatScrollerRules).getD [] ++
        article.pages.flatMap Page.flatRules) := by
  have pages := reads_pages well
  have shape : ∀ text ∈ article.pages.map Page.placedCss, text = "" ∨ ∃ back, Closed text back := by
    intro text member
    obtain ⟨page, _, rfl⟩ := List.mem_map.mp member
    exact page.closed_placedCss
  unfold ownCss
  cases given : render.scrollerClass with
  | none =>
      have blank : (Text.trim "").isEmpty = true := by decide
      have shown (text : String) :
          "\n\n".intercalate ([Text.trim "", text].filter (!·.isEmpty)) = text := by
        cases empty : text.isEmpty with
        | true => simp [blank, String.isEmpty_iff.mp empty]
        | false => simp [blank, empty]
      exact (congrArg readRules? (shown _)).trans (Css.readRules?_trim (Closed.join shape) pages)
  | some name =>
      have plain := (isIdentifier_iff name).mp (scroller name given)
      exact Css.readRules?_shown (Css.closed_scrollerText name) (Css.reads_scrollerText plain)
        (Closed.join shape) pages

end Article

end ScrollStory
