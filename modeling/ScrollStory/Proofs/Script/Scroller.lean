import ScrollStory.Proofs.Article.Paths
import ScrollStory.Proofs.Script.Occurrences

/-!
# The line for the element that scrolls

A block names the element that scrolls on a line of its own, which is told from all other lines by
the name of its setting. Names and numbers do not end a line, so that no such line stands in a block
but the one of that setting (`ScrollStory.PagePlan.scrollerLines_block`).
-/

namespace ScrollStory

/-! ## Lines of a text -/

/-- A text of whole lines is cut into these again, with nothing behind the last one. -/
theorem Text.split_join {lines : List String} (whole : ∀ line ∈ lines, '\n' ∉ line.toList) :
    split '\n' (String.join (lines.map (· ++ "\n"))) = lines ++ [""] := by
  induction lines with
  | nil => rfl
  | cons line lines ih =>
      obtain ⟨first, later⟩ := List.forall_mem_cons.mp whole
      have text : (String.join ((line :: lines).map (· ++ "\n"))).toList =
          line.toList ++ '\n' :: (String.join (lines.map (· ++ "\n"))).toList := by
        rw [List.map_cons, String.join_cons, String.toList_append, String.toList_append]
        simp
      rw [split, text, pieces_append first, List.map_cons, String.ofList_toList]
      exact congrArg (line :: ·) (ih later)

namespace Script

/-- A line that names the element that scrolls. -/
def isScrollerLine (line : String) : Bool :=
  "scroller:".toList.isPrefixOf (line.toList.dropWhile (· = ' '))

/-- The lines of a text that name the element that scrolls. -/
def scrollerLines (text : String) : List String :=
  (Text.split '\n' text).filter isScrollerLine

/-- What means something to the scanner and is not among the loud characters of a line is not in
the line. -/
theorem not_mem_of_loud {c : Char} (special : isQuiet c = false) {line : String}
    (free : c ∉ loud line) : c ∉ line.toList :=
  fun member => free (List.mem_filter.mpr ⟨member, by rw [special]; rfl⟩)

/-- No name and no number ends a line of a block. -/
theorem Block.not_mem_lines {block : Block} (quiet : block.IsQuiet) :
    ∀ line ∈ block.lines, '\n' ∉ line.toList := by
  have shapes : ∀ shape ∈ lineShapes, '\n' ∉ shape := by decide
  have inside {settings : List (String × Setting)} (quiet : QuietSettings settings)
      {indent : String} (spaces : Quiet indent) :
      ∀ line ∈ settingLines indent settings, '\n' ∉ line.toList :=
    fun line member => not_mem_of_loud rfl (shapes _ (loud_settings quiet spaces line member))
  cases block with
  | trigger start settings =>
      have tween : '\n' ∉ start.text.toList := by
        apply not_mem_of_loud rfl
        rw [Tween.loud_text quiet.1]
        decide
      have settings := inside quiet.2 (show Quiet "    " by decide)
      refine List.forall_mem_cons.mpr ⟨tween, List.forall_mem_cons.mpr ⟨by decide, ?_⟩⟩
      refine List.forall_mem_cons.mpr ⟨by decide, List.forall_mem_append.mpr ⟨settings, ?_⟩⟩
      decide
  | pin settings =>
      have settings := inside quiet (show Quiet "  " by decide)
      refine List.forall_mem_cons.mpr ⟨by decide, List.forall_mem_append.mpr ⟨settings, ?_⟩⟩
      decide

/-- The text of a block is cut at its line ends into the lines of the block. -/
theorem Block.split_text {block : Block} (quiet : block.IsQuiet) :
    Text.split '\n' block.text = block.lines ++ [""] :=
  Text.split_join (not_mem_lines quiet)

/-! ## Lines of settings -/

/-- Some spaces. -/
def Spaces (s : String) : Prop := ∀ c ∈ s.toList, c = ' '

theorem Spaces.append {s t : String} (first : Spaces s) (second : Spaces t) : Spaces (s ++ t) := by
  rw [Spaces, String.toList_append]
  exact List.forall_mem_append.mpr ⟨first, second⟩

instance (s : String) : Decidable (Spaces s) := List.decidableBAll _ _

/-- A name of letters. -/
def Letters (s : String) : Prop := s.toList.all Char.isAlpha = true

instance (s : String) : Decidable (Letters s) := inferInstanceAs (Decidable (_ = true))

/-- Spaces before a text are dropped with those at its beginning. -/
theorem Spaces.dropWhile {indent : String} (spaces : Spaces indent) (s : String) :
    (indent ++ s).toList.dropWhile (· = ' ') = s.toList.dropWhile (· = ' ') := by
  rw [String.toList_append, List.dropWhile_append_of_pos]
  exact fun c member => decide_eq_true (spaces c member)

theorem isScrollerLine_append {indent : String} (spaces : Spaces indent) (line : String) :
    isScrollerLine (indent ++ line) = isScrollerLine line := by
  rw [isScrollerLine, spaces.dropWhile]
  rfl

/-- A text that begins with a colon. -/
def Colon (s : String) : Prop := ∃ cs, s.toList = ':' :: cs

theorem Colon.append {s : String} (colon : Colon s) (t : String) : Colon (s ++ t) := by
  obtain ⟨cs, same⟩ := colon
  exact ⟨cs ++ t.toList, by rw [String.toList_append, same]; rfl⟩

/-- No spaces are dropped before a name with a colon behind it. -/
theorem Letters.dropWhile {name rest : String} (letters : Letters name) (colon : Colon rest) :
    (name ++ rest).toList.dropWhile (· = ' ') = (name ++ rest).toList := by
  obtain ⟨behind, same⟩ := colon
  rw [String.toList_append, same]
  cases first : name.toList with
  | nil => rfl
  | cons c cs =>
      have other : c ≠ ' ' := by
        rintro rfl
        exact absurd (List.all_eq_true.mp letters ' ' (first ▸ List.mem_cons_self)) (by decide)
      exact List.dropWhile_cons_of_neg (by simpa using other)

/-- A name with a colon behind it is that of the setting just if it is the same name. -/
theorem isScrollerLine_name {name rest : String} (letters : Letters name) (colon : Colon rest) :
    isScrollerLine (name ++ rest) = decide (name = "scroller") := by
  have letter : ∀ c ∈ name.toList, c.isAlpha = true := List.all_eq_true.mp letters
  have uncut : ':' ∉ name.toList := fun member => absurd (letter ':' member) (by decide)
  obtain ⟨behind, same⟩ := colon
  rw [Bool.eq_iff_iff, decide_eq_true_eq, isScrollerLine, letters.dropWhile ⟨behind, same⟩,
    String.toList_append, same, List.isPrefixOf_iff_prefix]
  constructor
  · rintro ⟨after, whole⟩
    have known : ':' ∉ "scroller".toList := by decide
    exact (String.toList_inj.mp (Text.append_cons_inj known uncut whole).1).symm
  · rintro rfl
    exact ⟨behind, rfl⟩

/-- A line that begins with anything but an `s` does not name the element that scrolls. -/
theorem isScrollerLine_of_head? {line : String} {c : Char} (first : line.toList.head? = some c)
    (space : c ≠ ' ') (other : c ≠ 's') : isScrollerLine line = false := by
  obtain ⟨cs, same⟩ := List.head?_eq_some_iff.mp first
  rw [isScrollerLine, same, List.dropWhile_cons_of_neg (by simpa using space)]
  exact Bool.and_eq_false_imp.mpr fun start => absurd (eq_of_beq start).symm other

/-- Statements begin with the name of what they call. -/
theorem Statement.isScrollerLine_text (statement : Statement) :
    isScrollerLine statement.text = false := by
  cases statement with
  | log message =>
      refine isScrollerLine_of_head? (c := 'c') ?_ (by decide) (by decide)
      simp [text]
  | tween t =>
      refine isScrollerLine_of_head? (c := 'g') ?_ (by decide) (by decide)
      simp [text, Tween.text]

/-- The line of a setting for the element that scrolls is told by its name. -/
theorem Setting.isScrollerLine_lines {indent name : String} (spaces : Spaces indent)
    (letters : Letters name) (other : name ≠ "scroller") (setting : Setting) :
    ∀ line ∈ setting.lines indent name, isScrollerLine line = false := by
  have key {rest : String} (colon : Colon rest) :
      isScrollerLine (indent ++ (name ++ rest)) = false := by
    rw [isScrollerLine_append spaces, isScrollerLine_name letters colon]
    exact decide_eq_false other
  cases setting with
  | quoted s | thunk s | flag b =>
      refine List.forall_mem_singleton.mpr ?_
      rw [String.append_assoc, String.append_assoc, String.append_assoc]
      exact key (Colon.append ⟨_, rfl⟩ _)
  | callback body =>
      cases body with
      | nil =>
          refine List.forall_mem_singleton.mpr ?_
          rw [String.append_assoc]
          exact key ⟨_, rfl⟩
      | cons first others =>
          refine List.forall_mem_cons.mpr ⟨?_, List.forall_mem_append.mpr ⟨?_, ?_⟩⟩
          · rw [String.append_assoc]
            exact key ⟨_, rfl⟩
          · intro line member
            obtain ⟨statement, _, rfl⟩ := List.mem_map.mp member
            have deeper : Spaces (indent ++ "  ") := spaces.append (by decide)
            exact (isScrollerLine_append deeper _).trans statement.isScrollerLine_text
          · refine List.forall_mem_singleton.mpr ?_
            rw [isScrollerLine_append spaces]
            rfl

/-- Of the lines of some settings, only that for the element that scrolls names it. -/
theorem filter_settingLines {indent : String} (spaces : Spaces indent)
    {front back : List (String × Setting)}
    (others : ∀ name ∈ (front ++ back).map Prod.fst, Letters name ∧ name ≠ "scroller")
    (scroller : Option String) :
    (settingLines indent (front ++ scrollerSetting scroller ++ back)).filter isScrollerLine =
      (scroller.map fun selector => indent ++ "scroller: \"" ++ selector ++ "\",").toList := by
  have none {settings : List (String × Setting)} (within : settings ⊆ front ++ back) :
      (settingLines indent settings).filter isScrollerLine = [] := by
    refine List.filter_eq_nil_iff.mpr fun line member => ?_
    obtain ⟨setting, listed, inside⟩ := List.mem_flatMap.mp member
    obtain ⟨letters, other⟩ := others _ (List.mem_map_of_mem (within listed))
    rw [setting.2.isScrollerLine_lines spaces letters other line inside]
    exact Bool.false_ne_true
  have split : settingLines indent (front ++ scrollerSetting scroller ++ back) =
      settingLines indent front ++ settingLines indent (scrollerSetting scroller) ++
        settingLines indent back := by
    simp only [settingLines, List.flatMap_append]
  rw [split, List.filter_append, List.filter_append, none (List.subset_append_left _ _),
    none (List.subset_append_right _ _), List.nil_append, List.append_nil]
  cases scroller with
  | none => rfl
  | some selector =>
      have key : indent ++ "scroller" ++ ": \"" = indent ++ "scroller: \"" := by
        rw [String.append_assoc]
        rfl
      have named : isScrollerLine (indent ++ "scroller" ++ ": \"" ++ selector ++ "\",") = true := by
        rw [String.append_assoc, String.append_assoc, String.append_assoc,
          isScrollerLine_append spaces,
          isScrollerLine_name (by decide) (Colon.append ⟨_, rfl⟩ _)]
        rfl
      rw [Option.map_some, Option.toList_some, ← key]
      exact List.filter_cons_of_pos named

/-! ## Lines of blocks -/

/-- The line of a block for the element that scrolls. -/
def Block.scrollerLine (selector : String) : Block → String
  | trigger _ _ => "    scroller: \"" ++ selector ++ "\","
  | pin _ => "  scroller: \"" ++ selector ++ "\","

section

variable {front back : List (String × Setting)}
  (others : ∀ name ∈ (front ++ back).map Prod.fst, Letters name ∧ name ≠ "scroller")

include others

/-- Of the lines of a timeline just that of the scroller names the element that scrolls. -/
theorem Block.filter_trigger (start : Tween) (scroller : Option String) :
    (trigger start (front ++ scrollerSetting scroller ++ back)).lines.filter isScrollerLine =
      (scroller.map (fun selector => "    scroller: \"" ++ selector ++ "\",")).toList := by
  have first : isScrollerLine start.text = false := Statement.isScrollerLine_text (.tween start)
  have opening : isScrollerLine "gsap.timeline(\x7b" = false := by decide
  have inner : isScrollerLine "  scrollTrigger: \x7b" = false := by decide
  have closing : ["  \x7d", "\x7d);"].filter isScrollerLine = [] := by decide
  have settings := filter_settingLines (show Spaces "    " by decide) others scroller
  rw [lines]
  simp only [List.cons_append, List.filter_cons, first, opening, inner, Bool.false_eq_true,
    ↓reduceIte, List.filter_append, settings, closing, List.append_nil]
  rfl

/-- Of the lines of a pin just that of the scroller names the element that scrolls. -/
theorem Block.filter_pin (scroller : Option String) :
    (pin (front ++ scrollerSetting scroller ++ back)).lines.filter isScrollerLine =
      (scroller.map (fun selector => "  scroller: \"" ++ selector ++ "\",")).toList := by
  have opening : isScrollerLine "ScrollTrigger.create(\x7b" = false := by decide
  have closing : ["\x7d);"].filter isScrollerLine = [] := by decide
  have settings := filter_settingLines (show Spaces "  " by decide) others scroller
  rw [lines]
  simp only [List.cons_append, List.filter_cons, opening, Bool.false_eq_true,
    ↓reduceIte, List.filter_append, settings, closing, List.append_nil]
  rfl

end

theorem Block.scrollerLines_text {block : Block} (quiet : block.IsQuiet) :
    scrollerLines block.text = block.lines.filter isScrollerLine := by
  rw [scrollerLines, split_text quiet, List.filter_append]
  exact List.append_nil _

/-- The text of some blocks is cut into their lines, with a blank one behind each block and another
one at the end. -/
theorem split_blocksText {blocks : List Block} (quiet : ∀ block ∈ blocks, block.IsQuiet) :
    Text.split '\n' (blocksText blocks) =
      (blocks.flatMap fun block => block.lines ++ [""]) ++ [""] := by
  have text : blocksText blocks =
      String.join ((blocks.flatMap fun block => block.lines ++ [""]).map (· ++ "\n")) := by
    clear quiet
    induction blocks with
    | nil => rfl
    | cons block blocks ih =>
        rw [blocksText, List.map_cons, String.join_cons, ← blocksText, ih, List.flatMap_cons,
          List.map_append, String.join_append, List.map_append, String.join_append]
        rfl
  have whole : ∀ line ∈ blocks.flatMap fun block => block.lines ++ [""], '\n' ∉ line.toList := by
    intro line member
    obtain ⟨block, listed, inside⟩ := List.mem_flatMap.mp member
    rcases List.mem_append.mp inside with own | blank
    · exact Block.not_mem_lines (quiet block listed) line own
    · rw [List.mem_singleton.mp blank]
      decide
  rw [text, Text.split_join whole]

/-- The lines for the element that scrolls in a sequence of blocks are those in the blocks. -/
theorem scrollerLines_blocksText {blocks : List Block} (quiet : ∀ block ∈ blocks, block.IsQuiet) :
    scrollerLines (blocksText blocks) = blocks.flatMap fun block => scrollerLines block.text := by
  have blank : [""].filter isScrollerLine = [] := by decide
  rw [scrollerLines, split_blocksText quiet, List.filter_append, List.filter_flatMap, blank,
    List.append_nil]
  refine List.flatMap_congr fun block member => ?_
  rw [Block.scrollerLines_text (quiet block member), List.filter_append, blank, List.append_nil]

end Script

open Script (Block scrollerLines)

/-- The block of a binding names the element that scrolls once if there is one. -/
theorem Binding.scrollerLines_block {binding : Binding} {stepPercent : Nat}
    {scroller : Option String} {trace : Bool}
    (quiet : (binding.block stepPercent scroller trace).IsQuiet) :
    scrollerLines (binding.block stepPercent scroller trace).text =
      (scroller.map (binding.block stepPercent scroller trace).scrollerLine).toList := by
  rw [Block.scrollerLines_text quiet]
  refine Block.filter_trigger ?_ _ scroller
  change ∀ name ∈ ["trigger", "start", "end", "scrub", "onEnter", "onLeave", "onEnterBack",
    "onLeaveBack", "toggleActions", "invalidateOnRefresh"], _
  decide

/-- The block of a pin names the element that scrolls once if there is one. -/
theorem Pin.scrollerLines_block {pin : Pin} {scroller : Option String}
    (quiet : (pin.block scroller).IsQuiet) :
    scrollerLines (pin.block scroller).text =
      (scroller.map (pin.block scroller).scrollerLine).toList := by
  rw [Block.scrollerLines_text quiet, Pin.block, ← List.append_nil (_ ++ scrollerSetting scroller)]
  refine Block.filter_pin ?_ scroller
  change ∀ name ∈ ["trigger", "start", "end", "pin", "pinSpacing", "scrub"], _
  decide

/-- Every block of a page names the element that scrolls on one line, or on none if there is no such
element. -/
theorem PagePlan.scrollerLines_block {plan : PagePlan} {scroller : Option String} {trace : Bool}
    (quiet : ∀ block ∈ plan.blocks scroller trace, block.IsQuiet) :
    ∀ block ∈ plan.blocks scroller trace,
      scrollerLines block.text = (scroller.map block.scrollerLine).toList := by
  intro block member
  have own := quiet block member
  rcases List.mem_append.mp member with listed | pinned
  · obtain ⟨binding, _, rfl⟩ := List.mem_map.mp listed
    exact Binding.scrollerLines_block own
  · obtain ⟨pin, _, rfl⟩ := Option.map_eq_some_iff.mp (Option.mem_toList.mp pinned)
    exact Pin.scrollerLines_block own

end ScrollStory
