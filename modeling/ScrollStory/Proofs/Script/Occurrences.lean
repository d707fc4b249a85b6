import Mathlib.Data.List.Infix
import ScrollStory.Proofs.Script.WellFormed

/-!
# Where blocks begin

The number of blocks can be read off the text of a program. A block begins with a call that takes an
object of settings, and the text that opens such a call stands nowhere else: names and numbers have
no brackets in them, and in the other lines of a block no round bracket comes right before a brace
(`ScrollStory.Script.occurrences_blocksText`).
-/

namespace ScrollStory

/-! ## Places at which a text stands -/

section

variable {needle before after : List Char} {c : Char}

/-- A text without some character stands before this character as it does without what follows. -/
theorem prefix_append_cons_iff (absent : c ∉ needle) :
    needle <+: before ++ c :: after ↔ needle <+: before := by
  constructor
  · intro stands
    rcases List.prefix_or_prefix_of_prefix stands (List.prefix_append before (c :: after)) with
      fits | longer
    · exact fits
    · obtain ⟨rest, rfl⟩ := longer
      rw [List.prefix_append_right_inj] at stands
      cases rest with
      | nil => exact (List.append_nil before).symm ▸ List.prefix_rfl
      | cons other rest =>
          obtain ⟨rfl, -⟩ := List.cons_prefix_cons.mp stands
          exact (absent (by simp)).elim
  · exact fun stands => stands.trans (List.prefix_append _ _)

/-- A text that lacks a character occurs only before it and behind it. -/
theorem countP_tails_append_cons (absent : c ∉ needle) (some : needle ≠ []) :
    (before ++ c :: after).tails.countP (needle <+: ·) =
      before.tails.countP (needle <+: ·) + after.tails.countP (needle <+: ·) := by
  induction before with
  | nil =>
      have first : ¬needle <+: c :: after := by
        rw [← List.nil_append (c :: after), prefix_append_cons_iff absent, List.prefix_nil]
        exact some
      simp [first, some]
  | cons other before ih =>
      have here : needle <+: other :: (before ++ c :: after) ↔ needle <+: other :: before := by
        rw [← List.cons_append]
        exact prefix_append_cons_iff absent
      rw [List.cons_append, List.tails_cons, List.tails_cons, List.countP_cons, List.countP_cons,
        ih]
      simp only [here]
      omega

end

/-- The number of places at which a text stands in another one. -/
def occurrences (needle text : String) : Nat :=
  text.toList.tails.countP (needle.toList <+: ·)

/-- A text that is no part of another one does not occur there. -/
theorem occurrences_eq_zero {needle text : String} (nowhere : ¬needle.toList <:+: text.toList) :
    occurrences needle text = 0 := by
  refine List.countP_eq_zero.mpr fun rest tail stands => nowhere ?_
  rw [List.mem_tails] at tail
  exact (of_decide_eq_true stands).isInfix.trans tail.isInfix

section

variable {needle : String} (some : needle ≠ "") (line : '\n' ∉ needle.toList)

include some line

/-- A text without the end of a line in it does not stand across one. -/
theorem occurrences_append_line (text later : String) :
    occurrences needle (text ++ "\n" ++ later) =
      occurrences needle text + occurrences needle later := by
  have some : needle.toList ≠ [] := by rwa [ne_eq, String.toList_eq_nil_iff]
  rw [occurrences, String.toList_append, String.toList_append, List.append_assoc]
  exact countP_tails_append_cons line some

/-- Of some texts on lines of their own, those are counted in which the text stands. -/
theorem occurrences_join {α : Type} {text : α → String} {p : α → Bool} {as : List α}
    (each : ∀ a ∈ as, occurrences needle (text a) = if p a then 1 else 0) :
    occurrences needle (String.join (as.map fun a => text a ++ "\n")) = as.countP p := by
  induction as with
  | nil => simp [occurrences, some]
  | cons a as ih =>
      obtain ⟨first, later⟩ := List.forall_mem_cons.mp each
      rw [List.map_cons, String.join_cons, occurrences_append_line some line, first, ih later,
        List.countP_cons, Nat.add_comm]

end

/-! ## Brackets in the lines of a block -/

namespace Script

/-- The characters of a text that mean something to the scanner. -/
def loud (s : String) : List Char := s.toList.filter (!isQuiet ·)

theorem loud_append (s t : String) : loud (s ++ t) = loud s ++ loud t := by
  rw [loud, String.toList_append, List.filter_append]
  rfl

theorem Quiet.loud_eq_nil {s : String} (quiet : Quiet s) : loud s = [] := by
  refine List.filter_eq_nil_iff.mpr fun c member => ?_
  rw [List.all_eq_true.mp quiet c member]
  exact Bool.false_ne_true

/-- A text that opens a call with an object of settings, on one line and with nothing else that
means something to the scanner. -/
def IsOpening (needle : String) : Prop := loud needle = ['(', '\x7b']

instance (needle : String) : Decidable (IsOpening needle) := inferInstanceAs (Decidable (_ = _))

/-- A text in which no such call is opened: what is loud in it never is a round bracket with a brace
right behind it. -/
def OpensNothing (line : String) : Prop := ¬['(', '\x7b'] <:+: loud line

instance (line : String) : Decidable (OpensNothing line) := inferInstanceAs (Decidable (¬_))

variable {needle : String}

theorem IsOpening.ne_empty (opening : IsOpening needle) : needle ≠ "" := by
  rintro rfl
  cases opening

/-- An opening stands on one line. -/
theorem IsOpening.line (opening : IsOpening needle) : '\n' ∉ needle.toList := by
  intro member
  have listed : '\n' ∈ loud needle := List.mem_filter.mpr ⟨member, by decide⟩
  rw [opening] at listed
  revert listed
  decide

/-- No opening occurs where no call is opened. -/
theorem OpensNothing.occurrences {line : String} (nothing : OpensNothing line)
    (opening : IsOpening needle) : occurrences needle line = 0 := by
  refine occurrences_eq_zero fun stands => nothing ?_
  rw [← opening]
  exact stands.filter _

/-- What is loud in the text of a tween. -/
theorem Tween.loud_text {tween : Tween} (quiet : tween.IsQuiet) :
    loud tween.text = ['(', '"', '"', '\x7b', '\x7d', ')'] := by
  simp only [Tween.text, loud_append, tween.verb.quiet_name.loud_eq_nil, quiet.target.loud_eq_nil,
    (Tween.quiet_properties quiet).loud_eq_nil]
  decide

/-- What is loud in the lines of statements and settings. -/
def lineShapes : List (List Char) :=
  [ [], ['"', '"'], ['(', ')', '"', '"'], ['(', ')', '\x7b', '\x7d'], ['(', ')', '\x7b'], ['\x7d'],
    ['(', '"', '"', ')'], ['(', '"', '"', '\x7b', '\x7d', ')'] ]

/-- What is loud in the line of a statement has one of the known shapes. -/
theorem Statement.loud_line {statement : Statement} (quiet : statement.IsQuiet) {indent : String}
    (spaces : Quiet indent) : loud (indent ++ statement.text) ∈ lineShapes := by
  cases statement with
  | log message =>
      have own : loud message = [] := Quiet.loud_eq_nil quiet
      simp only [Statement.text, loud_append, spaces.loud_eq_nil, own]
      decide
  | tween t =>
      have own := Tween.loud_text quiet
      simp only [Statement.text, loud_append, spaces.loud_eq_nil, own]
      decide

/-- What is loud in the lines of a setting has one of the known shapes. -/
theorem Setting.loud_lines {setting : Setting} (quiet : setting.IsQuiet) {indent name : String}
    (spaces : Quiet indent) (named : Quiet name) :
    ∀ line ∈ setting.lines indent name, loud line ∈ lineShapes := by
  cases setting with
  | quoted s | thunk s =>
      have own : loud s = [] := Quiet.loud_eq_nil quiet
      refine List.forall_mem_singleton.mpr ?_
      simp only [loud_append, spaces.loud_eq_nil, named.loud_eq_nil, own]
      decide
  | flag b =>
      have own : Quiet (if b then "true" else "false") := by cases b <;> decide
      refine List.forall_mem_singleton.mpr ?_
      simp only [loud_append, spaces.loud_eq_nil, named.loud_eq_nil, own.loud_eq_nil]
      decide
  | callback body =>
      cases body with
      | nil =>
          refine List.forall_mem_singleton.mpr ?_
          simp only [loud_append, spaces.loud_eq_nil, named.loud_eq_nil]
          decide
      | cons first others =>
          have deeper : Quiet (indent ++ "  ") := spaces.append (by decide)
          refine List.forall_mem_cons.mpr ⟨?_, List.forall_mem_append.mpr ⟨?_, ?_⟩⟩
          · simp only [loud_append, spaces.loud_eq_nil, named.loud_eq_nil]
            decide
          · intro line member
            obtain ⟨statement, listed, rfl⟩ := List.mem_map.mp member
            exact Statement.loud_line (quiet statement listed) deeper
          · refine List.forall_mem_singleton.mpr ?_
            simp only [loud_append, spaces.loud_eq_nil]
            decide

theorem loud_settings {settings : List (String × Setting)} (quiet : QuietSettings settings)
    {indent : String} (spaces : Quiet indent) :
    ∀ line ∈ settingLines indent settings, loud line ∈ lineShapes := by
  intro line member
  obtain ⟨setting, listed, inside⟩ := List.mem_flatMap.mp member
  exact Setting.loud_lines (quiet setting listed).2 spaces (quiet setting listed).1 line inside

/-- The lines of settings open no calls. -/
theorem opensNothing_settings {settings : List (String × Setting)} (quiet : QuietSettings settings)
    {indent : String} (spaces : Quiet indent) :
    ∀ line ∈ settingLines indent settings, OpensNothing line := by
  have shapes : ∀ shape ∈ lineShapes, ¬['(', '\x7b'] <:+: shape := by decide
  exact fun line member => shapes _ (loud_settings quiet spaces line member)

/-- The line that opens the call of a block. -/
def Block.opening : Block → String
  | trigger _ _ => "gsap.timeline(\x7b"
  | pin _ => "ScrollTrigger.create(\x7b"

/-- The lines that open the calls of blocks. -/
def openings : List String := ["gsap.timeline(\x7b", "ScrollTrigger.create(\x7b"]

theorem Block.opening_mem (block : Block) : block.opening ∈ openings := by
  cases block <;> simp [opening, openings]

/-- The lines that open the calls of blocks are openings. -/
theorem isOpening_of_mem : ∀ needle ∈ openings, IsOpening needle := by decide

/-- None of these lines occurs in another one. -/
theorem occurrences_opening : ∀ needle ∈ openings, ∀ opening ∈ openings,
    occurrences needle opening = if opening = needle then 1 else 0 := by decide

/-- A block has one line that opens a call. -/
theorem Block.exists_lines {block : Block} (quiet : block.IsQuiet) :
    ∃ before after, block.lines = before ++ block.opening :: after ∧
      ∀ line ∈ before ++ after, OpensNothing line := by
  have closing : OpensNothing "\x7d);" := by decide
  cases block with
  | trigger start settings =>
      obtain ⟨first, later⟩ := quiet
      have tween : OpensNothing start.text := by
        rw [OpensNothing, Tween.loud_text first]
        decide
      have trigger : OpensNothing "  scrollTrigger: \x7b" := by decide
      have inner : OpensNothing "  \x7d" := by decide
      have settings := opensNothing_settings later (show Quiet "    " by decide)
      -- The tween that is run at once stands before the line that opens the call.
      refine ⟨[start.text], _, rfl, List.forall_mem_cons.mpr ⟨tween, ?_⟩⟩
      refine List.forall_mem_cons.mpr ⟨trigger, List.forall_mem_append.mpr ⟨settings, ?_⟩⟩
      exact List.forall_mem_cons.mpr ⟨inner, List.forall_mem_singleton.mpr closing⟩
  | pin settings =>
      have settings := opensNothing_settings quiet (show Quiet "  " by decide)
      refine ⟨[], _, rfl, ?_⟩
      rw [List.nil_append]
      exact List.forall_mem_append.mpr ⟨settings, List.forall_mem_singleton.mpr closing⟩

/-- The opening of a block occurs once in its text, and no other one does. -/
theorem Block.occurrences_text {block : Block} (quiet : block.IsQuiet)
    (known : needle ∈ openings) :
    occurrences needle block.text = if block.opening = needle then 1 else 0 := by
  have opening := isOpening_of_mem needle known
  obtain ⟨before, after, split, nothing⟩ := exists_lines quiet
  have other : ∀ line ∈ before ++ after, line ≠ needle := by
    rintro line member rfl
    exact nothing line member (opening ▸ List.infix_rfl)
  have each : ∀ line ∈ block.lines,
      occurrences needle line = if decide (line = needle) then 1 else 0 := by
    intro line member
    rw [split, List.mem_append, List.mem_cons, or_left_comm, ← List.mem_append] at member
    rcases member with rfl | member
    · simpa using occurrences_opening needle known _ block.opening_mem
    · simp [(nothing line member).occurrences opening, other line member]
  have absent {lines : List String} (within : lines ⊆ before ++ after) :
      lines.countP (· = needle) = 0 := by
    simpa using fun line member => other line (within member)
  rw [Block.text, occurrences_join opening.ne_empty opening.line each, split, List.countP_append,
    List.countP_cons, absent (List.subset_append_left _ _), absent (List.subset_append_right _ _)]
  simp

/-- In the text of some blocks, a line that opens a call stands just where a block opens with it. -/
theorem occurrences_blocksText {blocks : List Block} (quiet : ∀ block ∈ blocks, block.IsQuiet)
    (known : needle ∈ openings) :
    occurrences needle (blocksText blocks) = blocks.countP (·.opening = needle) := by
  have opening := isOpening_of_mem needle known
  refine occurrences_join opening.ne_empty opening.line fun block member => ?_
  simpa using Block.occurrences_text (quiet block member) known

end Script

/-! ## Blocks of plans -/

open Script (Block openings)

namespace PagePlan

/-- A page has one timeline for each binding. -/
theorem countP_timeline (plan : PagePlan) (scroller : Option String) (trace : Bool) :
    (plan.blocks scroller trace).countP (·.opening = "gsap.timeline(\x7b") =
      plan.bindings.length := by
  have pin : (plan.pin.map (·.block scroller)).toList.countP
      (·.opening = "gsap.timeline(\x7b") = 0 := by
    cases plan.pin <;> rfl
  rw [blocks, List.countP_append, pin, List.countP_map, Nat.add_zero]
  exact List.countP_eq_length.mpr fun binding _ => rfl

/-- A page has one trigger of its own if it has a pin. -/
theorem countP_create (plan : PagePlan) (scroller : Option String) (trace : Bool) :
    (plan.blocks scroller trace).countP (·.opening = "ScrollTrigger.create(\x7b") =
      if plan.pin.isSome then 1 else 0 := by
  have bindings : (plan.bindings.map (·.block plan.stepPercent scroller trace)).countP
      (·.opening = "ScrollTrigger.create(\x7b") = 0 := by
    rw [List.countP_map]
    exact List.countP_eq_zero.mpr fun binding _ => by simp [Binding.block, Block.opening]
  rw [blocks, List.countP_append, bindings, Nat.zero_add]
  cases plan.pin <;> rfl

end PagePlan

namespace Plan

variable {plan : Plan} {scroller : Option String}

/-- An opening occurs in a program once for each block that it opens. -/
theorem occurrences_script
    (quiet : ∀ page ∈ plan.pages, ∀ block ∈ page.blocks scroller plan.traceCallbacks, block.IsQuiet)
    {needle : String} (known : needle ∈ openings) :
    occurrences needle (plan.script scroller) =
      (plan.pages.flatMap fun page => page.blocks scroller plan.traceCallbacks).countP
        (·.opening = needle) := by
  rw [plan.script_eq_blocksText]
  refine Script.occurrences_blocksText (fun block member => ?_) known
  obtain ⟨page, inside, listed⟩ := List.mem_flatMap.mp member
  exact quiet page inside block listed

/-- The program of a plan has a timeline for every binding. -/
theorem occurrences_timeline (quiet : ∀ page ∈ plan.pages,
      ∀ block ∈ page.blocks scroller plan.traceCallbacks, block.IsQuiet) :
    occurrences "gsap.timeline(\x7b" (plan.script scroller) = plan.triggerCount := by
  rw [occurrences_script quiet (by decide), triggerCount]
  induction plan.pages with
  | nil => rfl
  | cons page pages ih =>
      rw [List.flatMap_cons, List.countP_append, page.countP_timeline, ih, List.flatMap_cons,
        List.length_append]

/-- The program of a plan has a trigger of its own for every pin. -/
theorem occurrences_create (quiet : ∀ page ∈ plan.pages,
      ∀ block ∈ page.blocks scroller plan.traceCallbacks, block.IsQuiet) :
    occurrences "ScrollTrigger.create(\x7b" (plan.script scroller) = plan.pinCount := by
  rw [occurrences_script quiet (by decide), pinCount]
  induction plan.pages with
  | nil => rfl
  | cons page pages ih =>
      rw [List.flatMap_cons, List.countP_append, page.countP_create, ih, List.countP_cons,
        Nat.add_comm]

end Plan

end ScrollStory
