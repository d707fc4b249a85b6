import ScrollStory.Proofs.Decimal.Digits
import ScrollStory.Proofs.Plan.Elements
import ScrollStory.Proofs.Script.Balanced

/-!
# Programs are balanced

Nothing is escaped on the way into a program. The names of an accepted article mean nothing to the
scanner of programs, and neither do the numbers and the fixed names in blocks, so every block of the
program closes what it opens, and the whole program is balanced
(`ScrollStory.Article.balanced_script`).
-/

namespace ScrollStory

open Script (Block Position Quiet Reads Setting Statement Tween isQuiet)

/-! ## Names and numbers -/

theorem isQuiet_of_plain {c : Char} (plain : c.isAlphanum ∨ c = '_' ∨ c = '-') :
    isQuiet c = true := by
  have apart : ∀ special ∈ ['"', '\\', '\n', '(', ')', '\x7b', '\x7d', '[', ']'], c ≠ special := by
    rintro special member rfl
    revert plain
    simp only [List.mem_cons, List.not_mem_nil, or_false] at member
    rcases member with rfl | rfl | rfl | rfl | rfl | rfl | rfl | rfl | rfl <;> decide
  rw [isQuiet, Bool.not_eq_true', List.contains_eq_mem, decide_eq_false_iff_not]
  exact fun member => apart c member rfl

/-- A plain name means nothing to the scanner. -/
theorem PlainName.quiet {s : String} (name : PlainName s) : Quiet s :=
  List.all_eq_true.mpr fun c member => isQuiet_of_plain (name.characters c member)

namespace Decimal

theorem quiet_plain (d : Decimal) : Quiet d.plain := by
  refine List.all_eq_true.mpr fun c member => ?_
  rcases mem_plain member with digit | rfl | rfl
  · exact isQuiet_of_plain (.inl (by rw [Char.isAlphanum, digit, Bool.or_true]))
  · decide
  · decide

end Decimal

theorem quiet_percentText (n : Nat) : Quiet (percentText n) :=
  (Decimal.quiet_plain _).append (by decide)

/-! ## Blocks -/

namespace Script

/-- The names in a tween mean nothing to the scanner. -/
structure Tween.IsQuiet (tween : Tween) : Prop where
  target : Quiet tween.target
  properties : ∀ property ∈ tween.properties, Quiet property.1

/-- The names and texts in a statement mean nothing to the scanner. -/
def Statement.IsQuiet : Statement → Prop
  | log message => Quiet message
  | tween t => t.IsQuiet

/-- The names and texts in the value of a setting mean nothing to the scanner. -/
def Setting.IsQuiet : Setting → Prop
  | quoted s | thunk s => Quiet s
  | flag _ => True
  | callback body => ∀ statement ∈ body, statement.IsQuiet

/-- The names and texts in some settings mean nothing to the scanner. -/
def QuietSettings (settings : List (String × Setting)) : Prop :=
  ∀ setting ∈ settings, Quiet setting.1 ∧ setting.2.IsQuiet

/-- The names and texts in a block mean nothing to the scanner. -/
def Block.IsQuiet : Block → Prop
  | trigger start settings => start.IsQuiet ∧ QuietSettings settings
  | pin settings => QuietSettings settings

open Position (code string)

theorem Verb.quiet_name (verb : Verb) : Quiet verb.name := by
  cases verb <;> decide

/-- The properties of a tween as they stand between its braces. -/
theorem Tween.quiet_properties {tween : Tween} (quiet : tween.IsQuiet) :
    Quiet (", ".intercalate (tween.properties.map propertyText)) := by
  refine Quiet.intercalate (by decide) fun text member => ?_
  obtain ⟨property, listed, rfl⟩ := List.mem_map.mp member
  have name := (quiet.properties property listed).append (t := ": ") (by decide)
  exact name.append (Decimal.quiet_plain _)

/-- A tween leaves the scanner with the brackets that it expected. -/
theorem Tween.reads {tween : Tween} (quiet : tween.IsQuiet) (expected : List Char) :
    Reads (code expected) tween.text (code expected) := by
  have opening : Reads (code expected) "(\"#" (string (')' :: expected)) := rfl
  have between : Reads (string (')' :: expected)) "\", \x7b"
      (code ('\x7d' :: ')' :: expected)) := rfl
  have closing : Reads (code ('\x7d' :: ')' :: expected)) "\x7d);" (code expected) := rfl
  have start : Quiet "gsap." := by decide
  exact ((((((start.append tween.verb.quiet_name).reads _).append opening).append
    (quiet.target.reads _)).append between).append ((Tween.quiet_properties quiet).reads _)).append
    closing

/-- A statement leaves the scanner with the brackets that it expected. -/
theorem Statement.reads {statement : Statement} (quiet : statement.IsQuiet)
    (expected : List Char) : Reads (code expected) statement.text (code expected) := by
  cases statement with
  | log message =>
      have opening : Reads (code expected) "console.log(\"" (string (')' :: expected)) := rfl
      have closing : Reads (string (')' :: expected)) "\");" (code expected) := rfl
      exact (opening.append (Quiet.reads quiet _)).append closing
  | tween t => exact Tween.reads quiet expected

/-- Lines one after another take the scanner from some open brackets to others. -/
def ReadsLines (before : List Char) (lines : List String) (after : List Char) : Prop :=
  Reads (code before) (String.join (lines.map (· ++ "\n"))) (code after)

namespace ReadsLines

variable {before between after : List Char}

theorem nil : ReadsLines before [] before := rfl

theorem cons {line : String} {lines : List String} (first : Reads (code before) line (code between))
    (later : ReadsLines between lines after) : ReadsLines before (line :: lines) after := by
  have ending : Reads (code between) "\n" (code between) := rfl
  rw [ReadsLines, List.map_cons, String.join_cons]
  exact (first.append ending).append later

theorem append {lines others : List String} (first : ReadsLines before lines between)
    (second : ReadsLines between others after) : ReadsLines before (lines ++ others) after := by
  rw [ReadsLines, List.map_append, String.join_append]
  exact Reads.append first second

theorem flatMap {α : Type} {lines : α → List String} {as : List α}
    (each : ∀ a ∈ as, ReadsLines before (lines a) before) :
    ReadsLines before (as.flatMap lines) before := by
  induction as with
  | nil => exact nil
  | cons a as ih =>
      obtain ⟨first, later⟩ := List.forall_mem_cons.mp each
      rw [List.flatMap_cons]
      exact first.append (ih later)

end ReadsLines

/-- The lines of a setting leave the scanner with the brackets that it expected. -/
theorem Setting.readsLines {indent name : String} (spaces : Quiet indent) (named : Quiet name)
    {setting : Setting} (quiet : setting.IsQuiet) (expected : List Char) :
    ReadsLines expected (setting.lines indent name) expected := by
  have key : Reads (code expected) (indent ++ name) (code expected) :=
    (spaces.append named).reads _
  have ending : Reads (string expected) "\"," (code expected) := rfl
  cases setting with
  | quoted s =>
      have opening : Reads (code expected) ": \"" (string expected) := rfl
      exact .cons (((key.append opening).append (Quiet.reads quiet _)).append ending) .nil
  | thunk s =>
      have opening : Reads (code expected) ": () => \"" (string expected) := rfl
      exact .cons (((key.append opening).append (Quiet.reads quiet _)).append ending) .nil
  | flag b =>
      have value : Quiet (if b then "true" else "false") := by cases b <;> decide
      have colon : Quiet ": " := by decide
      have comma : Quiet "," := by decide
      have flag := ((key.append (colon.reads _)).append (value.reads _)).append (comma.reads _)
      exact .cons flag .nil
  | callback body =>
      cases body with
      | nil =>
          have empty : Reads (code expected) ": () => \x7b\x7d," (code expected) := rfl
          exact .cons (key.append empty) .nil
      | cons first others =>
          have opening : Reads (code expected) ": () => \x7b" (code ('\x7d' :: expected)) := rfl
          have closing : Reads (code ('\x7d' :: expected)) "\x7d," (code expected) := rfl
          have inner : ReadsLines ('\x7d' :: expected)
              ((first :: others).map fun statement => indent ++ "  " ++ statement.text)
              ('\x7d' :: expected) := by
            rw [List.map_eq_flatMap]
            refine .flatMap fun statement member => .cons ?_ .nil
            have deeper := spaces.append (t := "  ") (by decide)
            exact (deeper.reads _).append (Statement.reads (quiet statement member) _)
          exact (ReadsLines.cons (key.append opening) inner).append
            (.cons ((spaces.reads _).append closing) .nil)

theorem quietSettings_nil : QuietSettings [] := List.forall_mem_nil _

theorem quietSettings_cons {name : String} {setting : Setting} {settings : List (String × Setting)}
    (named : Quiet name) (quiet : setting.IsQuiet) (others : QuietSettings settings) :
    QuietSettings ((name, setting) :: settings) :=
  List.forall_mem_cons.mpr ⟨⟨named, quiet⟩, others⟩

theorem quietSettings_append {settings others : List (String × Setting)}
    (quiet : QuietSettings settings) (later : QuietSettings others) :
    QuietSettings (settings ++ others) :=
  List.forall_mem_append.mpr ⟨quiet, later⟩

/-- The lines of settings leave the scanner with the brackets that it expected. -/
theorem readsLines_settings {indent : String} (spaces : Quiet indent)
    {settings : List (String × Setting)} (quiet : QuietSettings settings) (expected : List Char) :
    ReadsLines expected (settingLines indent settings) expected :=
  .flatMap fun setting member =>
    Setting.readsLines spaces (quiet setting member).1 (quiet setting member).2 expected

/-- A block leaves the scanner expecting nothing. -/
theorem Block.reads {block : Block} (quiet : block.IsQuiet) :
    Reads (code []) block.text (code []) := by
  cases block with
  | trigger start settings =>
      obtain ⟨first, later⟩ := quiet
      have timeline : Reads (code []) "gsap.timeline(\x7b" (code ['\x7d', ')']) := rfl
      have trigger : Reads (code ['\x7d', ')']) "  scrollTrigger: \x7b"
          (code ['\x7d', '\x7d', ')']) := rfl
      have inner : Reads (code ['\x7d', '\x7d', ')']) "  \x7d" (code ['\x7d', ')']) := rfl
      have outer : Reads (code ['\x7d', ')']) "\x7d);" (code []) := rfl
      exact ReadsLines.append
        (.cons (Tween.reads first []) (.cons timeline (.cons trigger
          (readsLines_settings (by decide) later _))))
        (.cons inner (.cons outer .nil))
  | pin settings =>
      have create : Reads (code []) "ScrollTrigger.create(\x7b" (code ['\x7d', ')']) := rfl
      have closing : Reads (code ['\x7d', ')']) "\x7d);" (code []) := rfl
      exact ReadsLines.append (.cons create (readsLines_settings (by decide) quiet _))
        (.cons closing .nil)

theorem reads_blocksText {blocks : List Block} (quiet : ∀ block ∈ blocks, block.IsQuiet) :
    Reads (code []) (blocksText blocks) (code []) := by
  have ending : Reads (code []) "\n" (code []) := rfl
  refine .join fun text member => ?_
  obtain ⟨block, listed, rfl⟩ := List.mem_map.mp member
  exact (Block.reads (quiet block listed)).append ending

end Script

/-! ## Blocks of bindings and pins -/

open Script (quietSettings_append quietSettings_cons quietSettings_nil)

theorem Behavior.quiet_states (behavior : Behavior) :
    (∀ property ∈ behavior.shown, Quiet property.1) ∧
      ∀ property ∈ behavior.hidden, Quiet property.1 := by
  cases behavior <;> decide

namespace AnimationScript

variable {script : AnimationScript} {target : String}

theorem quiet_numeric {properties : List (String × Int)}
    (quiet : ∀ property ∈ properties, Quiet property.1) :
    ∀ property ∈ numeric properties, Quiet property.1 := by
  intro property member
  obtain ⟨given, listed, rfl⟩ := List.mem_map.mp member
  exact quiet given listed

/-- The start of a script is quiet if its target is. -/
theorem isQuiet_start (named : Quiet target) : (script.start target).IsQuiet := by
  obtain ⟨shown, hidden⟩ := script.behavior.quiet_states
  refine ⟨named, quiet_numeric ?_⟩
  split
  · exact shown
  · exact hidden

/-- A move of a script is quiet if its target and the properties are. -/
theorem isQuiet_move (named : Quiet target) {properties : List (String × Int)}
    (quiet : ∀ property ∈ properties, Quiet property.1) (level : Int) :
    (script.move target properties level).IsQuiet := by
  have duration : Quiet "duration" := by decide
  have zIndex : Quiet "zIndex" := by decide
  have stacking : ∀ property ∈ script.stacking level, Quiet property.1 := by
    intro property member
    unfold AnimationScript.stacking at member
    split at member
    · cases List.mem_singleton.mp member
      exact zIndex
    · cases member
  refine ⟨named, List.forall_mem_append.mpr ⟨quiet_numeric quiet, ?_⟩⟩
  exact List.forall_mem_cons.mpr ⟨duration, stacking⟩

/-- The tweens of a script are quiet if their target is. -/
theorem isQuiet_of_tween? (named : Quiet target) {phase : Phase} {tween : Tween}
    (given : script.tween? target phase = some tween) : tween.IsQuiet := by
  obtain ⟨shown, hidden⟩ := script.behavior.quiet_states
  cases phase with
  | init =>
      cases given
      exact isQuiet_start named
  | enter | enterBack =>
      cases given
      exact isQuiet_move named shown _
  | exit =>
      by_cases overlaps : script.behavior = .overlap
      · simp [tween?, overlaps] at given
      · rw [tween?, if_neg overlaps] at given
        cases given
        exact isQuiet_move named hidden _
  | exitBack =>
      cases given
      exact isQuiet_move named hidden _

end AnimationScript

theorem quiet_scrollerSetting {scroller : Option String}
    (selector : ∀ selector ∈ scroller, Quiet selector) :
    Script.QuietSettings (scrollerSetting scroller) := by
  cases scroller with
  | none => exact quietSettings_nil
  | some name => exact quietSettings_cons (by decide) (selector name rfl) quietSettings_nil

namespace Binding

/-- The names in a binding mean nothing to the scanner. -/
structure IsQuiet (binding : Binding) : Prop where
  component : Quiet binding.componentId
  page : Quiet binding.pageId
  frame : Quiet binding.frameId

variable {binding : Binding}

theorem IsQuiet.domId (quiet : binding.IsQuiet) : Quiet binding.domId :=
  Quiet.append (by decide) quiet.component

/-- The callbacks of a quiet binding are quiet. -/
theorem isQuiet_callback (quiet : binding.IsQuiet) (trace : Bool) {label : String}
    (named : Quiet label) (phase : Phase) : (binding.callback trace label phase).IsQuiet := by
  intro statement member
  rcases List.mem_append.mp member with report | change
  · split at report
    · cases List.mem_singleton.mp report
      have space : Quiet " " := by decide
      have hyphen : Quiet "-" := by decide
      exact (((named.append space).append quiet.page).append hyphen).append quiet.frame
    · cases report
  · obtain ⟨tween, given, rfl⟩ := Option.map_eq_some_iff.mp (Option.mem_toList.mp change)
    exact AnimationScript.isQuiet_of_tween? quiet.domId given

/-- The block of a quiet binding is quiet. -/
theorem isQuiet_block (quiet : binding.IsQuiet) (stepPercent : Nat) {scroller : Option String}
    (selector : ∀ selector ∈ scroller, Quiet selector) (trace : Bool) :
    (binding.block stepPercent scroller trace).IsQuiet := by
  have start (n : Nat) : Quiet ("top+=" ++ percentText n ++ " top") :=
    (Quiet.append (by decide) (quiet_percentText n)).append (by decide)
  have stop (n : Nat) : Quiet ("+=" ++ percentText n) :=
    Quiet.append (by decide) (quiet_percentText n)
  have page : Quiet ("#page-" ++ binding.pageId) := Quiet.append (by decide) quiet.page
  have actions : Quiet "play none reverse none" := by decide
  refine ⟨AnimationScript.isQuiet_start quiet.domId, ?_⟩
  refine quietSettings_append (quietSettings_append ?_ (quiet_scrollerSetting selector)) ?_
  · exact quietSettings_cons (by decide) page <| quietSettings_cons (by decide) (start _) <|
      quietSettings_cons (by decide) (stop _) <| quietSettings_cons (by decide) trivial
        quietSettings_nil
  · have callback {label : String} (named : Quiet label) (phase : Phase) :=
      isQuiet_callback quiet trace named phase
    exact quietSettings_cons (by decide) (callback (by decide) _) <|
      quietSettings_cons (by decide) (callback (by decide) _) <|
      quietSettings_cons (by decide) (callback (by decide) _) <|
      quietSettings_cons (by decide) (callback (by decide) _) <|
      quietSettings_cons (by decide) actions <| quietSettings_cons (by decide) trivial
        quietSettings_nil

end Binding

/-- The block of a pin is quiet if the page's identifier is. -/
theorem Pin.isQuiet_block {pin : Pin} (page : Quiet pin.pageId) {scroller : Option String}
    (selector : ∀ selector ∈ scroller, Quiet selector) : (pin.block scroller).IsQuiet := by
  have stop : Quiet ("+=" ++ percentText pin.distance) :=
    Quiet.append (by decide) (quiet_percentText _)
  have page : Quiet ("#page-" ++ pin.pageId) := Quiet.append (by decide) page
  have top : Quiet "top top" := by decide
  refine quietSettings_append ?_ (quiet_scrollerSetting selector)
  exact quietSettings_cons (by decide) page <| quietSettings_cons (by decide) top <|
    quietSettings_cons (by decide) stop <| quietSettings_cons (by decide) trivial <|
    quietSettings_cons (by decide) trivial <| quietSettings_cons (by decide) trivial
      quietSettings_nil

/-! ## Programs of articles -/

namespace Page

variable {page : Page} {convention : Convention}

theorem WellFormed.quiet_entry (well : page.WellFormed convention) {entry : Entry}
    (member : entry ∈ page.entries) : Quiet entry.component.id ∧ Quiet entry.frameId := by
  obtain ⟨⟨frame, index⟩, listed, inside⟩ := List.mem_flatMap.mp member
  obtain ⟨c, inFrame, rfl⟩ := List.mem_map.mp inside
  have inPage := List.fst_mem_of_mem_zipIdx listed
  have component := well.components c (List.mem_flatMap.mpr ⟨frame, inPage, inFrame⟩)
  exact ⟨component.id.quiet, (well.frames frame inPage).quiet⟩

/-- The blocks of a well-formed page are quiet. -/
theorem WellFormed.isQuiet_blocks (well : page.WellFormed convention) {pageIndex : Nat}
    {settings : CompileSettings} {plan : PagePlan}
    (compiled : page.compile pageIndex settings = .ok plan) {scroller : Option String}
    (selector : ∀ selector ∈ scroller, Quiet selector) (trace : Bool) :
    ∀ block ∈ plan.blocks scroller trace, block.IsQuiet := by
  intro block member
  rcases List.mem_append.mp member with member | member
  · obtain ⟨binding, listed, rfl⟩ := List.mem_map.mp member
    obtain ⟨entry, inside, timing, script, rfl⟩ := exists_entry_of_compile compiled listed
    obtain ⟨component, frame⟩ := well.quiet_entry inside
    exact Binding.isQuiet_block ⟨component, well.id.quiet, frame⟩ _ selector trace
  · obtain ⟨pin, pinned, rfl⟩ := Option.map_eq_some_iff.mp (Option.mem_toList.mp member)
    have page : Quiet pin.pageId := pinId_of_compile compiled pinned ▸ well.id.quiet
    exact Pin.isQuiet_block page selector

end Page

namespace Plan

/-- The program of a plan is the sequence of the blocks of its pages. -/
theorem script_eq_blocksText (plan : Plan) (scroller : Option String) :
    plan.script scroller = Script.blocksText
      (plan.pages.flatMap fun page => page.blocks scroller plan.traceCallbacks) := by
  rw [script]
  induction plan.pages with
  | nil => rfl
  | cons page pages ih =>
      rw [List.map_cons, String.join_cons, ih, List.flatMap_cons, Script.blocksText,
        Script.blocksText, List.map_append, String.join_append]
      rfl

end Plan

namespace RenderSettings

theorem quiet_scrollerSelector? {settings : RenderSettings}
    (scroller : ∀ name, settings.scrollerClass = some name → isIdentifier name = true) :
    ∀ selector ∈ settings.scrollerSelector?, Quiet selector := by
  intro selector member
  obtain ⟨name, given, rfl⟩ := Option.map_eq_some_iff.mp member
  exact Quiet.append (by decide) ((isIdentifier_iff name).mp (scroller name given)).quiet

end RenderSettings

namespace Article

/-- **Programs are balanced.** The program of an accepted article that compiles is the sequence of
the blocks of its pages, and every block by itself and the whole program are balanced, if the class
of the element that scrolls is an identifier or there is none. -/
theorem balanced_script {parse : ParseSettings} {read : Except Json.Fault Article}
    {article : Article} (accepted : parse.accept read = .ok article) {settings : CompileSettings}
    {plan : Plan} (compiled : article.compile settings = .ok plan) {render : RenderSettings}
    (scroller : ∀ name, render.scrollerClass = some name → isIdentifier name = true) :
    plan.script render.scrollerSelector? = Script.blocksText (plan.pages.flatMap fun page =>
        page.blocks render.scrollerSelector? plan.traceCallbacks) ∧
      (∀ page ∈ plan.pages,
        ∀ block ∈ page.blocks render.scrollerSelector? plan.traceCallbacks,
          Script.Balanced block.text.toList) ∧
      Script.Balanced (plan.script render.scrollerSelector?).toList := by
  have well := wellFormed_of_accept accepted
  have selector := RenderSettings.quiet_scrollerSelector? scroller
  have quiet : ∀ pagePlan ∈ plan.pages,
      ∀ block ∈ pagePlan.blocks render.scrollerSelector? plan.traceCallbacks, block.IsQuiet := by
    intro pagePlan member
    obtain ⟨page, inside, i, compiled⟩ := exists_page_of_compile compiled member
    exact (well.pages page inside).isQuiet_blocks compiled selector _
  have whole := plan.script_eq_blocksText render.scrollerSelector?
  refine ⟨whole, fun page member block listed => ?_, ?_⟩
  · exact (Block.reads (quiet page member block listed)).balanced
  · rw [whole]
    refine (Script.reads_blocksText fun block member => ?_).balanced
    obtain ⟨page, inside, listed⟩ := List.mem_flatMap.mp member
    exact quiet page inside block listed

/-- The program for two pages of which one is held in place is balanced, with a trace. -/
theorem balanced_script_halfPinned :
    ParseSettings.accept {} (.ok halfPinned) = .ok halfPinned.stamp ∧
      (∀ name, (RenderSettings.scrollerClass {}) = some name → isIdentifier name = true) ∧
      ∃ plan, halfPinned.stamp.compile { traceCallbacks := true } = .ok plan ∧
        (plan.pages.flatMap fun page => page.blocks (some ".scroller") true).length = 2 ∧
        Script.Balanced (plan.script (some ".scroller")).toList := by
  have accepted : ParseSettings.accept {} (.ok halfPinned) = .ok halfPinned.stamp := rfl
  have compiled : halfPinned.stamp.compile { traceCallbacks := true } = .ok _ := rfl
  have scroller : ∀ name, (RenderSettings.scrollerClass {}) = some name →
      isIdentifier name = true := by
    intro name given
    cases given
    decide
  obtain ⟨_, _, balanced⟩ := balanced_script accepted compiled scroller
  exact ⟨accepted, scroller, _, compiled, rfl, balanced⟩

end Article

end ScrollStory
