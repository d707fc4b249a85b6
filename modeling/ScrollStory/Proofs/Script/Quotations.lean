import ScrollStory.Proofs.Script.Scroller

/-!
# What the text of a program names

The strings of a program are read off its text line by line, each with the code before it, which
tells what the string is for: a call begins with it, or it is the value of a setting. Names and
numbers have no quotes in them, so the strings that are read off a block are those that were written
into it (`ScrollStory.Script.Block.targetsIn_text`, `ScrollStory.Script.Block.triggersIn_text`). A
blank line stands behind every block and nowhere else, so the blocks are read off the text as well
(`ScrollStory.Script.paragraphs_blocksText`).
-/

namespace ScrollStory

namespace Script

/-! ## The strings of a text -/

/-- A string of a program, with the code before it on its line. -/
structure Quotation where
  code : String
  content : String
  deriving DecidableEq, Repr

namespace Quotation

/-- A call begins with the string, and does not write it to the log. -/
def isTarget (quotation : Quotation) : Bool :=
  quotation.code.toList.getLast? = some '(' &&
    !"console.log(".toList.isSuffixOf quotation.code.toList

/-- The string is the value of the setting that names a trigger. -/
def isTrigger (quotation : Quotation) : Bool :=
  quotation.code.toList.dropWhile (· = ' ') = "trigger: ".toList

end Quotation

/-- The strings among the pieces of a line that has been cut at its quotes: every other one. -/
def quotationsOf : List String → List Quotation
  | code :: content :: rest => ⟨code, content⟩ :: quotationsOf rest
  | _ => []

/-- The strings on a line. -/
def lineQuotations (line : String) : List Quotation := quotationsOf (Text.split '"' line)

/-- The strings in a text. -/
def quotations (text : String) : List Quotation :=
  (Text.split '\n' text).flatMap lineQuotations

/-- The strings with which the calls in a text begin, but those that write to the log. -/
def targetsIn (text : String) : List String :=
  ((quotations text).filter Quotation.isTarget).map Quotation.content

/-- The values of the settings in a text that name a trigger. -/
def triggersIn (text : String) : List String :=
  ((quotations text).filter Quotation.isTrigger).map Quotation.content

/-- A character that means something to the scanner is in no quiet text. -/
theorem Quiet.not_mem {s : String} (quiet : Quiet s) {c : Char} (special : isQuiet c = false) :
    c ∉ s.toList := by
  intro member
  rw [List.all_eq_true.mp quiet c member] at special
  cases special

/-- A line without quotes has no strings. -/
theorem lineQuotations_of_not_mem {line : String} (free : '"' ∉ line.toList) :
    lineQuotations line = [] := by
  rw [lineQuotations, Text.split_of_not_mem free]
  rfl

/-- A line with two quotes in it has one string. -/
theorem lineQuotations_of_toList {line code content : String} (rest : String)
    (whole : line.toList = code.toList ++ '"' :: (content.toList ++ '"' :: rest.toList))
    (before : '"' ∉ code.toList) (inside : '"' ∉ content.toList) (behind : '"' ∉ rest.toList) :
    lineQuotations line = [⟨code, content⟩] := by
  rw [lineQuotations, Text.split, whole, Text.pieces_append before, Text.pieces_append inside,
    Text.pieces_of_not_mem behind]
  simp [quotationsOf]

/-! ## Strings of statements -/

namespace Statement

/-- The string of a statement behind some indentation. -/
def quotation (indent : String) : Statement → Quotation
  | log message => ⟨indent ++ "console.log(", message⟩
  | tween t => ⟨indent ++ "gsap." ++ t.verb.name ++ "(", "#" ++ t.target⟩

/-- The line of a statement has one string. -/
theorem lineQuotations_text {statement : Statement} (quiet : statement.IsQuiet) {indent : String}
    (spaces : Quiet indent) :
    lineQuotations (indent ++ statement.text) = [statement.quotation indent] := by
  have before : '"' ∉ indent.toList := spaces.not_mem rfl
  cases statement with
  | log message =>
      have inside : '"' ∉ message.toList := Quiet.not_mem quiet rfl
      refine lineQuotations_of_toList ");" ?_ ?_ inside (by decide)
      · simp [text]
      · simpa using before
  | tween t =>
      have target : '"' ∉ t.target.toList := quiet.target.not_mem rfl
      have properties : '"' ∉ (", ".intercalate (t.properties.map propertyText)).toList :=
        (Tween.quiet_properties quiet).not_mem rfl
      have verb : '"' ∉ t.verb.name.toList := t.verb.quiet_name.not_mem rfl
      refine lineQuotations_of_toList
        (", \x7b" ++ ", ".intercalate (t.properties.map propertyText) ++ "\x7d);") ?_ ?_ ?_ ?_
      · simp [text, Tween.text]
      · simpa using ⟨before, verb⟩
      · simpa using target
      · simpa using properties

/-- A tween begins with its target, and a report to the log with none. -/
theorem isTarget_quotation (statement : Statement) (indent : String) :
    (([statement.quotation indent]).filter Quotation.isTarget).map Quotation.content =
      statement.targets.map ("#" ++ ·) := by
  cases statement with
  | log message =>
      have logged : Quotation.isTarget ⟨indent ++ "console.log(", message⟩ = false := by
        have ends : "console.log(".toList <:+ (indent ++ "console.log(").toList := by
          rw [String.toList_append]
          exact List.suffix_append _ _
        rw [Quotation.isTarget, List.isSuffixOf_iff_suffix.mpr ends, Bool.not_true, Bool.and_false]
      rw [quotation, List.filter_cons_of_neg (by rw [logged]; exact Bool.false_ne_true)]
      rfl
  | tween t =>
      have called : Quotation.isTarget ⟨indent ++ "gsap." ++ t.verb.name ++ "(", "#" ++ t.target⟩ =
          true := by
        have ends : (t.verb.name ++ "(").toList <:+
            (indent ++ "gsap." ++ t.verb.name ++ "(").toList := by
          simp only [String.toList_append, List.append_assoc]
          exact (List.suffix_append _ _).trans (List.suffix_append _ _)
        have last : (indent ++ "gsap." ++ t.verb.name ++ "(").toList.getLast? = some '(' := by
          rw [String.toList_append, List.getLast?_append]
          rfl
        -- Of two texts that end a third one, one ends the other, and neither of these does.
        have other : ¬"console.log(".toList <:+
            (indent ++ "gsap." ++ t.verb.name ++ "(").toList := by
          intro logged
          have both := List.suffix_or_suffix_of_suffix logged ends
          revert both
          cases t.verb <;> decide
        rw [Quotation.isTarget, Bool.and_eq_true, Bool.not_eq_true', decide_eq_true_eq,
          ← Bool.not_eq_true, List.isSuffixOf_iff_suffix]
        exact ⟨last, other⟩
      rw [quotation, List.filter_cons_of_pos called]
      rfl

/-- No statement begins with the name of a setting. -/
theorem isTrigger_quotation (statement : Statement) {indent : String} (spaces : Spaces indent) :
    (statement.quotation indent).isTrigger = false := by
  cases statement with
  | log message =>
      rw [quotation, Quotation.isTrigger, spaces.dropWhile]
      decide
  | tween t =>
      rw [quotation, Quotation.isTrigger, String.append_assoc, String.append_assoc,
        spaces.dropWhile]
      cases t.verb <;> decide

end Statement

/-! ## Strings of settings -/

namespace Setting

/-- What a setting with a name says about the trigger of a block. -/
def triggers (name : String) : Setting → List String
  | quoted s => if name = "trigger" then [s] else []
  | _ => []

variable {setting : Setting} {indent name : String}

/-- The strings on the lines of a setting: its own, or those of its statements. -/
def quotations (indent name : String) : Setting → List Quotation
  | quoted s => [⟨indent ++ name ++ ": ", s⟩]
  | flag _ => []
  | thunk s => [⟨indent ++ name ++ ": () => ", s⟩]
  | callback body => body.map (Statement.quotation (indent ++ "  "))

/-- The strings on the lines of a setting are those of the setting. -/
theorem lineQuotations_lines (quiet : setting.IsQuiet) (spaces : Quiet indent)
    (named : Quiet name) :
    (setting.lines indent name).flatMap lineQuotations = setting.quotations indent name := by
  have before : '"' ∉ indent.toList := spaces.not_mem rfl
  have key : '"' ∉ name.toList := named.not_mem rfl
  cases setting with
  | quoted s =>
      rw [lines, List.flatMap_singleton]
      refine lineQuotations_of_toList "," ?_ ?_ (Quiet.not_mem quiet rfl) (by decide)
      · simp
      · simpa using ⟨before, key⟩
  | thunk s =>
      rw [lines, List.flatMap_singleton]
      refine lineQuotations_of_toList "," ?_ ?_ (Quiet.not_mem quiet rfl) (by decide)
      · simp
      · simpa using ⟨before, key⟩
  | flag b =>
      rw [lines, List.flatMap_singleton]
      refine lineQuotations_of_not_mem ?_
      cases b <;> simpa using ⟨before, key⟩
  | callback body =>
      cases body with
      | nil =>
          rw [lines, List.flatMap_singleton]
          exact lineQuotations_of_not_mem (by simpa using ⟨before, key⟩)
      | cons first others =>
          have opening : lineQuotations (indent ++ name ++ ": () => \x7b") = [] :=
            lineQuotations_of_not_mem (by simpa using ⟨before, key⟩)
          have closing : lineQuotations (indent ++ "\x7d,") = [] :=
            lineQuotations_of_not_mem (by simpa using before)
          have deeper : Quiet (indent ++ "  ") := spaces.append (by decide)
          have body : ((first :: others).map fun statement => indent ++ "  " ++ statement.text).flatMap
              lineQuotations = (first :: others).map (Statement.quotation (indent ++ "  ")) := by
            rw [List.flatMap_map, List.map_eq_flatMap]
            exact List.flatMap_congr fun statement member =>
              Statement.lineQuotations_text (quiet statement member) deeper
          rw [lines, List.flatMap_append, List.flatMap_cons, opening, body, List.flatMap_singleton,
            closing, List.append_nil, List.nil_append, quotations]
          exact List.cons_ne_nil _ _

/-- The strings with which the calls in a setting begin name the elements that the setting changes.
-/
theorem isTarget_quotations (setting : Setting) (indent name : String) :
    ((setting.quotations indent name).filter Quotation.isTarget).map Quotation.content =
      setting.targets.map ("#" ++ ·) := by
  cases setting with
  | quoted s | thunk s => simp [quotations, Quotation.isTarget, targets]
  | flag b => rfl
  | callback body =>
      rw [quotations, targets, List.map_flatMap]
      induction body with
      | nil => rfl
      | cons statement body ih =>
          rw [List.map_cons, ← List.singleton_append, List.filter_append, List.map_append, ih,
            Statement.isTarget_quotation, List.flatMap_cons]

/-- The trigger is named by the setting for it and by no other one. -/
theorem isTrigger_quotations (setting : Setting) (spaces : Spaces indent) (letters : Letters name) :
    ((setting.quotations indent name).filter Quotation.isTrigger).map Quotation.content =
      setting.triggers name := by
  have key {rest : String} (colon : Colon rest) :
      (indent ++ name ++ rest).toList.dropWhile (· = ' ') = (name ++ rest).toList := by
    rw [String.append_assoc, spaces.dropWhile, letters.dropWhile colon]
  have known : "trigger: ".toList = ("trigger" ++ ": ").toList := by decide
  cases setting with
  | quoted s =>
      by_cases same : name = "trigger"
      · have named : Quotation.isTrigger ⟨indent ++ name ++ ": ", s⟩ = true := by
          rw [Quotation.isTrigger, key ⟨_, rfl⟩, known, same]
          decide
        rw [quotations, triggers, if_pos same, List.filter_cons_of_pos named]
        rfl
      · have other : Quotation.isTrigger ⟨indent ++ name ++ ": ", s⟩ = false := by
          rw [Quotation.isTrigger, key ⟨_, rfl⟩, known, decide_eq_false_iff_not,
            String.toList_inj, String.append_left_inj]
          exact same
        rw [quotations, triggers, if_neg same,
          List.filter_cons_of_neg (by rw [other]; exact Bool.false_ne_true)]
        rfl
  | flag b => rfl
  | thunk s =>
      have other : Quotation.isTrigger ⟨indent ++ name ++ ": () => ", s⟩ = false := by
        rw [Quotation.isTrigger, key ⟨_, rfl⟩, decide_eq_false_iff_not]
        intro same
        have ends : ": () => ".toList <:+ "trigger: ".toList := by
          rw [← same, String.toList_append]
          exact List.suffix_append _ _
        revert ends
        decide
      rw [quotations, List.filter_cons_of_neg (by rw [other]; exact Bool.false_ne_true)]
      rfl
  | callback body =>
      have deeper : Spaces (indent ++ "  ") := spaces.append (by decide)
      have none : (body.map (Statement.quotation (indent ++ "  "))).filter Quotation.isTrigger =
          [] := by
        refine List.filter_eq_nil_iff.mpr fun quotation member => ?_
        obtain ⟨statement, -, rfl⟩ := List.mem_map.mp member
        rw [statement.isTrigger_quotation deeper]
        exact Bool.false_ne_true
      rw [quotations, none]
      rfl

end Setting

/-! ## Strings of blocks -/

namespace Block

/-- The spaces before the settings of a block. -/
def indent : Block → String
  | trigger _ _ => "    "
  | pin _ => "  "

/-- The strings that are written into a block. -/
def quotations : Block → List Quotation
  | trigger start settings =>
    (Statement.tween start).quotation "" ::
      settings.flatMap fun setting => setting.2.quotations "    " setting.1
  | pin settings => settings.flatMap fun setting => setting.2.quotations "  " setting.1

/-- The strings on the lines of settings are those of the settings. -/
theorem quotations_settings {indent : String} (spaces : Quiet indent)
    {settings : List (String × Setting)} (quiet : QuietSettings settings) :
    (settingLines indent settings).flatMap lineQuotations =
      settings.flatMap fun setting => setting.2.quotations indent setting.1 := by
  rw [settingLines, List.flatMap_assoc]
  exact List.flatMap_congr fun setting member =>
    Setting.lineQuotations_lines (quiet setting member).2 spaces (quiet setting member).1

/-- The strings that are read off the text of a block are those that were written into it. -/
theorem quotations_text {block : Block} (quiet : block.IsQuiet) :
    Script.quotations block.text = block.quotations := by
  have blank : [""].flatMap lineQuotations = [] := rfl
  rw [Script.quotations, split_text quiet, List.flatMap_append, blank, List.append_nil]
  cases block with
  | trigger start settings =>
      obtain ⟨first, later⟩ := quiet
      have quiet : (Statement.tween start).IsQuiet := first
      have own := Statement.lineQuotations_text quiet (show Quiet "" by decide)
      rw [String.empty_append, Statement.text] at own
      have opening : lineQuotations "gsap.timeline(\x7b" = [] := by decide
      have inner : lineQuotations "  scrollTrigger: \x7b" = [] := by decide
      have closing : ["  \x7d", "\x7d);"].flatMap lineQuotations = [] := by decide
      rw [lines, List.flatMap_append, List.flatMap_cons, List.flatMap_cons, List.flatMap_cons, own,
        opening, inner, closing, quotations_settings (by decide) later, List.append_nil,
        List.nil_append, List.nil_append, quotations, List.singleton_append]
  | pin settings =>
      have opening : lineQuotations "ScrollTrigger.create(\x7b" = [] := by decide
      have closing : ["\x7d);"].flatMap lineQuotations = [] := by decide
      rw [lines, List.flatMap_append, List.flatMap_cons, opening, closing,
        quotations_settings (by decide) quiet, List.append_nil, List.nil_append]
      rfl

/-- The strings with which the calls in settings begin name the elements that the settings change.
-/
theorem targets_settings (indent : String) (settings : List (String × Setting)) :
    ((settings.flatMap fun setting => setting.2.quotations indent setting.1).filter
        Quotation.isTarget).map Quotation.content =
      (settings.flatMap fun setting => setting.2.targets).map ("#" ++ ·) := by
  rw [List.filter_flatMap, List.map_flatMap, List.map_flatMap]
  exact List.flatMap_congr fun setting _ => setting.2.isTarget_quotations indent setting.1

/-- The calls in the text of a block begin with the elements that the block changes. -/
theorem targetsIn_text {block : Block} (quiet : block.IsQuiet) :
    targetsIn block.text = block.targets.map ("#" ++ ·) := by
  rw [targetsIn, quotations_text quiet]
  cases block with
  | trigger start settings =>
      have first := (Statement.tween start).isTarget_quotation ""
      rw [quotations, ← List.singleton_append, List.filter_append, List.map_append, first,
        targets_settings]
      rfl
  | pin settings => exact targets_settings "  " settings

/-- The triggers in the lines of settings are those of the settings. -/
theorem triggers_settings {indent : String} (spaces : Spaces indent)
    {settings : List (String × Setting)} (letters : ∀ setting ∈ settings, Letters setting.1) :
    ((settings.flatMap fun setting => setting.2.quotations indent setting.1).filter
        Quotation.isTrigger).map Quotation.content =
      settings.flatMap fun setting => setting.2.triggers setting.1 := by
  rw [List.filter_flatMap, List.map_flatMap]
  exact List.flatMap_congr fun setting member =>
    setting.2.isTrigger_quotations spaces (letters setting member)

/-- The text of a block names the triggers that the settings of the block name. -/
theorem triggersIn_text {block : Block} (quiet : block.IsQuiet)
    (letters : ∀ setting ∈ block.settings, Letters setting.1) :
    triggersIn block.text = block.settings.flatMap fun setting => setting.2.triggers setting.1 := by
  rw [triggersIn, quotations_text quiet]
  cases block with
  | trigger start settings =>
      have first := (Statement.tween start).isTrigger_quotation (show Spaces "" by decide)
      rw [quotations, List.filter_cons_of_neg (by rw [first]; exact Bool.false_ne_true)]
      exact triggers_settings (by decide) letters
  | pin settings => exact triggers_settings (by decide) letters

/-- Only the settings with the name of a trigger say something about it. -/
theorem TriggeredBy.triggers_eq {block : Block} {id : String} (triggered : block.TriggeredBy id) :
    block.settings.flatMap (fun setting => setting.2.triggers setting.1) = ["#" ++ id] := by
  have named (settings : List (String × Setting)) :
      (settings.filter (·.1 = "trigger")).flatMap (fun setting => setting.2.triggers setting.1) =
        settings.flatMap fun setting => setting.2.triggers setting.1 := by
    induction settings with
    | nil => rfl
    | cons setting settings ih =>
        by_cases same : setting.1 = "trigger"
        · rw [List.filter_cons_of_pos (by simpa using same), List.flatMap_cons, List.flatMap_cons,
            ih]
        · have none : setting.2.triggers setting.1 = [] := by
            unfold Setting.triggers
            split
            · exact if_neg same
            · rfl
          rw [List.filter_cons_of_neg (by simpa using same), List.flatMap_cons, none,
            List.nil_append, ih]
  rw [← named, triggered]
  rfl

end Block

/-! ## Blocks of a text -/

/-- The parts of a text with blank lines between them. -/
def paragraphs (text : String) : List String :=
  (((Text.split '\n' text).splitOn "").filter (!·.isEmpty)).map fun lines =>
    String.join (lines.map (· ++ "\n"))

theorem Statement.text_ne_empty (statement : Statement) : statement.text ≠ "" := by
  rw [← String.toList_inj.ne]
  cases statement <;> simp [text, Tween.text]

/-- A setting has no blank lines. -/
theorem Setting.ne_empty_of_mem_lines {setting : Setting} {indent name : String} :
    ∀ line ∈ setting.lines indent name, line ≠ "" := by
  cases setting with
  | quoted s | thunk s | flag b =>
      refine List.forall_mem_singleton.mpr ?_
      rw [← String.toList_inj.ne]
      simp
  | callback body =>
      cases body with
      | nil =>
          refine List.forall_mem_singleton.mpr ?_
          rw [← String.toList_inj.ne]
          simp
      | cons first others =>
          refine List.forall_mem_cons.mpr ⟨?_, List.forall_mem_append.mpr ⟨?_, ?_⟩⟩
          · rw [← String.toList_inj.ne]
            simp
          · intro line member
            obtain ⟨statement, -, rfl⟩ := List.mem_map.mp member
            rw [ne_eq, String.append_eq_empty_iff]
            exact fun both => statement.text_ne_empty both.2
          · refine List.forall_mem_singleton.mpr ?_
            rw [← String.toList_inj.ne]
            simp

/-- A block has no blank lines. -/
theorem Block.ne_empty_of_mem_lines {block : Block} : ∀ line ∈ block.lines, line ≠ "" := by
  have inside {settings : List (String × Setting)} {indent : String} :
      ∀ line ∈ settingLines indent settings, line ≠ "" := by
    intro line member
    obtain ⟨setting, -, listed⟩ := List.mem_flatMap.mp member
    exact Setting.ne_empty_of_mem_lines line listed
  cases block with
  | trigger start settings =>
      have tween : start.text ≠ "" := (Statement.tween start).text_ne_empty
      refine List.forall_mem_cons.mpr ⟨tween, List.forall_mem_cons.mpr ⟨by decide, ?_⟩⟩
      refine List.forall_mem_cons.mpr ⟨by decide, List.forall_mem_append.mpr ⟨inside, ?_⟩⟩
      decide
  | pin settings =>
      refine List.forall_mem_cons.mpr ⟨by decide, List.forall_mem_append.mpr ⟨inside, ?_⟩⟩
      decide

/-- The blocks of a program are read off its text. -/
theorem paragraphs_blocksText {blocks : List Block} (quiet : ∀ block ∈ blocks, block.IsQuiet) :
    paragraphs (blocksText blocks) = blocks.map Block.text := by
  have cut : ((blocks.flatMap fun block => block.lines ++ [""]) ++ [""]).splitOn "" =
      blocks.map Block.lines ++ [[], []] := by
    clear quiet
    induction blocks with
    | nil => rfl
    | cons block blocks ih =>
        have whole : "" ∉ block.lines := fun member => block.ne_empty_of_mem_lines _ member rfl
        rw [List.flatMap_cons, List.append_assoc, List.append_assoc, List.singleton_append,
          List.splitOn_append_cons_self_of_not_mem whole, ih]
        rfl
  -- What is left behind the last block are two empty parts.
  have kept : (blocks.map Block.lines).filter (!·.isEmpty) = blocks.map Block.lines := by
    refine List.filter_eq_self.mpr fun lines member => ?_
    obtain ⟨block, -, rfl⟩ := List.mem_map.mp member
    cases block <;> rfl
  rw [paragraphs, split_blocksText quiet, cut, List.filter_append, kept, List.map_append,
    List.map_map]
  exact List.append_nil _

end Script

end ScrollStory
