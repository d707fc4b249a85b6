import ScrollStory.Proofs.Plan.Elements
import ScrollStory.Proofs.Plan.Partition
import ScrollStory.Proofs.Script.Quotations

/-!
# Documents and programs name the same elements

The document of an article and its program are made apart from each other, one from the article and
the other from its plan. Both are read here as texts. Every component has one element in the
document, and the parts of the program for a page that is held in place change the elements in the
section of that page in their order, all of them started by that section
(`ScrollStory.Article.same_elements`).
-/

namespace ScrollStory

open Html (Address Mark Node ReadsAs)

open Script (Block Quiet Setting paragraphs targetsIn triggersIn)

/-! ## Texts of blocks -/

namespace Script

/-- A part of a program changes one element and no other, and begins with that. -/
structure Changes (text id : String) : Prop where
  some : targetsIn text ≠ []
  only : ∀ target ∈ targetsIn text, target = "#" ++ id
  begins : ∃ rest, text = "gsap.set(\"#" ++ id ++ "\", \x7b" ++ rest

/-- A part of a program changes no element, and holds something in place. -/
structure Holds (text : String) : Prop where
  none : targetsIn text = []
  begins : ∃ rest, text = "ScrollTrigger.create(\x7b" ++ rest

namespace Block

variable {block : Block} {id : String}

/-- The text of a block begins with its first line. -/
theorem text_of_head? {line : String} (first : block.lines.head? = some line) :
    ∃ rest, block.text = line ++ rest := by
  obtain ⟨lines, whole⟩ := List.head?_eq_some_iff.mp first
  exact ⟨"\n" ++ String.join (lines.map (· ++ "\n")), by
    rw [text, whole, List.map_cons, String.join_cons, String.append_assoc]⟩

/-- The text of a block that animates an element changes this element and no other. -/
theorem Animates.changes (animates : block.Animates id) (quiet : block.IsQuiet) :
    Changes block.text id where
  some := by
    rw [targetsIn_text quiet]
    exact mt List.map_eq_nil_iff.mp animates.some
  only := by
    rw [targetsIn_text quiet]
    intro target member
    obtain ⟨named, listed, rfl⟩ := List.mem_map.mp member
    rw [animates.only named listed]
  begins := by
    obtain ⟨rest, first⟩ := animates.text
    obtain ⟨behind, whole⟩ := text_of_head? first
    exact ⟨rest ++ behind, by rw [whole, String.append_assoc]⟩

/-- The line of a block that names its trigger. -/
theorem TriggeredBy.line (triggered : block.TriggeredBy id) :
    block.indent ++ "trigger: \"#" ++ id ++ "\"," ∈ block.lines := by
  have listed : ("trigger", Setting.quoted ("#" ++ id)) ∈ block.settings := by
    have first : ("trigger", Setting.quoted ("#" ++ id)) ∈
        block.settings.filter (·.1 = "trigger") := triggered ▸ List.mem_singleton_self _
    exact (List.mem_filter.mp first).1
  have inside (indent : String) :
      indent ++ "trigger: \"#" ++ id ++ "\"," ∈ settingLines indent block.settings := by
    refine List.mem_flatMap.mpr ⟨_, listed, List.mem_singleton.mpr ?_⟩
    rw [← String.toList_inj]
    simp
  cases block with
  | trigger start settings =>
      have own := List.mem_append_left ["  \x7d", "\x7d);"] (inside "    ")
      exact List.mem_cons_of_mem _ (List.mem_cons_of_mem _ (List.mem_cons_of_mem _ own))
  | pin settings =>
      exact List.mem_cons_of_mem _ (List.mem_append_left ["\x7d);"] (inside "  "))

end Block

end Script

/-- The settings in the blocks of a page have names of letters. -/
theorem PagePlan.letters_blocks {plan : PagePlan} {scroller : Option String} {trace : Bool} :
    ∀ block ∈ plan.blocks scroller trace, ∀ setting ∈ block.settings, Script.Letters setting.1 := by
  have scrolls : ∀ setting ∈ scrollerSetting scroller, Script.Letters setting.1 := by
    have name : Script.Letters "scroller" := by decide
    cases scroller with
    | none => exact List.forall_mem_nil _
    | some selector => exact List.forall_mem_singleton.mpr name
  intro block member
  rcases List.mem_append.mp member with listed | pinned
  · obtain ⟨binding, -, rfl⟩ := List.mem_map.mp listed
    refine List.forall_mem_append.mpr ⟨List.forall_mem_append.mpr ⟨?_, scrolls⟩, ?_⟩
    · simp only [List.forall_mem_cons]
      decide
    · simp only [List.forall_mem_cons]
      decide
  · obtain ⟨pin, -, rfl⟩ := Option.map_eq_some_iff.mp (Option.mem_toList.mp pinned)
    refine List.forall_mem_append.mpr ⟨?_, scrolls⟩
    simp only [List.forall_mem_cons]
    decide

/-- The text of a pin's block changes no element. -/
theorem Pin.holds_block {pin : Pin} {scroller : Option String}
    (quiet : (pin.block scroller).IsQuiet) : Script.Holds (pin.block scroller).text where
  none := by
    have none : (pin.block scroller).targets = [] := by cases scroller <;> rfl
    rw [Block.targetsIn_text quiet, none]
    rfl
  begins := Block.text_of_head? rfl

/-! ## Plans of pages -/

namespace PagePlan

/-- A plan animates some elements in the section of a page: it binds their components in that order,
and has a pin if there are any. Of its blocks the first ones change these elements, one each, and the
last one is that of the pin, all of them started by the section, which each names on a line. The
program of the page is the text of the blocks. If the selector of the element that scrolls means
nothing to the scanner, then the blocks with what they change and what starts them are read off the
text. -/
structure Animates (plan : PagePlan) (pageId : String) (elements : List String) : Prop where
  bindings : plan.bindings.map (fun binding => "comp-" ++ binding.componentId) = elements
  pin : plan.pin = none ↔ elements = []
  blocks : ∀ scroller trace, ∃ triggers,
    plan.blocks scroller trace = triggers ++ (plan.pin.map (·.block scroller)).toList ∧
      List.Forall₂ Block.Animates triggers elements
  triggered : ∀ scroller trace, ∀ block ∈ plan.blocks scroller trace,
    block.TriggeredBy ("page-" ++ pageId)
  line : ∀ scroller trace, ∀ block ∈ plan.blocks scroller trace,
    block.indent ++ "trigger: \"#page-" ++ pageId ++ "\"," ∈ block.lines
  script : ∀ scroller trace,
    plan.script scroller trace = Script.blocksText (plan.blocks scroller trace)
  read : ∀ scroller trace, (∀ selector ∈ scroller, Quiet selector) → ∃ triggers pins,
    paragraphs (plan.script scroller trace) = triggers ++ pins ∧
      List.Forall₂ Script.Changes triggers elements ∧
      pins.length = plan.pin.toList.length ∧ (∀ text ∈ pins, Script.Holds text) ∧
      ∀ text ∈ triggers ++ pins, triggersIn text = ["#page-" ++ pageId]

/-- A plan adds nothing to the program. -/
structure Still (plan : PagePlan) : Prop where
  bindings : plan.bindings = []
  pin : plan.pin = none
  script : ∀ scroller trace, plan.blocks scroller trace = [] ∧ plan.script scroller trace = ""

end PagePlan

namespace Page

variable {page : Page} {pageIndex : Nat} {settings : CompileSettings} {plan : PagePlan}

/-- A page that is held in place binds its components slot by slot. -/
theorem domIds_of_compile (compiled : page.compile pageIndex settings = .ok plan)
    (pinnable : page.pinnable = true) :
    plan.bindings.map Binding.domId = page.componentDomIds := by
  obtain ⟨blocks, bound, joined, _⟩ := blocks_of_compile compiled pinnable
  have ids : blocks.map (List.map Binding.domId) =
      page.groups.map fun group => group.entries.map fun entry => entry.component.domId := by
    refine map_eq_of_forall₂ (fun group block bound => ?_) bound
    have same := congrArg (List.map ("comp-" ++ ·)) bound.components
    rw [List.map_map, List.map_map] at same
    exact same.symm
  rw [joined, List.map_flatten, ids, componentDomIds, List.map_flatMap, List.flatMap_def]

/-- A page that is held in place has a pin unless it is empty. -/
theorem pin_eq_none_iff (compiled : page.compile pageIndex settings = .ok plan)
    (pinnable : page.pinnable = true) : plan.pin = none ↔ page.componentDomIds = [] := by
  have empty : page.componentDomIds = [] ↔ page.components = [] := by
    rw [← List.map_eq_nil_iff (f := Component.domId)]
    exact ⟨fun none => List.perm_nil.mp (none ▸ page.perm_componentDomIds.symm), fun none =>
      List.perm_nil.mp (none ▸ page.perm_componentDomIds)⟩
  obtain ⟨_, _, rfl⟩ := of_compile compiled
  rw [empty, ← biggest_eq_zero_iff]
  simp [pinnable]

/-- All blocks of a page are started by its section. -/
theorem triggered_blocks (compiled : page.compile pageIndex settings = .ok plan)
    (scroller : Option String) (trace : Bool) :
    ∀ block ∈ plan.blocks scroller trace, block.TriggeredBy ("page-" ++ page.id) := by
  intro block member
  rcases List.mem_append.mp member with member | member
  · obtain ⟨binding, listed, rfl⟩ := List.mem_map.mp member
    rw [← pageId_of_compile compiled listed]
    exact binding.triggered_block plan.stepPercent scroller trace
  · obtain ⟨pin, pinned, rfl⟩ := Option.map_eq_some_iff.mp (Option.mem_toList.mp member)
    rw [← pinId_of_compile compiled pinned]
    exact pin.triggered_block scroller

/-- The blocks of a page are read off its part of the program. -/
theorem read_of_compile {convention : Convention} (well : page.WellFormed convention)
    (compiled : page.compile pageIndex settings = .ok plan) {scroller : Option String}
    (selector : ∀ selector ∈ scroller, Quiet selector) (trace : Bool) :
    ∃ triggers pins, paragraphs (plan.script scroller trace) = triggers ++ pins ∧
      List.Forall₂ Script.Changes triggers (plan.bindings.map Binding.domId) ∧
      pins.length = plan.pin.toList.length ∧ (∀ text ∈ pins, Script.Holds text) ∧
      ∀ text ∈ triggers ++ pins, triggersIn text = ["#page-" ++ page.id] := by
  have quiet := well.isQuiet_blocks compiled selector trace
  -- The parts of the text are the blocks of the bindings and then that of the pin.
  have cut : paragraphs (plan.script scroller trace) =
      (plan.bindings.map fun binding => (binding.block plan.stepPercent scroller trace).text) ++
        plan.pin.toList.map fun pin => (pin.block scroller).text := by
    rw [PagePlan.script, Script.paragraphs_blocksText quiet, PagePlan.blocks, List.map_append,
      List.map_map, Option.toList_map, List.map_map, Function.comp_def, Function.comp_def]
  have pinned (pin : Pin) (member : pin ∈ plan.pin.toList) :
      pin.block scroller ∈ plan.blocks scroller trace := by
    rw [Option.mem_toList] at member
    exact List.mem_append_right _
      (Option.mem_toList.mpr (Option.map_eq_some_iff.mpr ⟨pin, member, rfl⟩))
  refine ⟨_, _, cut, ?_, List.length_map _, ?_, ?_⟩
  · rw [List.forall₂_map_left_iff, List.forall₂_map_right_iff, List.forall₂_same]
    intro binding member
    exact (binding.animates_block plan.stepPercent scroller trace).changes
      (quiet _ (List.mem_append_left _ (List.mem_map_of_mem member)))
  · intro text member
    obtain ⟨pin, listed, rfl⟩ := List.mem_map.mp member
    exact Pin.holds_block (quiet _ (pinned pin listed))
  · rw [← cut, PagePlan.script, Script.paragraphs_blocksText quiet, List.forall_mem_map]
    intro block member
    rw [Block.triggersIn_text (quiet block member) (PagePlan.letters_blocks block member),
      (triggered_blocks compiled scroller trace block member).triggers_eq, ← String.append_assoc]
    rfl

/-- The plan of a well-formed page that is held in place animates the elements of its components,
slot by slot. -/
theorem animates_of_compile {convention : Convention} (well : page.WellFormed convention)
    (compiled : page.compile pageIndex settings = .ok plan) (pinnable : page.pinnable = true) :
    plan.Animates page.id page.componentDomIds where
  bindings := domIds_of_compile compiled pinnable
  pin := pin_eq_none_iff compiled pinnable
  blocks scroller trace := by
    refine ⟨_, rfl, ?_⟩
    rw [← domIds_of_compile compiled pinnable, List.forall₂_map_left_iff,
      List.forall₂_map_right_iff, List.forall₂_same]
    exact fun binding _ => binding.animates_block plan.stepPercent scroller trace
  triggered := triggered_blocks compiled
  line scroller trace block member := by
    have named : block.indent ++ "trigger: \"#page-" ++ page.id ++ "\"," =
        block.indent ++ "trigger: \"#" ++ ("page-" ++ page.id) ++ "\"," := by
      rw [← String.toList_inj]
      simp
    rw [named]
    exact (triggered_blocks compiled scroller trace block member).line
  script _ _ := rfl
  read scroller trace selector := by
    rw [← domIds_of_compile compiled pinnable]
    exact read_of_compile well compiled selector trace

/-- The plan of a page that is not held in place adds nothing to the program. -/
theorem still_of_compile (compiled : page.compile pageIndex settings = .ok plan)
    (pinnable : page.pinnable = false) : plan.Still := by
  obtain ⟨blocks, _, rfl⟩ := of_compile compiled
  constructor <;> simp [pinnable, PagePlan.script, PagePlan.blocks, Script.blocksText]

end Page

namespace Article

/-- **Document, plan and program name the same elements.** The elements of the document of an
accepted article that compiles are read off its text: every component has one element there, in the
slot of its position in the section of its page. The program consists of a fixed text and of the
parts for the pages. A page that is held in place binds and animates the elements of components in
its section in the order in which they stand there, and all of its blocks are started by the section;
a page that is not adds nothing to the program. -/
theorem same_elements {parse : ParseSettings} {read : Except Json.Fault Article} {article : Article}
    (accepted : parse.accept read = .ok article) {settings : CompileSettings} {plan : Plan}
    (compiled : article.compile settings = .ok plan) (render : RenderSettings) :
    ∃ nodes, article.nodes render = .ok nodes ∧
      article.html render = .ok ("<!DOCTYPE html>\n" ++ Node.renderAll nodes) ∧
      article.Writes render ("<!DOCTYPE html>\n" ++ Node.renderAll nodes) nodes ∧
      ReadsAs (documentMarks nodes) nodes ∧
      (∀ page ∈ article.pages, ∀ c ∈ page.components,
        (Mark.addresses (documentMarks nodes)).filter (·.id? = some ("comp-" ++ c.id)) =
          [[("section", "page-" ++ page.id), ("div", "page-" ++ page.id ++ "-" ++ c.slot.name),
            (c.tag, "comp-" ++ c.id)]]) ∧
      plan.program render = Text.trimEnd Text.isBlank render.bootstrapScript ++ "\n\n" ++
        String.join (plan.pages.map fun pagePlan =>
          pagePlan.script render.scrollerSelector? plan.traceCallbacks) ∧
      plan.pages.length = article.pages.length ∧
      ∀ (i : Nat) (page : Page), article.pages[i]? = some page →
        ∃ pagePlan, plan.pages[i]? = some pagePlan ∧
          (Mark.addresses (documentMarks nodes)).count [("section", "page-" ++ page.id)] = 1 ∧
          (page.pinnable = true → pagePlan.Animates page.id
            (page.sectionComponents (Mark.addresses (documentMarks nodes)))) ∧
          (page.pinnable = false → pagePlan.Still) := by
  have well := wellFormed_of_accept accepted
  have names : ∀ page ∈ article.pages,
      PlainName page.id ∧ ∀ c ∈ page.components, PlainName c.id := fun page member =>
    ⟨(well.pages page member).id, fun c inside => ((well.pages page member).components c inside).id⟩
  have placed : ∀ page ∈ article.pages, page.Placed := by
    intro page member
    obtain ⟨i, at_i⟩ := List.mem_iff_getElem?.mp member
    obtain ⟨pagePlan, _, compiled⟩ := of_compile compiled at_i
    exact Page.placed_of_compile compiled
  obtain ⟨nodes, done, addresses⟩ := addresses_of_placed placed names render
  obtain ⟨writes, reads⟩ := reads_of_nodes done
  -- What is read off the text is what was put into the tree, page by page.
  have found : Mark.addresses (documentMarks nodes) = article.pages.flatMap Page.addresses :=
    reads.addresses.trans addresses
  refine ⟨nodes, done, writes.html, writes, reads, ?_, rfl, length_of_compile compiled, ?_⟩
  · intro page inside c member
    rw [found]
    exact filter_componentAddress well.componentIds inside member
  · intro i page at_i
    have inside := List.mem_of_getElem? at_i
    obtain ⟨pagePlan, planned, compiled⟩ := of_compile compiled at_i
    rw [found, Page.sectionComponents_eq well.pageIds inside]
    exact ⟨pagePlan, planned, Page.count_sectionAddress well.pageIds inside,
      Page.animates_of_compile (well.pages page inside) compiled, Page.still_of_compile compiled⟩

/-- Of two pages of which only the first is held in place, the first one has two parts in the
program, that of its component and that of its pin. -/
theorem same_elements_halfPinned :
    ∃ plan, ParseSettings.accept {} (.ok halfPinned) = .ok halfPinned.stamp ∧
      halfPinned.stamp.compile {} = .ok plan ∧
      ∃ nodes, halfPinned.stamp.nodes {} = .ok nodes ∧
        (∃ first, plan.pages[0]? = some first ∧ first.Animates "a" ["comp-one"] ∧
          ∃ trigger pin, paragraphs (first.script (some ".scroller") false) = [trigger, pin] ∧
            Script.Changes trigger "comp-one" ∧ Script.Holds pin ∧
            triggersIn trigger = ["#page-a"] ∧ triggersIn pin = ["#page-a"]) ∧
        ∃ second, plan.pages[1]? = some second ∧ second.Still := by
  have accepted : ParseSettings.accept {} (.ok halfPinned) = .ok halfPinned.stamp := rfl
  have compiled : halfPinned.stamp.compile {} = .ok _ := rfl
  obtain ⟨nodes, done, _, _, _, _, _, _, pages⟩ := same_elements accepted compiled {}
  obtain ⟨first, planned, _, animated, _⟩ := pages 0 _ rfl
  obtain ⟨second, planned', _, _, still⟩ := pages 1 _ rfl
  have animated := animated rfl
  cases planned
  have elements := animated.bindings
  rw [← elements] at animated
  have selector : ∀ selector ∈ some ".scroller", Quiet selector := by
    rintro _ ⟨⟩
    decide
  obtain ⟨triggers, pins, cut, changes, single, holds, started⟩ :=
    animated.read (some ".scroller") false selector
  obtain ⟨pin, rfl⟩ := List.length_eq_one_iff.mp single
  obtain ⟨trigger, _, change, last, rfl⟩ := List.forall₂_cons_right_iff.mp changes
  cases List.forall₂_nil_right_iff.mp last
  exact ⟨_, accepted, compiled, nodes, done, ⟨_, rfl, animated, trigger, pin, cut, change,
    holds pin (List.mem_singleton_self _), started trigger List.mem_cons_self,
    started pin (List.mem_cons_of_mem _ (List.mem_singleton_self _))⟩, second, planned', still rfl⟩

end Article

end ScrollStory
