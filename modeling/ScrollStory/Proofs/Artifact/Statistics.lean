import ScrollStory.Proofs.Artifact.Stages
import ScrollStory.Proofs.Plan.Lookup
import ScrollStory.Proofs.Script.Occurrences

/-!
# What statistics count

The statistics on an article agree with the article, with its plan and with the text of its program:
triggers and pins can be counted on the pages that are held in place, and they can be counted in the
program by the texts with which their blocks begin (`ScrollStory.Article.statistics_counts`).
-/

namespace ScrollStory

/-! ## Triggers and pins of a plan -/

namespace Page

variable {page : Page} {i : Nat} {settings : CompileSettings} {plan : PagePlan}

/-- A page that is held in place and has a component. -/
def isPinned (page : Page) : Bool := page.pinnable && !page.isEmpty

/-- The plan of a page has a pin if the page is held in place and has a component. -/
theorem isSome_pin_of_compile (compiled : page.compile i settings = .ok plan) :
    plan.pin.isSome = page.isPinned := by
  have occupied : 0 < Group.biggest page.groups ↔ page.isEmpty = false := by
    rw [Nat.pos_iff_ne_zero, ne_eq, biggest_eq_zero_iff, isEmpty, componentCount]
    simp
  obtain ⟨_, _, rfl⟩ := of_compile compiled
  rw [isPinned]
  by_cases held : page.pinnable = true ∧ 0 < Group.biggest page.groups
  · rw [if_pos held, held.1, occupied.mp held.2]
    rfl
  · rw [if_neg held]
    rw [occupied, ← Bool.not_eq_true', ← Bool.and_eq_true, Bool.not_eq_true] at held
    exact held.symm

end Page

namespace Article

variable {article : Article} {settings : CompileSettings} {plan : Plan}

/-- A plan has as many pins as the article has pages that are held in place and have a component. -/
theorem pinCount_of_compile (compiled : article.compile settings = .ok plan) :
    plan.pinCount = article.pages.countP Page.isPinned := by
  have pins := map_eq_of_forall₂ (f := fun item : Page × Nat => item.1.isPinned)
    (g := fun pagePlan : PagePlan => pagePlan.pin.isSome)
    (fun _ _ made => (Page.isSome_pin_of_compile made).symm) (forall₂_of_compile compiled)
  have counted := congrArg (List.countP fun pinned => pinned) pins
  rw [List.countP_map, List.countP_map] at counted
  conv => rhs; rw [← List.zipIdx_map_fst 0 article.pages, List.countP_map]
  exact counted

/-- As many components are bound as stand on pages that are held in place. -/
theorem length_boundIds (pages : List Page) :
    (pages.flatMap Page.boundIds).length =
      ((pages.filter Page.pinnable).flatMap Page.components).length := by
  induction pages with
  | nil => rfl
  | cons page pages ih =>
      rw [List.flatMap_cons, List.length_append, ih, Page.boundIds]
      cases pinnable : page.pinnable with
      | true =>
          rw [List.filter_cons_of_pos pinnable, List.flatMap_cons, List.length_append, if_pos rfl,
            componentIds, List.length_map]
      | false =>
          rw [List.filter_cons_of_neg (by rw [pinnable]; exact Bool.false_ne_true),
            if_neg Bool.false_ne_true, List.length_nil, Nat.zero_add]

/-- A plan has as many bindings as there are components on pages that are held in place. -/
theorem triggerCount_of_compile (compiled : article.compile settings = .ok plan) :
    plan.triggerCount = ((article.pages.filter Page.pinnable).flatMap Page.components).length := by
  have bound := (perm_boundIds compiled).length_eq
  rw [List.length_map, length_boundIds] at bound
  exact bound

end Article

/-! ## Statistics -/

/-- What the statistics on an article count: pages, frames and components of the article, bindings
and pins of its plan, and calls in the text of its program. -/
structure Statistics.Counts (statistics : Statistics) (article : Article) (plan : Plan)
    (script : String) : Prop where
  pages : statistics.pages = article.pages.length
  frames : statistics.frames = (article.pages.flatMap Page.frames).length
  texts : statistics.texts = article.components.countP (·.isText)
  images : statistics.images = article.components.countP (·.isImage)
  components : statistics.texts + statistics.images = article.componentCount
  triggers : statistics.triggers =
    ((article.pages.filter (·.pinnable)).flatMap Page.components).length
  bindings : statistics.triggers = plan.triggerCount
  timelines : statistics.triggers = occurrences "gsap.timeline(\x7b" script
  pinnedPages : statistics.pinnedPages = article.pages.countP Page.isPinned
  pins : statistics.pinnedPages = plan.pinCount
  calls : statistics.pinnedPages = occurrences "ScrollTrigger.create(\x7b" script

/-- All numbers fit into 32 bits. -/
def Statistics.Fits (statistics : Statistics) : Prop :=
  ∀ n ∈ [statistics.pages, statistics.pinnedPages, statistics.frames, statistics.texts,
    statistics.images, statistics.triggers], n < twoTo 32

namespace Article

variable {article : Article} {parse : ParseSettings} {settings : CompileSettings} {plan : Plan}

/-- The names in the program of an accepted article mean nothing to the scanner. -/
theorem isQuiet_blocks {read : Except Json.Fault Article}
    (accepted : parse.accept read = .ok article) (compiled : article.compile settings = .ok plan)
    {scroller : Option String} (selector : ∀ selector ∈ scroller, Script.Quiet selector)
    (trace : Bool) :
    ∀ page ∈ plan.pages, ∀ block ∈ page.blocks scroller trace, block.IsQuiet := by
  have well := wellFormed_of_accept accepted
  intro pagePlan member
  obtain ⟨page, inside, i, compiled⟩ := exists_page_of_compile compiled member
  exact (well.pages page inside).isQuiet_blocks compiled selector trace

/-- The statistics count what is in the article, in its plan and in the text of its program. -/
theorem counts_of_compile {read : Except Json.Fault Article}
    (accepted : parse.accept read = .ok article) (compiled : article.compile settings = .ok plan)
    {scroller : Option String} (selector : ∀ selector ∈ scroller, Script.Quiet selector) :
    (Statistics.of article plan).Counts article plan (plan.script scroller) := by
  have quiet := isQuiet_blocks accepted compiled selector plan.traceCallbacks
  have types : (fun c : Component => !c.isImage) = fun c => c.isText := by
    funext c
    rw [Component.isImage, Component.isText]
    cases c.type <;> rfl
  have components : article.components.countP (!·.isImage) + article.components.countP (·.isImage) =
      article.componentCount := by
    rw [componentCount, List.length_eq_countP_add_countP Component.isImage, Nat.add_comm]
    simp
  exact {
    pages := rfl
    frames := rfl
    texts := congrArg article.components.countP types
    images := rfl
    components := components
    triggers := triggerCount_of_compile compiled
    bindings := rfl
    timelines := (Plan.occurrences_timeline quiet).symm
    pinnedPages := pinCount_of_compile compiled
    pins := rfl
    calls := (Plan.occurrences_create quiet).symm }

end Article

/-- No number is bigger than those of the pages, of the frames and of the components. -/
theorem Statistics.Counts.fits {statistics : Statistics} {article : Article} {plan : Plan}
    {script : String} (counts : statistics.Counts article plan script)
    (pages : article.pages.length < twoTo 32)
    (frames : (article.pages.flatMap Page.frames).length < twoTo 32)
    (components : article.componentCount < twoTo 32) : statistics.Fits := by
  have pinned : statistics.pinnedPages ≤ article.pages.length :=
    counts.pinnedPages ▸ List.countP_le_length
  have triggers : statistics.triggers ≤ article.componentCount := by
    rw [counts.triggers]
    exact (List.filter_sublist.flatMap Page.components).length_le
  have types := counts.components
  simp only [Statistics.Fits, List.forall_mem_cons, counts.pages, counts.frames]
  refine ⟨pages, ?_, frames, ?_, ?_, ?_, List.forall_mem_nil _⟩ <;> omega

namespace Article

variable {article : Article}

/-- **Statistics agree with the article, its plan and its program.** An accepted article that has
artifacts has a plan. Pages and frames are counted as they are, and components by their types. The
triggers are the components on pages that are held in place, and the pinned pages are those of these
pages that have a component; both are as many as the calls with which their blocks begin in the text
of the program, if the class of the element that scrolls is an identifier or there is none. No
number is too big for 32 bits if there are not too many pages, frames or components. -/
theorem statistics_counts {parse : ParseSettings} {read : Except Json.Fault Article}
    (accepted : parse.accept read = .ok article) {settings : CompileSettings}
    {render : RenderSettings} {bundle : Bundle}
    (rendered : article.render settings render = .ok bundle)
    (scroller : ∀ name, render.scrollerClass = some name → isIdentifier name = true) :
    ∃ plan, article.compile settings = .ok plan ∧
      bundle.statistics.Counts article plan (plan.script render.scrollerSelector?) ∧
      (article.pages.length < twoTo 32 →
        (article.pages.flatMap Page.frames).length < twoTo 32 →
          article.componentCount < twoTo 32 → bundle.statistics.Fits) := by
  obtain ⟨plan, compiled, rendered⟩ := of_bind_ok rendered
  obtain ⟨_, _, _, _, made⟩ := exists_artifacts compiled render
  rw [made] at rendered
  cases rendered
  have counts := counts_of_compile accepted compiled
    (RenderSettings.quiet_scrollerSelector? scroller)
  exact ⟨plan, compiled, counts, counts.fits⟩

/-- The statistics on two pages, one of them held in place, count one timeline and one pin. -/
theorem statistics_counts_halfPinned :
    ∃ bundle plan, ParseSettings.accept {} (.ok halfPinned) = .ok halfPinned.stamp ∧
      halfPinned.stamp.render { traceCallbacks := true } {} = .ok bundle ∧
      halfPinned.stamp.compile { traceCallbacks := true } = .ok plan ∧
      (∀ name, (RenderSettings.scrollerClass {}) = some name → isIdentifier name = true) ∧
      bundle.statistics.Counts halfPinned.stamp plan (plan.script (some ".scroller")) ∧
      bundle.statistics.triggers = 1 ∧ bundle.statistics.pinnedPages = 1 := by
  have accepted : ParseSettings.accept {} (.ok halfPinned) = .ok halfPinned.stamp := rfl
  have none : failure? (halfPinned.stamp.compile { traceCallbacks := true }) = none := rfl
  obtain ⟨bundle, rendered⟩ := failure?_eq_none.mp ((failure?_render _ _ {}).trans none)
  have scroller : ∀ name, (RenderSettings.scrollerClass {}) = some name →
      isIdentifier name = true := by
    intro name given
    cases given
    decide
  obtain ⟨plan, compiled, counts, _⟩ := statistics_counts accepted rendered scroller
  exact ⟨bundle, plan, accepted, rendered, compiled, scroller, counts, counts.triggers,
    counts.pinnedPages⟩

end Article

end ScrollStory
