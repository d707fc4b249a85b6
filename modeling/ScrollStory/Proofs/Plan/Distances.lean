import Mathlib.Tactic.Positivity
import ScrollStory.Proofs.Article.WellFormed
import ScrollStory.Proofs.Decimal.Value
import ScrollStory.Proofs.Plan.Lookup
import ScrollStory.Proofs.Plan.Tiling

/-!
# Distances are positive and ordered

The steps of the compiler are one percent at least, whatever calls its settings come from, and so is
the step that an accepted page sets for itself. Every scroll distance of a plan is a positive number
of such steps, and every duration is the usual one or one that a component asks for, which is not
zero (`ScrollStory.Article.distances_positive`).
-/

namespace ScrollStory

namespace CompileSettings

/-! ## Settings from calls -/

/-- A call that changes one of the settings. -/
inductive Change where
  | stepPercent (percent : Nat)
  | pinStepPercent (percent : Nat)
  | durationMode (mode : DurationMode)
  | traceCallbacks (trace : Bool)
  | sequential

/-- The settings after a call. -/
def change (settings : CompileSettings) : Change → CompileSettings
  | .stepPercent percent => settings.withStepPercent percent
  | .pinStepPercent percent => settings.withPinStepPercent percent
  | .durationMode mode => settings.withDurationMode mode
  | .traceCallbacks trace => settings.withTraceCallbacks trace
  | .sequential => settings.sequential

/-- The settings after some calls, one after another. -/
def changeAll (settings : CompileSettings) (changes : List Change) : CompileSettings :=
  changes.foldl change settings

/-- The steps of some settings are one percent at least. -/
structure Positive (settings : CompileSettings) : Prop where
  step : 1 ≤ settings.stepPercent
  pinStep : ∀ percent ∈ settings.pinStepPercent, 1 ≤ percent

variable {settings : CompileSettings}

/-- No call takes the steps of settings below one percent. -/
theorem Positive.change (positive : settings.Positive) (change : Change) :
    (settings.change change).Positive := by
  cases change with
  | stepPercent percent => exact ⟨Nat.le_max_right _ _, positive.pinStep⟩
  | pinStepPercent percent =>
      refine ⟨positive.step, ?_⟩
      rintro _ ⟨⟩
      exact Nat.le_max_right _ _
  | durationMode mode => exact ⟨positive.step, positive.pinStep⟩
  | traceCallbacks trace => exact ⟨positive.step, positive.pinStep⟩
  | sequential => exact ⟨positive.step, positive.pinStep⟩

/-- No calls make a step zero. -/
theorem Positive.changeAll (positive : settings.Positive) (changes : List Change) :
    (settings.changeAll changes).Positive := by
  induction changes generalizing settings with
  | nil => exact positive
  | cons change changes ih => exact ih (positive.change change)

/-- The default steps are one percent at least. -/
theorem positive_default : Positive {} := by
  refine ⟨by decide, ?_⟩
  rintro _ ⟨⟩

variable {own : Option Nat}

/-- The step of a page is one percent at least, be it the page's own or that of the settings. -/
theorem Positive.pageStep (positive : settings.Positive) (valid : own ≠ some 0) :
    1 ≤ settings.pageStep own := by
  cases own with
  | none => exact positive.step
  | some percent => exact Nat.pos_of_ne_zero fun zero => valid (congrArg some zero)

/-- The step of a pin is one percent at least, be it the page's own or that of the settings. -/
theorem Positive.pagePinStep (positive : settings.Positive) (valid : own ≠ some 0) :
    1 ≤ settings.pagePinStep own := by
  unfold CompileSettings.pagePinStep
  cases same : settings.pinStepPercent with
  | none => exact positive.pageStep valid
  | some percent => exact positive.pinStep percent same

/-- An animation lasts as long as it asks for if durations are taken from there and it asks for one,
and else for the usual time. -/
theorem value_segmentSeconds (settings : CompileSettings) (milliseconds : Nat) :
    (settings.segmentSeconds milliseconds).value =
      if settings.durationMode = .fromAnimation ∧ 0 < milliseconds then (milliseconds : ℚ) / 1000
      else 33 / 100 := by
  have usual : usualSeconds.value = 33 / 100 := by
    rw [usualSeconds, Decimal.value_normal]
    norm_num
  unfold segmentSeconds
  cases mode : settings.durationMode with
  | fixed => simpa using usual
  | fromAnimation =>
      by_cases asked : 0 < milliseconds
      · simp only [asked, ↓reduceIte, Decimal.value_ofThousandths, and_self]
      · simpa only [asked, ↓reduceIte, and_false] using usual

/-- No change takes no time, whatever duration a component asks for. -/
theorem segmentSeconds_pos (settings : CompileSettings) (milliseconds : Nat) :
    0 < (settings.segmentSeconds milliseconds).value := by
  rw [value_segmentSeconds]
  split
  · rename_i asked
    have positive : (0 : ℚ) < milliseconds := by exact_mod_cast asked.2
    positivity
  · norm_num

end CompileSettings

/-- A script lasts as long as the settings say for the duration of its component. -/
theorem Component.seconds_of_script {c : Component} {visible : Bool} {settings : CompileSettings}
    {script : AnimationScript} (resolved : c.script visible settings = .ok script) :
    script.segmentSeconds = settings.segmentSeconds c.animation.duration := by
  unfold Component.script at resolved
  split at resolved
  · cases resolved
  · cases resolved
    rfl

/-! ## Windows in scroll distances -/

/-- Windows that follow each other, for a step of some percent: none of them is empty, and each
begins at the distance at which the one before it ends, which is farther than where that began. -/
structure Successive (step : Nat) (timings : List Timing) : Prop where
  holds : ∀ timing ∈ timings, 1 ≤ timing.holdDistance step
  increase : timings.Pairwise fun earlier later => earlier.startOffset step < later.startOffset step
  follow : timings.IsChain fun earlier later =>
    later.startOffset step = earlier.startOffset step + earlier.holdDistance step

theorem Successive.nil (step : Nat) : Successive step [] :=
  ⟨List.forall_mem_nil _, .nil, .nil⟩

section

variable {start stop step : Nat} {timings : List Timing}

/-- A window in a tiling lasts a step at least. -/
theorem Tiles.endLength_pos (tiles : Tiles start timings stop) {timing : Timing}
    (member : timing ∈ timings) : 1 ≤ timing.endLength := by
  induction timings generalizing start with
  | nil => cases member
  | cons first timings ih =>
      obtain ⟨_, stays, others⟩ := tiles
      rcases List.mem_cons.mp member with rfl | later
      · exact stays
      · exact ih others later

/-- No window in a tiling begins before the tiling does. -/
theorem Tiles.startLength_ge (tiles : Tiles start timings stop) {timing : Timing}
    (member : timing ∈ timings) : start ≤ timing.startLength := by
  induction timings generalizing start with
  | nil => cases member
  | cons first timings ih =>
      obtain ⟨starts, _, others⟩ := tiles
      rcases List.mem_cons.mp member with rfl | later
      · exact Nat.le_of_eq starts.symm
      · exact Nat.le_trans (Nat.le_add_right _ _) (ih others later)

/-- A later window of a tiling begins farther down. -/
theorem Tiles.pairwise (tiles : Tiles start timings stop) (positive : 1 ≤ step) :
    timings.Pairwise fun earlier later => earlier.startOffset step < later.startOffset step := by
  induction timings generalizing start with
  | nil => exact .nil
  | cons first timings ih =>
      obtain ⟨starts, stays, others⟩ := tiles
      refine .cons (fun later member => ?_) (ih others)
      have behind := others.startLength_ge member
      exact Nat.mul_lt_mul_of_pos_right (by omega) positive

/-- A window of a tiling begins where the one before it ends, also in percent. -/
theorem Tiles.isChain (tiles : Tiles start timings stop) :
    timings.IsChain fun earlier later =>
      later.startOffset step = earlier.startOffset step + earlier.holdDistance step := by
  induction timings generalizing start with
  | nil => exact .nil
  | cons first timings ih =>
      obtain ⟨starts, _, others⟩ := tiles
      cases timings with
      | nil => exact .singleton _
      | cons next timings =>
          refine .cons_cons ?_ (ih others)
          rw [Timing.startOffset, others.1, ← starts, Nat.add_mul]
          rfl

/-- The windows of a tiling follow each other. -/
theorem Tiles.successive (tiles : Tiles start timings stop) (positive : 1 ≤ step) :
    Successive step timings :=
  ⟨fun _ member => Nat.mul_pos (tiles.endLength_pos member) positive, tiles.pairwise positive,
    tiles.isChain⟩

end

/-! ## The distances of a plan -/

/-- The plan of a page goes forward: its steps are not zero, its bindings fall into the blocks of
its slots, in which their windows follow each other, no change takes no time, and a pin holds the
page for some distance. -/
structure PagePlan.Advances (plan : PagePlan) : Prop where
  step : 1 ≤ plan.stepPercent
  pinStep : 1 ≤ plan.pinStepPercent
  holds : ∀ binding ∈ plan.bindings, 1 ≤ binding.timing.holdDistance plan.stepPercent
  seconds : ∀ binding ∈ plan.bindings, 0 < binding.script.segmentSeconds.value
  bindings : plan.slotBlocks.flatMap Prod.snd = plan.bindings
  components : plan.pinnable = true →
    ∀ block ∈ plan.slotBlocks, block.2.map Binding.componentId = block.1.componentIds
  windows : ∀ block ∈ plan.slotBlocks,
    Successive plan.stepPercent (block.2.map Binding.timing)
  pin : ∀ pin ∈ plan.pin, 1 ≤ pin.distance

/-- Of a pair in the views of one list and another one, the first is the view of what the second is
related to. -/
theorem exists_of_mem_zip_map {α β γ : Type} {relation : α → β → Prop} {view : α → γ} {as : List α}
    {bs : List β} (related : List.Forall₂ relation as bs) {c : γ} {b : β}
    (member : (c, b) ∈ (as.map view).zip bs) : ∃ a ∈ as, view a = c ∧ relation a b := by
  induction related with
  | nil => cases member
  | @cons first _ _ _ agrees _ ih =>
      rcases List.mem_cons.mp member with same | later
      · obtain ⟨rfl, rfl⟩ := Prod.mk.inj same
        exact ⟨first, List.mem_cons_self, rfl, agrees⟩
      · obtain ⟨a, inside, viewed, agrees⟩ := ih later
        exact ⟨a, List.mem_cons_of_mem _ inside, viewed, agrees⟩

namespace Page

variable {page : Page} {pageIndex : Nat} {settings : CompileSettings} {plan : PagePlan}

/-- The blocks of a plan hold its bindings. -/
theorem flatMap_slotBlocks (compiled : page.compile pageIndex settings = .ok plan) :
    plan.slotBlocks.flatMap Prod.snd = plan.bindings := by
  cases pinnable : page.pinnable with
  | true =>
      obtain ⟨blocks, bound, bindings, cut⟩ := blocks_of_compile compiled pinnable
      have lengths : blocks.length ≤ (page.groups.map Group.summary).length := by
        rw [List.length_map, bound.length_eq]
      rw [cut, List.flatMap_def, List.map_snd_zip lengths, bindings]
  | false =>
      have none := bindings_of_compile compiled pinnable
      rw [PagePlan.slotBlocks, List.flatMap_def, List.map_snd_zip (by simp), none]
      exact List.flatten_splitLengths _ _ (Nat.zero_le _)

/-- A block of a page that is held in place holds the bindings of its slot, whose windows tile the
steps of the page. -/
theorem tiles_of_mem_slotBlocks (compiled : page.compile pageIndex settings = .ok plan)
    (pinnable : page.pinnable = true) {block : SlotSummary × List Binding}
    (member : block ∈ plan.slotBlocks) :
    block.2.map Binding.componentId = block.1.componentIds ∧
      Tiles 0 (block.2.map Binding.timing) plan.biggestGroupSize := by
  obtain ⟨blocks, bound, _, cut⟩ := blocks_of_compile compiled pinnable
  have biggest : plan.biggestGroupSize = Group.biggest page.groups := by
    obtain ⟨_, _, rfl⟩ := of_compile compiled
    rfl
  rw [cut] at member
  obtain ⟨group, inPage, same, bound⟩ := exists_of_mem_zip_map bound member
  have fits := Group.length_le_biggest inPage
  refine ⟨?_, bound.tiles (of_mem_groups inPage).2 (biggest ▸ fits)⟩
  rw [bound.components, ← same]
  rfl

/-- The windows of a block follow each other; a page that is not held in place has empty blocks. -/
theorem successive_of_mem_slotBlocks (compiled : page.compile pageIndex settings = .ok plan)
    (positive : 1 ≤ plan.stepPercent) {block : SlotSummary × List Binding}
    (member : block ∈ plan.slotBlocks) :
    Successive plan.stepPercent (block.2.map Binding.timing) := by
  cases pinnable : page.pinnable with
  | true => exact (tiles_of_mem_slotBlocks compiled pinnable member).2.successive positive
  | false =>
      have none := flatMap_slotBlocks compiled
      rw [bindings_of_compile compiled pinnable, List.flatMap_eq_nil_iff] at none
      rw [none block member]
      exact .nil _

/-- A binding lasts as long as the settings say for its component. -/
theorem segmentSeconds_of_compile (compiled : page.compile pageIndex settings = .ok plan)
    {binding : Binding} (member : binding ∈ plan.bindings) :
    ∃ entry ∈ page.entries, binding.componentId = entry.component.id ∧
      binding.script.segmentSeconds =
        settings.segmentSeconds entry.component.animation.duration := by
  obtain ⟨entry, inside, _, _, _, bound⟩ := exists_bind_of_compile compiled member
  obtain ⟨script, resolved, rfl⟩ := Entry.of_bind bound
  exact ⟨entry, inside, rfl, Component.seconds_of_script resolved⟩

/-- A pin is there only for a page with components, and holds it for the steps of its biggest slot.
-/
theorem distance_of_compile (compiled : page.compile pageIndex settings = .ok plan) {pin : Pin}
    (pinned : pin ∈ plan.pin) :
    0 < plan.biggestGroupSize ∧ pin.distance = plan.biggestGroupSize * plan.pinStepPercent := by
  obtain ⟨_, _, rfl⟩ := of_compile compiled
  dsimp only [Option.mem_def] at pinned
  split at pinned
  · rename_i held
    cases pinned
    exact ⟨held.2, rfl⟩
  · cases pinned

/-- A page is compiled to distances that go forward if no step is zero. -/
theorem advances_of_compile (compiled : page.compile pageIndex settings = .ok plan)
    (positive : settings.Positive) (own : page.stepPercent ≠ some 0) : plan.Advances := by
  have steps : plan.stepPercent = settings.pageStep page.stepPercent ∧
      plan.pinStepPercent = settings.pagePinStep page.stepPercent ∧
      plan.pinnable = page.pinnable := by
    obtain ⟨_, _, rfl⟩ := of_compile compiled
    exact ⟨rfl, rfl, rfl⟩
  obtain ⟨step, pinStep, pinnable⟩ := steps
  have step : 1 ≤ plan.stepPercent := step ▸ positive.pageStep own
  have pinStep : 1 ≤ plan.pinStepPercent := pinStep ▸ positive.pagePinStep own
  have windows : ∀ block ∈ plan.slotBlocks,
      Successive plan.stepPercent (block.2.map Binding.timing) :=
    fun _ listed => successive_of_mem_slotBlocks compiled step listed
  refine ⟨step, pinStep, ?_, ?_, flatMap_slotBlocks compiled, ?_, windows, ?_⟩
  · intro binding member
    rw [← flatMap_slotBlocks compiled] at member
    obtain ⟨block, listed, inside⟩ := List.mem_flatMap.mp member
    exact (windows block listed).holds _ (List.mem_map_of_mem inside)
  · intro binding member
    obtain ⟨entry, _, _, seconds⟩ := segmentSeconds_of_compile compiled member
    rw [seconds]
    exact settings.segmentSeconds_pos _
  · intro held block listed
    exact (tiles_of_mem_slotBlocks compiled (pinnable ▸ held) listed).1
  · intro pin pinned
    obtain ⟨some, distance⟩ := distance_of_compile compiled pinned
    rw [distance]
    exact Nat.mul_pos some pinStep

end Page

/-- **Distances are positive and ordered.** An accepted article that is compiled with settings from
any calls has a plan for every page whose steps are one percent at least. Every binding of it stays
for some distance and moves in some time, the bindings of every slot follow each other, and a pin
holds the page for some distance. -/
theorem Article.distances_positive {parse : ParseSettings} {read : Except Json.Fault Article}
    {article : Article} (accepted : parse.accept read = .ok article)
    (changes : List CompileSettings.Change) {plan : Plan}
    (compiled : article.compile (CompileSettings.changeAll {} changes) = .ok plan) :
    List.Forall₂ (fun page pagePlan => pagePlan.pageId = page.id ∧ pagePlan.Advances)
      article.pages plan.pages := by
  have well := Article.wellFormed_of_accept accepted
  have positive := CompileSettings.positive_default.changeAll changes
  have own : ∀ item ∈ article.pages.zipIdx, item.1.stepPercent ≠ some 0 := fun item member =>
    (well.pages item.1 (List.fst_mem_of_mem_zipIdx member)).step
  have each := (List.forall₂_and_left _ _).mpr ⟨own, forall₂_of_compile compiled⟩
  rw [← List.zipIdx_map_fst 0 article.pages, List.forall₂_map_left_iff]
  refine each.imp fun item pagePlan ⟨own, made⟩ => ⟨?_, Page.advances_of_compile made positive own⟩
  obtain ⟨_, _, rfl⟩ := Page.of_compile made
  rfl

/-- Steps of no percent are set to one, in whatever order they are set. -/
theorem Article.distances_positive_zeros :
    ∃ plan, ParseSettings.accept {} (.ok uneven) = .ok uneven.stamp ∧
      uneven.stamp.compile (CompileSettings.changeAll {}
        [.pinStepPercent 0, .sequential, .stepPercent 0, .durationMode .fromAnimation]) =
        .ok plan ∧
      ∃ pagePlan ∈ plan.pages, pagePlan.pageId = "steps" ∧ pagePlan.Advances ∧
        pagePlan.bindings.map (fun binding => binding.timing.holdDistance pagePlan.stepPercent) =
          [1, 1, 2] ∧
        pagePlan.pin.map Pin.distance = some 2 := by
  have accepted : ParseSettings.accept {} (.ok uneven) = .ok uneven.stamp := rfl
  have compiled : uneven.stamp.compile (CompileSettings.changeAll {}
      [.pinStepPercent 0, .sequential, .stepPercent 0, .durationMode .fromAnimation]) = .ok _ := rfl
  cases distances_positive accepted _ compiled with
  | cons first _ => exact ⟨_, accepted, compiled, _, List.mem_cons_self, first.1, first.2, rfl, rfl⟩

end ScrollStory
