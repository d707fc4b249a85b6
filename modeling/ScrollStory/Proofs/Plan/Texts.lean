import ScrollStory.Plan.Encode
import ScrollStory.Proofs.Article.RoundTrip
import ScrollStory.Proofs.Html.UniqueIds
import ScrollStory.Proofs.Json.Decimals
import ScrollStory.Proofs.Json.RoundTrip
import ScrollStory.Proofs.Plan.Distances

/-!
# Plans lose nothing in their text

The value of a plan has every field of the plan in it (`ScrollStory.Plan.toJson_injective`). The
numbers of a compiled plan survive their text, those of its durations although they are stored as
binary numbers where they are read. So both texts of a compiled plan are read as its value, and
compiled plans with one text are equal (`ScrollStory.Article.planText_faithful`).
-/

namespace ScrollStory

open Json (Format Number Read Value tokensOfString)

/-! ## The fields of a plan are in its value -/

theorem Timing.toJson_injective : Function.Injective Timing.toJson := by
  rintro ⟨start, stay⟩ ⟨start', stay'⟩ same
  simpa [toJson, Value.nat] using same

theorem Behavior.name_injective : Function.Injective Behavior.name := by
  intro behavior other same
  have named := congrArg ofName? same
  rwa [ofName?_name, ofName?_name, Option.some.injEq] at named

theorem AnimationScript.toJson_injective : Function.Injective AnimationScript.toJson := by
  rintro ⟨behavior, visible, seconds⟩ ⟨behavior', visible', seconds'⟩ same
  simpa [toJson, Behavior.name_injective.eq_iff] using same

theorem Binding.toJson_injective : Function.Injective Binding.toJson := by
  rintro ⟨component, page, frame, timing, script⟩ ⟨component', page', frame', timing', script'⟩ same
  simpa [toJson, Timing.toJson_injective.eq_iff, AnimationScript.toJson_injective.eq_iff] using same

theorem Pin.toJson_injective : Function.Injective Pin.toJson := by
  rintro ⟨page, steps, percent⟩ ⟨page', steps', percent'⟩ same
  simpa [toJson, Value.nat] using same

theorem SlotSummary.toJson_injective : Function.Injective SlotSummary.toJson := by
  rintro ⟨slot, ids⟩ ⟨slot', ids'⟩ same
  have strings : Function.Injective Value.string := fun _ _ => Value.string.inj
  simp only [toJson, Value.object.injEq, List.cons.injEq, Prod.mk.injEq, Value.string.injEq,
    Value.array.injEq, true_and, and_true, (List.map_injective_iff.mpr strings).eq_iff] at same
  rw [Slot.name_injective same.1, same.2]

theorem PagePlan.toJson_injective : Function.Injective PagePlan.toJson := by
  rintro ⟨page, pinnable, biggest, step, pinStep, slots, bindings, pin⟩
    ⟨page', pinnable', biggest', step', pinStep', slots', bindings', pin'⟩ same
  have slots := List.map_injective_iff.mpr SlotSummary.toJson_injective
  have bindings := List.map_injective_iff.mpr Binding.toJson_injective
  simp only [toJson, Value.nat, Value.object.injEq, List.cons.injEq, Prod.mk.injEq,
    Value.string.injEq, Value.bool.injEq, Value.number.injEq, Number.whole.injEq, Nat.cast_inj,
    Value.array.injEq, true_and, and_true, slots.eq_iff, bindings.eq_iff] at same
  obtain ⟨rfl, rfl, rfl, rfl, rfl, rfl, rfl, pins⟩ := same
  have pin : pin = pin' := by
    -- The value of a pin is an object, and that of no pin is not.
    cases pin <;> cases pin'
    · rfl
    · cases pins
    · cases pins
    · rw [Pin.toJson_injective pins]
  rw [pin]

/-- Plans with the same JSON value are the same. -/
theorem Plan.toJson_injective : Function.Injective Plan.toJson := by
  rintro ⟨article, trace, pages⟩ ⟨article', trace', pages'⟩ same
  have each := List.map_injective_iff.mpr PagePlan.toJson_injective
  simpa [toJson, each.eq_iff] using same

/-! ## The depth of a plan -/

theorem SlotSummary.depth_toJson (summary : SlotSummary) : summary.toJson.depth ≤ 2 := by
  have ids := Value.depth_array_le fun id (_ : id ∈ summary.componentIds) =>
    Nat.le_of_eq (show (Value.string id).depth = 0 from rfl)
  simp only [toJson, Value.depth, Value.depthOfMembers] at ids ⊢
  omega

theorem Binding.depth_toJson (binding : Binding) : binding.toJson.depth = 2 := rfl

theorem PagePlan.depth_toJson (plan : PagePlan) : plan.toJson.depth ≤ 4 := by
  obtain ⟨_, _, _, _, _, slots, bindings, pin⟩ := plan
  have deepSlots := Value.depth_array_le fun summary (_ : summary ∈ slots) => summary.depth_toJson
  have deepBindings := Value.depth_array_le fun binding (_ : binding ∈ bindings) =>
    Nat.le_of_eq binding.depth_toJson
  rw [Value.depth] at deepSlots deepBindings
  cases pin <;>
    simp only [toJson, Pin.toJson, Value.nat, Value.depth, Value.depthOfMembers] <;> omega

/-- There are at most six lists and objects around any part of a plan's JSON value. -/
theorem Plan.depth_toJson (plan : Plan) : plan.toJson.depth ≤ 6 := by
  have pages := Value.depth_array_le fun page (_ : page ∈ plan.pages) => page.depth_toJson
  rw [Value.depth] at pages
  simp only [toJson, Value.depth, Value.depthOfMembers]
  omega

/-! ## The numbers of a plan -/

/-- A duration is written with three places at most. -/
theorem CompileSettings.segmentSeconds_eq (settings : CompileSettings) {milliseconds : Nat}
    (fits : milliseconds < twoTo 32) :
    ∃ n k : Nat, 0 < n ∧ n < twoTo 32 ∧ k ≤ 3 ∧
      settings.segmentSeconds milliseconds = .normal false n (-k) := by
  have usual : ∃ n k : Nat, 0 < n ∧ n < twoTo 32 ∧ k ≤ 3 ∧
      usualSeconds = .normal false n (-k) :=
    ⟨33, 2, by decide, by decide, by decide, rfl⟩
  unfold segmentSeconds
  cases settings.durationMode with
  | fixed => exact usual
  | fromAnimation =>
      by_cases asked : 0 < milliseconds
      · rw [if_pos asked]
        exact ⟨milliseconds, 3, asked, fits, Nat.le_refl 3, rfl⟩
      · rw [if_neg asked]
        exact usual

/-- A duration in seconds survives its text. -/
theorem CompileSettings.survives_segmentSeconds (settings : CompileSettings) {milliseconds : Nat}
    (fits : milliseconds < twoTo 32) :
    (Number.decimal (settings.segmentSeconds milliseconds)).Survives := by
  obtain ⟨n, k, positive, few, places, seconds⟩ := settings.segmentSeconds_eq fits
  rw [seconds]
  exact ⟨Json.scannable_normal positive (few.trans (by decide)) (places.trans (by decide)),
    Json.readable_normal positive (few.trans (by decide)) (places.trans (by decide))⟩

/-- The numbers of the plan of a page survive their text: its counts and steps are stored in 64
bits, and its durations are read as they are written. -/
structure PagePlan.Survives (plan : PagePlan) : Prop where
  biggest : plan.biggestGroupSize < twoTo 64
  step : plan.stepPercent < twoTo 64
  pinStep : plan.pinStepPercent < twoTo 64
  starts : ∀ binding ∈ plan.bindings, binding.timing.startLength < twoTo 64
  stays : ∀ binding ∈ plan.bindings, binding.timing.endLength < twoTo 64
  seconds : ∀ binding ∈ plan.bindings, (Number.decimal binding.script.segmentSeconds).Survives
  pin : ∀ pin ∈ plan.pin, pin.steps < twoTo 64 ∧ pin.stepPercent < twoTo 64

/-- If the numbers of a page's plan survive, so do all numbers in its JSON value. -/
theorem PagePlan.Survives.everyNumber_toJson {plan : PagePlan} (survives : plan.Survives) :
    plan.toJson.EveryNumber Number.Survives := by
  have slots : (Value.array (plan.slots.map SlotSummary.toJson)).EveryNumber Number.Survives :=
    everyNumber_array fun summary _ =>
      ⟨trivial, everyNumber_array fun _ _ => everyNumber_string _, trivial⟩
  have bindings : (Value.array (plan.bindings.map Binding.toJson)).EveryNumber Number.Survives := by
    refine everyNumber_array fun binding member => ?_
    have start := Number.survives_nat (survives.starts binding member)
    have stay := Number.survives_nat (survives.stays binding member)
    have timing : binding.timing.toJson.EveryNumber Number.Survives := ⟨start, stay, trivial⟩
    have script : binding.script.toJson.EveryNumber Number.Survives :=
      ⟨trivial, trivial, survives.seconds binding member, trivial⟩
    exact ⟨trivial, trivial, trivial, timing, script, trivial⟩
  refine ⟨trivial, trivial, Number.survives_nat survives.biggest,
    Number.survives_nat survives.step, Number.survives_nat survives.pinStep, slots, bindings, ?_,
    trivial⟩
  cases pinned : plan.pin with
  | none => exact trivial
  | some pin =>
      obtain ⟨steps, percent⟩ := survives.pin pin pinned
      exact ⟨trivial, Number.survives_nat steps, Number.survives_nat percent, trivial⟩

/-! ## Compiled plans -/

/-- The steps of settings fit fields of 32 bits. -/
structure CompileSettings.InRange (settings : CompileSettings) : Prop where
  step : settings.stepPercent < twoTo 32
  pinStep : ∀ percent ∈ settings.pinStepPercent, percent < twoTo 32

section

variable {settings : CompileSettings} {own : Option Nat}

/-- The step of a page fits 32 bits. -/
theorem CompileSettings.InRange.pageStep (inRange : settings.InRange)
    (fits : ∀ percent ∈ own, percent < twoTo 32) : settings.pageStep own < twoTo 32 := by
  cases own with
  | none => exact inRange.step
  | some percent => exact fits percent rfl

/-- The step of a pin fits 32 bits. -/
theorem CompileSettings.InRange.pagePinStep (inRange : settings.InRange)
    (fits : ∀ percent ∈ own, percent < twoTo 32) : settings.pagePinStep own < twoTo 32 := by
  unfold CompileSettings.pagePinStep
  cases same : settings.pinStepPercent with
  | none => exact inRange.pageStep fits
  | some percent => exact inRange.pinStep percent same

end

section

variable {start stop : Nat} {timings : List Timing}

/-- A tiling does not end before it begins. -/
theorem Tiles.start_le_stop (tiles : Tiles start timings stop) : start ≤ stop := by
  induction timings generalizing start with
  | nil => exact Nat.le_of_eq tiles
  | cons first timings ih => exact Nat.le_trans (Nat.le_add_right _ _) (ih tiles.2.2)

/-- A window ends before the end of the tiling, or there. -/
theorem Tiles.end_le_stop (tiles : Tiles start timings stop) {timing : Timing}
    (member : timing ∈ timings) : timing.startLength + timing.endLength ≤ stop := by
  induction timings generalizing start with
  | nil => cases member
  | cons first timings ih =>
      obtain ⟨starts, _, others⟩ := tiles
      rcases List.mem_cons.mp member with rfl | later
      · rw [starts]
        exact others.start_le_stop
      · exact ih others later

end

namespace Page

variable {page : Page} {pageIndex : Nat} {settings : CompileSettings} {plan : PagePlan}

/-- No group is bigger than the page. -/
theorem biggest_le_length (page : Page) :
    Group.biggest page.groups ≤ page.components.length := by
  by_cases empty : page.groups = []
  · rw [empty]
    exact Nat.zero_le _
  · obtain ⟨group, member, longest⟩ := Group.exists_eq_biggest empty
    rw [← longest, (of_mem_groups member).1, ← component_entries, List.length_map]
    exact List.length_filter_le _ _

/-- A window of a binding is over at the end of the longest slot. -/
theorem end_le_biggest_of_compile (compiled : page.compile pageIndex settings = .ok plan)
    {binding : Binding} (member : binding ∈ plan.bindings) :
    binding.timing.startLength + binding.timing.endLength ≤ plan.biggestGroupSize := by
  cases pinnable : page.pinnable with
  | true =>
      rw [← flatMap_slotBlocks compiled] at member
      obtain ⟨block, listed, inside⟩ := List.mem_flatMap.mp member
      have tiles := (tiles_of_mem_slotBlocks compiled pinnable listed).2
      exact tiles.end_le_stop (List.mem_map_of_mem inside)
  | false =>
      rw [bindings_of_compile compiled pinnable] at member
      cases member

/-- The numbers in the plan of a page survive if those of the page and of the settings fit their
types. -/
theorem survives_of_compile (compiled : page.compile pageIndex settings = .ok plan)
    (numbers : page.InRange) (steps : settings.InRange)
    (counts : page.components.length < twoTo 64) : plan.Survives := by
  have biggest : plan.biggestGroupSize < twoTo 64 := by
    obtain ⟨_, _, rfl⟩ := of_compile compiled
    exact Nat.lt_of_le_of_lt page.biggest_le_length counts
  have wide : twoTo 32 < twoTo 64 := by decide
  have step : plan.stepPercent < twoTo 64 := by
    obtain ⟨_, _, rfl⟩ := of_compile compiled
    exact (steps.pageStep numbers.step).trans wide
  have pinStep : plan.pinStepPercent < twoTo 64 := by
    obtain ⟨_, _, rfl⟩ := of_compile compiled
    exact (steps.pagePinStep numbers.step).trans wide
  -- The windows are bounded by the longest slot, and the durations by those of the components.
  refine ⟨biggest, step, pinStep, ?_, ?_, ?_, ?_⟩
  · intro binding member
    have ends := end_le_biggest_of_compile compiled member
    omega
  · intro binding member
    have ends := end_le_biggest_of_compile compiled member
    omega
  · intro binding member
    obtain ⟨entry, inside, _, seconds⟩ := segmentSeconds_of_compile compiled member
    rw [seconds]
    apply settings.survives_segmentSeconds
    apply numbers.durations
    rw [← component_entries]
    exact List.mem_map_of_mem inside
  · intro pin pinned
    obtain ⟨_, _, rfl⟩ := of_compile compiled
    dsimp only [Option.mem_def] at pinned
    split at pinned
    · cases pinned
      exact ⟨biggest, pinStep⟩
    · cases pinned

end Page

namespace Article

variable {article : Article} {settings : CompileSettings} {plan : Plan}

/-- The numbers of an article and of settings fit their types, and the components of a page are
counted with 64 bits. -/
structure Fits (article : Article) (settings : CompileSettings) : Prop where
  inRange : article.InRange
  settings : settings.InRange
  counts : ∀ page ∈ article.pages, page.components.length < twoTo 64

/-- The numbers in a plan survive if those of the article and of the settings fit their types. -/
theorem survives_of_compile (fits : article.Fits settings)
    (compiled : article.compile settings = .ok plan) :
    plan.toJson.EveryNumber Number.Survives := by
  have pages : ∀ pagePlan ∈ plan.pages, pagePlan.Survives := by
    intro pagePlan member
    obtain ⟨pages, each, compiled⟩ := of_bind_ok compiled
    cases compiled
    obtain ⟨item, inside, compiled⟩ := exists_of_mem_mapM each member
    have inArticle := List.fst_mem_of_mem_zipIdx inside
    exact Page.survives_of_compile compiled (fits.inRange _ inArticle) fits.settings
      (fits.counts _ inArticle)
  exact ⟨trivial, trivial,
    everyNumber_array fun pagePlan member => (pages pagePlan member).everyNumber_toJson, trivial⟩

/-- **Plans lose nothing in their text.** Both texts of a compiled plan are read as its value, and
compiled plans with one text are equal. -/
theorem planText_faithful (fits : article.Fits settings)
    (compiled : article.compile settings = .ok plan) :
    (∀ format, Read.all (Value.read 0) (tokensOfString (plan.toJson.text format)) =
      .ok plan.toJson) ∧
    ∀ {article' : Article} {settings' : CompileSettings} {plan' : Plan},
      article'.Fits settings' → article'.compile settings' = .ok plan' →
      ∀ format, plan.toJson.text format = plan'.toJson.text format → plan = plan' := by
  have survives := survives_of_compile fits compiled
  have shallow : plan.toJson.depth ≤ Json.deepest := plan.depth_toJson.trans (by decide)
  refine ⟨fun format => Value.read_text format survives shallow, ?_⟩
  intro article' settings' plan' fits' compiled' format same
  have survives' := survives_of_compile fits' compiled'
  have shallow' : plan'.toJson.depth ≤ Json.deepest := plan'.depth_toJson.trans (by decide)
  exact Plan.toJson_injective (Value.eq_of_text survives shallow survives' shallow' same)

/-- An article with two components in one slot. -/
def pair (pinnable : Bool) (first second : String) : Article where
  id := "tale"
  pages := [{
    id := "steps"
    pinnable := pinnable
    layout := { template := .single }
    frames := [
      { id := "f1",
        components := [
          { id := first
            type := .text
            slot := .center
            animation := { transition := "fade", duration := 1250 } },
          .ofText second .center "zoom" "b"] }] }]

/-- The numbers of an article with a pair of components fit their types. -/
theorem fits_pair (pinnable : Bool) (first second : String) :
    (pair pinnable first second).Fits { durationMode := .fromAnimation } := by
  refine ⟨?_, ⟨by decide, fun percent given => by cases given⟩, ?_⟩
  · intro page member
    cases List.mem_singleton.mp member
    refine ⟨fun percent given => ?_, fun c placed => ?_⟩
    · cases given
    · rcases List.mem_pair.mp placed with rfl | rfl
      · exact (by decide : 1250 < twoTo 32)
      · exact (by decide : 0 < twoTo 32)
  · intro page member
    cases List.mem_singleton.mp member
    exact (by decide : 2 < twoTo 64)

/-- Quotes and commas in identifiers do not make one list of identifiers look like another one. -/
theorem planText_faithful_pair :
    let settings : CompileSettings := { durationMode := .fromAnimation }
    (∃ plan, (pair true "a" "b").Fits settings ∧ (pair true "a" "b").compile settings = .ok plan ∧
      Read.all (Value.read 0) (tokensOfString (plan.toJson.text .pretty)) = .ok plan.toJson) ∧
    ∃ plan plan', (pair false "a\",\"b" "c").compile settings = .ok plan ∧
      (pair false "a" "b\",\"c").compile settings = .ok plan' ∧
      plan.toJson.text .compact ≠ plan'.toJson.text .compact := by
  intro settings
  have compiled : (pair true "a" "b").compile settings = .ok _ := rfl
  have first : (pair false "a\",\"b" "c").compile settings = .ok _ := rfl
  have second : (pair false "a" "b\",\"c").compile settings = .ok _ := rfl
  refine ⟨⟨_, fits_pair _ _ _, compiled, (planText_faithful (fits_pair _ _ _) compiled).1 .pretty⟩,
    _, _, first, second, fun same => ?_⟩
  have plans := (planText_faithful (fits_pair _ _ _) first).2 (fits_pair _ _ _) second .compact same
  revert plans
  decide

end Article

end ScrollStory
