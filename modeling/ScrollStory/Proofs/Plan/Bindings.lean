import Mathlib.Data.List.SplitLengths
import ScrollStory.Plan.Compile
import ScrollStory.Proofs.Plan.Steps

/-!
# The bindings of a plan

What a page that compiles is compiled to: a block of bindings for every group, and in a block a
binding for every component (`ScrollStory.Page.of_compile`, `ScrollStory.Group.of_bind`). The
bindings of a plan are cut into these blocks again by the lengths of its slots
(`ScrollStory.PagePlan.slotBlocks`).
-/

namespace ScrollStory

/-! ## Lists that agree item by item -/

/-- What two lists agree on item by item they agree on as a whole. -/
theorem map_eq_of_forall₂ {α β γ : Type} {relation : α → β → Prop} {f : α → γ} {g : β → γ}
    (agree : ∀ a b, relation a b → f a = g b) {as : List α} {bs : List β}
    (related : List.Forall₂ relation as bs) : bs.map g = as.map f := by
  induction related with
  | nil => rfl
  | cons first _ ih => rw [List.map_cons, List.map_cons, agree _ _ first, ih]

/-- What stands in the first of two related lists is paired, by its view, with what it is related
to. -/
theorem exists_zip_of_forall₂ {α β γ : Type} {relation : α → β → Prop} (view : α → γ) {as : List α}
    {bs : List β} (related : List.Forall₂ relation as bs) {a : α} (member : a ∈ as) :
    ∃ b, (view a, b) ∈ (as.map view).zip bs ∧ relation a b := by
  induction related with
  | nil => cases member
  | @cons first b _ _ agrees _ ih =>
      rcases List.mem_cons.mp member with rfl | later
      · exact ⟨b, List.mem_cons_self, agrees⟩
      · obtain ⟨other, placed, agrees⟩ := ih later
        exact ⟨other, List.mem_cons_of_mem _ placed, agrees⟩

/-! ## Bindings -/

/-- A component is bound by its identifiers and its window to an animation that it asks for. -/
theorem Entry.of_bind {entry : Entry} {page : Page} {pageIndex index length biggest : Nat}
    {settings : CompileSettings} {binding : Binding}
    (bound : entry.bind page pageIndex settings index length biggest = .ok binding) :
    ∃ script,
      entry.component.script (pageIndex = 0 ∧ entry.frameIndex = 0) settings = .ok script ∧
      binding = ⟨entry.component.id, page.id, entry.frameId, .forSlot index length biggest,
        script⟩ := by
  obtain ⟨script, resolved, done⟩ := of_bind_ok bound
  cases done
  exact ⟨script, resolved, rfl⟩

/-- The bindings of a group stand for its components in order. -/
structure Group.Bound (group : Group) (biggest : Nat) (block : List Binding) : Prop where
  components : block.map Binding.componentId = group.entries.map fun entry => entry.component.id
  timings : block.map Binding.timing = group.entries.zipIdx.map fun item =>
    Timing.forSlot item.2 group.entries.length biggest

/-- A group that is bound has its components bound in order. -/
theorem Group.of_bind {group : Group} {page : Page} {pageIndex biggest : Nat}
    {settings : CompileSettings} {block : List Binding}
    (bound : group.bind page pageIndex settings biggest = .ok block) :
    group.Bound biggest block := by
  have each := mapM_eq_ok_iff.mp bound
  constructor
  · have listed : group.entries.map (fun entry => entry.component.id) =
        group.entries.zipIdx.map fun item => item.1.component.id := by
      rw [← List.zipIdx_map_fst 0 group.entries, List.map_map, List.zipIdx_map_fst]
      rfl
    rw [listed]
    refine map_eq_of_forall₂ (fun item binding made => ?_) each
    obtain ⟨script, _, rfl⟩ := Entry.of_bind made
    rfl
  · refine map_eq_of_forall₂ (fun item binding made => ?_) each
    obtain ⟨script, _, rfl⟩ := Entry.of_bind made
    rfl

/-- A group has as many bindings as entries. -/
theorem Group.Bound.length {group : Group} {biggest : Nat} {block : List Binding}
    (bound : group.Bound biggest block) : block.length = group.entries.length := by
  have same := congrArg List.length bound.components
  rwa [List.length_map, List.length_map] at same

/-- A page that compiles has a block of bindings for every group. -/
theorem Page.of_compile {page : Page} {pageIndex : Nat} {settings : CompileSettings}
    {plan : PagePlan} (compiled : page.compile pageIndex settings = .ok plan) :
    ∃ blocks,
      List.Forall₂ (fun group block => group.Bound (Group.biggest page.groups) block)
        page.groups blocks ∧
      plan = {
        pageId := page.id
        pinnable := page.pinnable
        biggestGroupSize := Group.biggest page.groups
        stepPercent := settings.pageStep page.stepPercent
        pinStepPercent := settings.pagePinStep page.stepPercent
        slots := page.groups.map Group.summary
        bindings := if page.pinnable then blocks.flatten else []
        pin := if page.pinnable ∧ 0 < Group.biggest page.groups then
          some ⟨page.id, Group.biggest page.groups, settings.pagePinStep page.stepPercent⟩
        else none } := by
  obtain ⟨groups, grouped, compiled⟩ := of_bind_ok compiled
  obtain ⟨blocks, bound, compiled⟩ := of_bind_ok compiled
  have same : groups = page.groups := by
    unfold group at grouped
    split at grouped <;> cases grouped
    rfl
  subst same
  cases compiled
  exact ⟨blocks, (mapM_eq_ok_iff.mp bound).imp fun _ _ => Group.of_bind, rfl⟩

/-- Every page of an article that is compiled has its plan at its own index. -/
theorem Article.of_compile {article : Article} {settings : CompileSettings} {plan : Plan}
    (compiled : article.compile settings = .ok plan) {i : Nat} {page : Page}
    (member : article.pages[i]? = some page) :
    ∃ pagePlan, plan.pages[i]? = some pagePlan ∧ page.compile i settings = .ok pagePlan := by
  obtain ⟨pages, each, compiled⟩ := of_bind_ok compiled
  cases compiled
  have related := mapM_eq_ok_iff.mp each
  have indexed : article.pages.zipIdx[i]? = some (page, i) := by
    rw [List.getElem?_zipIdx, member, Nat.zero_add]
    rfl
  obtain ⟨inside, at_i⟩ := List.getElem?_eq_some_iff.mp indexed
  have within : i < pages.length := related.length_eq ▸ inside
  have compiled := related.get inside within
  rw [List.get_eq_getElem, List.get_eq_getElem, at_i] at compiled
  exact ⟨pages[i], List.getElem?_eq_getElem within, compiled⟩

/-! ## Blocks of a plan -/

namespace PagePlan

/-- The slots of a plan with their bindings: the bindings are cut by the lengths of the slots. -/
def slotBlocks (plan : PagePlan) : List (SlotSummary × List Binding) :=
  plan.slots.zip
    ((plan.slots.map fun slot => slot.componentIds.length).splitLengths plan.bindings)

end PagePlan

/-- Cutting a list by the lengths of its parts gives the parts back. -/
theorem splitLengths_flatten {α : Type} (parts : List (List α)) :
    (parts.map List.length).splitLengths parts.flatten = parts := by
  induction parts with
  | nil => rfl
  | cons part parts ih =>
      rw [List.map_cons, List.splitLengths_cons, List.flatten_cons, List.take_left, List.drop_left,
        ih]

/-- The blocks of the plan of a page that is held in place are those of its groups. -/
theorem Page.blocks_of_compile {page : Page} {pageIndex : Nat} {settings : CompileSettings}
    {plan : PagePlan} (compiled : page.compile pageIndex settings = .ok plan)
    (pinnable : page.pinnable = true) :
    ∃ blocks,
      List.Forall₂ (fun group block => group.Bound plan.biggestGroupSize block) page.groups blocks ∧
      plan.bindings = blocks.flatten ∧
      plan.slotBlocks = (page.groups.map Group.summary).zip blocks := by
  obtain ⟨blocks, bound, rfl⟩ := of_compile compiled
  have lengths : ((page.groups.map Group.summary).map fun slot => slot.componentIds.length) =
      blocks.map List.length := by
    rw [List.map_map]
    refine (map_eq_of_forall₂ (fun group block bound => ?_) bound).symm
    rw [Function.comp_apply, Group.summary, List.length_map, bound.length]
  refine ⟨blocks, bound, if_pos pinnable, ?_⟩
  simp only [PagePlan.slotBlocks, pinnable, ↓reduceIte, lengths, splitLengths_flatten]

end ScrollStory
