import ScrollStory.Proofs.Plan.Bindings
import ScrollStory.Proofs.Plan.Grouping

/-!
# Windows that tile a pin

The windows of the components of a slot follow each other from the first step of a page to the last
one of its longest slot: every component stays for a step, and the last one of a shorter slot until
the page is over. The scroll distance of the pin is therefore the distance at which the last window
of every slot ends (`ScrollStory.Article.windows_tile_pin`).
-/

namespace ScrollStory

/-- Windows that begin at one step, last a step at least, follow each other, and end at another
step. -/
def Tiles : Nat → List Timing → Nat → Prop
  | start, [], stop => start = stop
  | start, timing :: timings, stop =>
    timing.startLength = start ∧ 1 ≤ timing.endLength ∧
      Tiles (start + timing.endLength) timings stop

/-- The last window ends where the tiling ends. -/
theorem Tiles.last {start stop : Nat} {timings : List Timing} (tiles : Tiles start timings stop)
    {last : Timing} (final : timings.getLast? = some last) :
    last.startLength + last.endLength = stop := by
  induction timings generalizing start with
  | nil => cases final
  | cons timing timings ih =>
      obtain ⟨starts, _, others⟩ := tiles
      cases timings with
      | nil =>
          rw [List.getLast?_singleton] at final
          cases final
          rw [starts]
          exact others
      | cons next timings =>
          rw [List.getLast?_cons_cons] at final
          exact ih others final

/-! ## The windows of a slot -/

/-- A window lasts one step unless it is the last one of its slot. -/
theorem endLength_of_not_last {index length biggest : Nat} (earlier : index + 1 ≠ length) :
    endLength index length biggest = 1 :=
  if_pos (.inl earlier)

/-- The last component of a slot stays for what is left of the longest slot. -/
theorem endLength_last {index biggest : Nat} (fits : index + 1 ≤ biggest) :
    endLength index (index + 1) biggest = biggest - index := by
  unfold endLength
  split
  · rename_i short
    have longest : index + 1 = biggest := short.resolve_left fun differs => differs rfl
    omega
  · omega

/-- The windows of the components of a slot from the one at `first` on. -/
theorem tiles_windows {α : Type} {items : List α} {first biggest : Nat} (some : items ≠ [])
    (fits : first + items.length ≤ biggest) :
    Tiles first
      ((items.zipIdx first).map fun item => Timing.forSlot item.2 (first + items.length) biggest)
      biggest := by
  induction items generalizing first with
  | nil => exact (some rfl).elim
  | cons item items ih =>
      cases items with
      | nil =>
          have room : first + 1 ≤ biggest := fits
          have stays := endLength_last room
          refine ⟨rfl, ?_, ?_⟩
          · change 1 ≤ endLength first (first + 1) biggest
            omega
          · change first + endLength first (first + 1) biggest = biggest
            omega
      | cons next items =>
          have stays : endLength first (first + (item :: next :: items).length) biggest = 1 := by
            apply endLength_of_not_last
            simp only [List.length_cons]
            omega
          have shifted : first + 1 + (next :: items).length =
              first + (item :: next :: items).length := by
            simp only [List.length_cons]
            omega
          have others := ih (List.cons_ne_nil _ _) (shifted ▸ fits)
          rw [shifted] at others
          refine ⟨rfl, Nat.le_of_eq stays.symm, ?_⟩
          change Tiles (first + endLength first _ biggest) _ biggest
          rw [stays]
          exact others

/-- The windows of a group tile the steps up to the biggest group. -/
theorem Group.Bound.tiles {group : Group} {biggest : Nat} {block : List Binding}
    (bound : group.Bound biggest block) (occupied : group.entries ≠ [])
    (fits : group.entries.length ≤ biggest) : Tiles 0 (block.map Binding.timing) biggest := by
  have room : 0 + group.entries.length ≤ biggest := by rwa [Nat.zero_add]
  have windows := tiles_windows occupied room
  rw [Nat.zero_add] at windows
  rw [bound.timings]
  exact windows

/-! ## The pin -/

/-- A slot of the plan of a page is tiled: the bindings of its block stand for its components in
order, and their windows tile the steps of the page. -/
structure PagePlan.TilesSlot (plan : PagePlan) (slot : Slot) (ids : List String)
    (bindings : List Binding) : Prop where
  block : (⟨slot, ids⟩, bindings) ∈ plan.slotBlocks
  components : bindings.map Binding.componentId = ids
  windows : Tiles 0 (bindings.map Binding.timing) plan.biggestGroupSize

/-- Every occupied slot of a page that is held in place is tiled. -/
theorem Page.tiles_slot {page : Page} {pageIndex : Nat} {settings : CompileSettings}
    {plan : PagePlan} (compiled : page.compile pageIndex settings = .ok plan)
    (pinnable : page.pinnable = true) {slot : Slot} (occupied : page.slotEntries slot ≠ []) :
    ∃ bindings, plan.TilesSlot slot
      ((page.slotEntries slot).map fun entry => entry.component.id) bindings := by
  obtain ⟨blocks, bound, _, cut⟩ := blocks_of_compile compiled pinnable
  obtain ⟨bindings, placed, bound⟩ :=
    exists_zip_of_forall₂ Group.summary bound (mem_groups occupied)
  have biggest : plan.biggestGroupSize = Group.biggest page.groups := by
    obtain ⟨_, _, rfl⟩ := of_compile compiled
    rfl
  have fits := page.slotEntries_length_le slot
  exact ⟨bindings, cut ▸ placed, bound.components, bound.tiles occupied (biggest ▸ fits)⟩

/-- **Windows tile the pin.** On a page that is held in place and has components, the bindings fall
into blocks, one for every occupied slot, and the windows of a block follow each other without gap
or overlap from step zero to the length of the longest slot. The page has a pin whose distance is
that many steps, and if the steps of pins are not set apart, the last window of every block ends at
that distance. -/
theorem Article.windows_tile_pin {article : Article} {settings : CompileSettings} {plan : Plan}
    (compiled : article.compile settings = .ok plan) {i : Nat} {page : Page}
    (member : article.pages[i]? = some page) (pinnable : page.pinnable = true)
    (occupied : page.components ≠ []) :
    ∃ pagePlan pin, plan.pages[i]? = some pagePlan ∧ pagePlan.pageId = page.id ∧
      pagePlan.slotBlocks.flatMap Prod.snd = pagePlan.bindings ∧
      (∀ slot, (page.slotEntries slot).length ≤ pagePlan.biggestGroupSize) ∧
      (∃ slot, (page.slotEntries slot).length = pagePlan.biggestGroupSize) ∧
      pagePlan.pin = some pin ∧
      pin.distance = pagePlan.biggestGroupSize * pagePlan.pinStepPercent ∧
      ∀ slot, page.slotEntries slot ≠ [] →
        ∃ bindings last,
          pagePlan.TilesSlot slot ((page.slotEntries slot).map fun entry => entry.component.id)
            bindings ∧
          bindings.getLast? = some last ∧
          (settings.pinStepPercent = none →
            last.timing.startOffset pagePlan.stepPercent +
              last.timing.holdDistance pagePlan.stepPercent = pin.distance) := by
  obtain ⟨pagePlan, planned, compiled⟩ := of_compile compiled member
  obtain ⟨blocks, bound, bindings, cut⟩ := Page.blocks_of_compile compiled pinnable
  have tiled := @Page.tiles_slot page i settings pagePlan compiled pinnable
  obtain ⟨_, _, rfl⟩ := Page.of_compile compiled
  obtain ⟨slot, here⟩ := Page.exists_slotEntries occupied
  have positive : 0 < Group.biggest page.groups :=
    Nat.lt_of_lt_of_le (List.length_pos_iff.mpr here) (page.slotEntries_length_le slot)
  have joined : ((page.groups.map Group.summary).zip blocks).flatMap Prod.snd = blocks.flatten := by
    have lengths : blocks.length ≤ (page.groups.map Group.summary).length := by
      rw [List.length_map, bound.length_eq]
    rw [List.flatMap_def, List.map_snd_zip lengths]
  obtain ⟨longest, listed, attained⟩ :=
    Group.exists_eq_biggest (List.ne_nil_of_mem (Page.mem_groups here))
  refine ⟨_, ⟨page.id, Group.biggest page.groups, settings.pagePinStep page.stepPercent⟩, planned,
    rfl, ?_, page.slotEntries_length_le, ⟨longest.slot, ?_⟩, if_pos ⟨pinnable, positive⟩, rfl, ?_⟩
  · rw [cut, joined, bindings]
  · rw [← (Page.of_mem_groups listed).1]
    exact attained
  · intro slot here
    obtain ⟨bindings, tiles⟩ := tiled here
    have some : bindings ≠ [] := by
      rintro rfl
      exact here (List.map_eq_nil_iff.mp tiles.components.symm)
    have final := List.getLast?_eq_some_getLast some
    refine ⟨bindings, _, tiles, final, fun same => ?_⟩
    have ends := tiles.windows.last (by rw [List.getLast?_map, final]; rfl)
    -- Without a step for pins, windows and pin are measured in the step of the page.
    change _ = Group.biggest page.groups * settings.pagePinStep page.stepPercent
    rw [Timing.startOffset, Timing.holdDistance, ← Nat.add_mul, ends, CompileSettings.pagePinStep,
      same]
    rfl

/-- An article with a page whose right slot is shorter than its left one. -/
def Article.uneven : Article where
  id := "tale"
  pages := [{
    id := "steps"
    pinnable := true
    layout := { template := .leftRight }
    frames := [
      { id := "f1",
        components := [.ofText "steps-a" .left "fade" "a", .ofText "steps-b" .right "zoom" "b"] },
      { id := "f2", components := [.ofText "steps-c" .left "fade" "c"] }] }]

/-- A slot that is shorter than another one has a last window that lasts to the end of the pin. -/
theorem Article.windows_tile_pin_uneven :
    ∃ plan, uneven.compile {} = .ok plan ∧
      ∃ page, uneven.pages[0]? = some page ∧ page.pinnable = true ∧ page.components ≠ [] ∧
        ∃ pagePlan pin, plan.pages[0]? = some pagePlan ∧ pagePlan.pin = some pin ∧
          ∃ bindings, pagePlan.TilesSlot .right ["steps-b"] bindings := by
  have compiled : uneven.compile {} = .ok _ := rfl
  have member : uneven.pages[0]? = some _ := rfl
  obtain ⟨pagePlan, pin, planned, _, _, _, _, pinned, _, slots⟩ :=
    windows_tile_pin compiled member rfl (by decide)
  obtain ⟨bindings, _, tiles, _⟩ := slots .right (by decide)
  refine ⟨_, compiled, _, member, rfl, by decide, ?_⟩
  exact ⟨pagePlan, pin, planned, pinned, bindings, tiles⟩

end ScrollStory
