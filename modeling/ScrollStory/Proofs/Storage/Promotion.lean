import ScrollStory.Proofs.Storage.Swap

/-!
# All artifacts or none

Promoting staged artifacts swaps them in one after another. If all swaps go well every artifact is
in its place; if one is refused those before it are undone, and nothing has changed outside the
staging area (`ScrollStory.DirectoryStore.of_promote`).
-/

namespace ScrollStory

open FileTree (Grown Keeps IsStep destination)

namespace DirectoryStore

/-! ## Undoing a swap -/

section Undo

variable {source target kept : Path} {origin place shelf : Location}
  {before first second after : FileTree} {swap : Swap} {done : Bool}

/-- A swap that went well has moved a file. -/
theorem Swapped.moved (swapped : Swapped target kept origin place shelf before first swap)
    (went : swap ≠ .refused) :
    ∃ content, before.occupant? origin = some (.file content) ∧
      first.occupant? place = some (.file content) ∧ first.locate target = some place ∧
      ∀ location, location ≠ origin → location ≠ place → location ≠ shelf →
        Grown location before first := by
  cases swap with
  | refused => exact (went rfl).elim
  | added =>
      obtain ⟨content, moved, _, located, arrived, others⟩ := swapped
      exact ⟨content, moved, arrived, located, fun location a b _ => others location a b⟩
  | replaced =>
      obtain ⟨content, _, moved, _, located, _, arrived, _, others⟩ := swapped
      exact ⟨content, moved, arrived, located, others⟩

/-- A swap that is undone leaves in place what was there before it. -/
theorem of_undo (leads : Leads source target kept origin place shelf)
    (swapped : Swapped target kept origin place shelf before first swap) (went : swap ≠ .refused)
    (keeps : Keeps first second) (inPlace : Grown place first second)
    (onShelf : Grown shelf first second)
    (run : (do let _ ← FileAccess.removeFile target
               restore swap target kept
               return false : StateM FileTree Bool).run second = (done, after)) :
    done = false ∧ Keeps second after ∧ after.occupant? place = before.occupant? place ∧
      ∀ location, location ≠ place → location ≠ shelf →
        after.occupant? location = second.occupant? location := by
  obtain ⟨content, _, arrived, located, _⟩ := swapped.moved went
  have located := keeps.locate located
  have there := (inPlace.file_iff content).mpr arrived
  obtain ⟨removed, third, removing, run₁⟩ := of_run_bind run
  obtain ⟨keeps', holds⟩ := FileTree.of_removeFile located there
  have removing : FileTree.removeFile target second = (removed, third) := removing
  rw [removing] at keeps' holds
  have empty : third.occupant? place = none := by
    rw [holds, if_pos rfl]
  cases swap with
  | refused => exact (went rfl).elim
  | added =>
      cases run₁
      obtain ⟨_, _, vacant, _⟩ := swapped
      refine ⟨rfl, keeps', empty.trans vacant.symm, fun location apart _ => ?_⟩
      rw [holds, if_neg apart]
  | replaced =>
      obtain ⟨_, old, _, found, _, aside, _, saved, _⟩ := swapped
      obtain ⟨_, fourth, restoring, run₂⟩ := of_run_bind run₁
      cases run₂
      -- The file that was kept aside is still there, and its place is free again.
      have saved : third.occupant? shelf = some (.file old) := by
        rw [holds, if_neg leads.place_ne_shelf.symm]
        exact (onShelf.file_iff old).mpr saved
      obtain ⟨keeps₂, returned, others⟩ := of_restore leads (keeps'.locate located)
        (keeps'.locate (keeps.locate aside)) saved empty restoring
      refine ⟨rfl, keeps'.trans keeps₂, returned.trans found.symm, fun location apart apart' => ?_⟩
      rw [others location apart apart', holds, if_neg apart]

end Undo

/-! ## The locations of an article -/

/-- Where an artifact stands. -/
def placeOf (base : Location) (kind : ArtifactKind) : Location := base ++ kind.steps

/-- Where an artifact is staged. -/
def originOf (base : Location) (kind : ArtifactKind) : Location := base ++ stagingName :: kind.steps

/-- Where an artifact waits that is replaced. -/
def shelfOf (base : Location) (kind : ArtifactKind) : Location :=
  base ++ stagingName :: ".old" :: kind.steps

section Locations

variable {base : Location} {kind other : ArtifactKind}

theorem placeOf_inj (same : placeOf base kind = placeOf base other) : kind = other := by
  have steps := List.append_cancel_left same
  revert steps
  cases kind <;> cases other <;> decide

theorem originOf_inj (same : originOf base kind = originOf base other) : kind = other := by
  have steps := (List.cons.inj (List.append_cancel_left same)).2
  revert steps
  cases kind <;> cases other <;> decide

theorem shelfOf_inj (same : shelfOf base kind = shelfOf base other) : kind = other := by
  have steps := (List.cons.inj (List.cons.inj (List.append_cancel_left same)).2).2
  revert steps
  cases kind <;> cases other <;> decide

theorem placeOf_ne_originOf : placeOf base kind ≠ originOf base other := by
  intro same
  have steps := List.append_cancel_left same
  revert steps
  cases kind <;> cases other <;> decide

theorem placeOf_ne_shelfOf : placeOf base kind ≠ shelfOf base other := by
  intro same
  have steps := List.append_cancel_left same
  revert steps
  cases kind <;> cases other <;> decide

theorem originOf_ne_shelfOf : originOf base kind ≠ shelfOf base other := by
  intro same
  have steps := (List.cons.inj (List.append_cancel_left same)).2
  revert steps
  cases kind <;> cases other <;> decide

end Locations

/-! ## Promoting -/

/-- The paths of every artifact lead to its locations. -/
def LeadsAll (staging directory : Path) (base : Location) : Prop :=
  ∀ kind : ArtifactKind,
    Leads (staging.below kind.steps) (directory.below kind.steps)
      ((staging.child ".old").below kind.steps)
      (originOf base kind) (placeOf base kind) (shelfOf base kind)

theorem isStep_of_mem_steps {kind : ArtifactKind} {name : String} (member : name ∈ kind.steps) :
    IsStep name := by
  cases kind <;> simp only [ArtifactKind.steps, List.mem_cons, List.not_mem_nil, or_false] at member
  · subst member
    exact ⟨by decide, rfl⟩
  · rcases member with rfl | rfl <;> exact ⟨by decide, rfl⟩
  · rcases member with rfl | rfl <;> exact ⟨by decide, rfl⟩

theorem isStep_stagingName : IsStep stagingName := ⟨by decide, rfl⟩

/-- The paths of artifacts lead to their locations below where the directory leads. -/
theorem leadsAll_of_destination {directory : Path} {base : Location}
    (located : destination directory = some base) :
    LeadsAll (directory.child stagingName) directory base := by
  intro kind
  have steps : ∀ name ∈ kind.steps, IsStep name := fun _ => isStep_of_mem_steps
  have kept : IsStep ".old" := ⟨by decide, rfl⟩
  refine ⟨?_, ?_, ?_, placeOf_ne_originOf.symm, originOf_ne_shelfOf, placeOf_ne_shelfOf⟩
  · rw [FileTree.destination_below steps, FileTree.destination_child isStep_stagingName, located]
    rw [Option.map_some, Option.map_some, List.append_assoc]
    rfl
  · rw [FileTree.destination_below steps, located]
    rfl
  · rw [FileTree.destination_below steps, FileTree.destination_child kept,
      FileTree.destination_child isStep_stagingName, located]
    rw [Option.map_some, Option.map_some, Option.map_some, List.append_assoc, List.append_assoc]
    rfl

/-- A location where artifacts are neither staged nor kept. -/
def Unstaged (base : Location) (kinds : List ArtifactKind) (location : Location) : Prop :=
  ∀ kind ∈ kinds, location ≠ originOf base kind ∧ location ≠ shelfOf base kind

/-- What promoting artifacts did, by its result. -/
structure Promoted (base : Location) (kinds : List ArtifactKind) (before after : FileTree)
    (done : Bool) : Prop where
  keeps : Keeps before after
  /-- All staged artifacts are in their places. -/
  arrived : done = true → ∀ kind ∈ kinds, ∃ content,
    before.occupant? (originOf base kind) = some (.file content) ∧
    after.occupant? (placeOf base kind) = some (.file content)
  others : ∀ location, Unstaged base kinds location →
    (done = true → ∀ kind ∈ kinds, location ≠ placeOf base kind) → Grown location before after

section Promoting

variable {staging directory : Path} {base location : Location} {kind : ArtifactKind}
  {rest : List ArtifactKind} {swap : Swap} {tree first second after : FileTree} {done : Bool}

theorem Unstaged.tail (unstaged : Unstaged base (kind :: rest) location) :
    Unstaged base rest location :=
  fun other member => unstaged other (List.mem_cons_of_mem kind member)

theorem unstaged_placeOf : Unstaged base rest (placeOf base kind) :=
  fun _ _ => ⟨placeOf_ne_originOf, placeOf_ne_shelfOf⟩

/-- The shelf of an artifact is no location of the others. -/
theorem unstaged_shelfOf (fresh : kind ∉ rest) : Unstaged base rest (shelfOf base kind) := by
  intro other member
  refine ⟨originOf_ne_shelfOf.symm, fun same => ?_⟩
  cases shelfOf_inj same
  exact fresh member

/-- The swap of one artifact. -/
abbrev SwapsOf (staging directory : Path) (base : Location) (kind : ArtifactKind)
    (before after : FileTree) (swap : Swap) : Prop :=
  Swapped (directory.below kind.steps) ((staging.child ".old").below kind.steps)
    (originOf base kind) (placeOf base kind) (shelfOf base kind) before after swap

/-- An artifact that was swapped in before all others went well stays in its place. -/
theorem promoted_cons (fresh : kind ∉ rest) (keeps : Keeps tree first)
    (swapped : SwapsOf staging directory base kind tree first swap) (went : swap ≠ .refused)
    (later : Promoted base rest first after true) :
    Promoted base (kind :: rest) tree after true := by
  obtain ⟨content, moved, arrived, _, others⟩ := swapped.moved went
  refine ⟨keeps.trans later.keeps, fun _ other member => ?_, fun location unstaged away => ?_⟩
  · rcases List.mem_cons.mp member with rfl | member
    · have stays := later.others (placeOf base other) unstaged_placeOf fun _ next member same => by
        cases placeOf_inj same
        exact fresh member
      exact ⟨content, moved, (stays.file_iff content).mpr arrived⟩
    · obtain ⟨content, staged, arrived⟩ := later.arrived rfl other member
      have apart : originOf base other ≠ originOf base kind := by
        intro same
        cases originOf_inj same
        exact fresh member
      have stays := others (originOf base other) apart placeOf_ne_originOf.symm originOf_ne_shelfOf
      exact ⟨content, (stays.file_iff content).mp staged, arrived⟩
  · have own := unstaged kind List.mem_cons_self
    have swapped := others location own.1 (away rfl kind List.mem_cons_self) own.2
    exact swapped.trans (later.others location unstaged.tail fun _ next member =>
      away rfl next (List.mem_cons_of_mem kind member))

/-- An artifact whose swap is undone because a later one was refused is as it was before. -/
theorem undone_cons (leads : LeadsAll staging directory base) (fresh : kind ∉ rest)
    (keeps : Keeps tree first)
    (swapped : SwapsOf staging directory base kind tree first swap) (went : swap ≠ .refused)
    (later : Promoted base rest first second false)
    (run : (do let _ ← FileAccess.removeFile (directory.below kind.steps)
               restore swap (directory.below kind.steps)
                 ((staging.child ".old").below kind.steps)
               return false : StateM FileTree Bool).run second = (done, after)) :
    Promoted base (kind :: rest) tree after done := by
  obtain ⟨_, _, _, _, others⟩ := swapped.moved went
  have inPlace := later.others (placeOf base kind) unstaged_placeOf nofun
  have onShelf := later.others (shelfOf base kind) (unstaged_shelfOf fresh) nofun
  obtain ⟨rfl, keeps', returned, same⟩ :=
    of_undo (leads kind) swapped went later.keeps inPlace onShelf run
  refine ⟨(keeps.trans later.keeps).trans keeps', nofun, fun location unstaged _ => ?_⟩
  by_cases here : location = placeOf base kind
  · rw [here]
    exact .inl returned
  · have own := unstaged kind List.mem_cons_self
    have swapped := others location own.1 here own.2
    have promoted := later.others location unstaged.tail nofun
    exact (swapped.trans promoted).trans (.inl (same location here own.2))

/-- Promoting artifacts does to a tree what `Promoted` says. The induction is on the artifacts: if
one of those behind the first cannot be promoted, the first is taken back. -/
theorem of_promote (leads : LeadsAll staging directory base) {kinds : List ArtifactKind}
    (nodup : kinds.Nodup)
    (run : (promote staging directory kinds : StateM FileTree Bool).run tree = (done, after)) :
    Promoted base kinds tree after done := by
  induction kinds generalizing tree after done with
  | nil =>
      cases run
      exact ⟨.refl tree, nofun, fun location _ _ => .refl location tree⟩
  | cons kind rest ih =>
      obtain ⟨fresh, nodup⟩ := List.nodup_cons.mp nodup
      obtain ⟨swap, first, swapping, run₁⟩ := of_run_bind run
      obtain ⟨keeps, swapped⟩ := of_swapIn (leads kind) swapping
      by_cases went : swap = .refused
      · subst went
        cases run₁
        refine ⟨keeps, nofun, fun location unstaged _ => ?_⟩
        exact swapped location (unstaged kind List.mem_cons_self).2
      -- The other two results go on in the same way.
      have run₁ : (do
          if ← promote staging directory rest then return true
          else
            let _ ← FileAccess.removeFile (directory.below kind.steps)
            restore swap (directory.below kind.steps) ((staging.child ".old").below kind.steps)
            return false : StateM FileTree Bool).run first = (done, after) := by
        cases swap with
        | refused => exact (went rfl).elim
        | added => exact run₁
        | replaced => exact run₁
      obtain ⟨promoted, second, promoting, run₂⟩ := of_run_bind run₁
      have later := ih nodup promoting
      cases promoted with
      | true =>
          cases run₂
          exact promoted_cons fresh keeps swapped went later
      | false => exact undone_cons leads fresh keeps swapped went later run₂

end Promoting

end DirectoryStore

end ScrollStory
