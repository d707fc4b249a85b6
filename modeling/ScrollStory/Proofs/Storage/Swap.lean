import ScrollStory.Proofs.Storage.Operations
import ScrollStory.Storage.DirectoryStore

/-!
# Swaps that can be undone

A swap moves a file into place and keeps the one that was there. A swap that is refused changes
nothing but the place where the old file would be kept, and a swap that went well can be undone from
any tree in which the file in place and the one that is kept are untouched.
-/

namespace ScrollStory

open FileTree (Grown Keeps destination)

/-- A run of two programs is a run of the first and one of the second behind it. -/
theorem of_run_bind {σ α β : Type} {first : StateM σ α} {next : α → StateM σ β}
    {before after : σ} {b : β} (run : (first >>= next).run before = (b, after)) :
    ∃ a between, first.run before = (a, between) ∧ (next a).run between = (b, after) :=
  ⟨_, _, rfl, run⟩

namespace DirectoryStore

/-- Where the paths of a swap lead: three different locations. -/
structure Leads (source target kept : Path) (origin place shelf : Location) : Prop where
  source : destination source = some origin
  target : destination target = some place
  kept : destination kept = some shelf
  origin_ne_place : origin ≠ place
  origin_ne_shelf : origin ≠ shelf
  place_ne_shelf : place ≠ shelf

variable {source target kept : Path} {origin place shelf : Location}
  {before tree after : FileTree}

/-- What making room did, by its result. -/
def MadeRoom (target kept : Path) (place shelf : Location) (before after : FileTree) : Swap → Prop
  | .refused => ∀ location, Grown location before after
  | .added => after = before ∧ before.isFile target = false
  | .replaced => ∃ old,
      before.occupant? place = some (.file old) ∧
      after.locate target = some place ∧ after.locate kept = some shelf ∧
      after.occupant? place = none ∧ after.occupant? shelf = some (.file old) ∧
      ∀ location, location ≠ place → location ≠ shelf → Grown location before after

/-- Making room does to a tree what `MadeRoom` says, and keeps all directories. -/
theorem of_makeRoom (leads : Leads source target kept origin place shelf) {swap : Swap}
    (run : (makeRoom target kept : StateM FileTree Swap).run tree = (swap, after)) :
    Keeps tree after ∧ MadeRoom target kept place shelf tree after swap := by
  obtain ⟨there, tree', reading, run⟩ := of_run_bind run
  cases reading
  split at run
  · rename_i there
    obtain ⟨made, between, making, run⟩ := of_run_bind run
    obtain ⟨keeps, grown, _⟩ := FileTree.of_makeDirectories making
    cases made with
    | false =>
        cases run
        exact ⟨keeps, grown⟩
    | true =>
        obtain ⟨moved, later, moving, run⟩ := of_run_bind run
        cases moved with
        | false =>
            cases FileTree.move_refused moving
            cases run
            exact ⟨keeps, grown⟩
        | true =>
            cases run
            obtain ⟨_, old, found⟩ := FileTree.of_isFile leads.target there
            obtain ⟨content, start, stop, found', vacant, keeps', holds⟩ :=
              FileTree.of_move leads.target leads.kept moving
            rw [(grown place).file_iff] at found'
            cases found'.symm.trans found
            refine ⟨keeps.trans keeps', old, found, keeps'.locate start, keeps'.locate stop,
              ?_, ?_, fun location apart apart' => ?_⟩
            · rw [holds, if_neg leads.place_ne_shelf, if_pos rfl]
            · rw [holds, if_pos rfl]
            · refine (grown location).trans (.inl ?_)
              rw [holds, if_neg apart', if_neg apart]
  · rename_i absent
    cases run
    exact ⟨.refl tree, rfl, Bool.eq_false_iff.mpr absent⟩

/-- A file that is kept goes back to its place if nothing has been put there. -/
theorem of_restore (leads : Leads source target kept origin place shelf) {old : ByteArray}
    (back : tree.locate target = some place) (aside : tree.locate kept = some shelf)
    (saved : tree.occupant? shelf = some (.file old)) (empty : tree.occupant? place = none)
    (run : (restore .replaced target kept : StateM FileTree Unit).run tree = ((), after)) :
    Keeps tree after ∧ after.occupant? place = some (.file old) ∧
      ∀ location, location ≠ place → location ≠ shelf →
        after.occupant? location = tree.occupant? location := by
  rw [restore, if_pos rfl] at run
  obtain ⟨moved, between, moving, run⟩ := of_run_bind run
  cases run
  have done := FileTree.move_succeeds aside back saved (FileTree.not_isDirectory_of_none empty)
  have moving : FileTree.move kept target tree = (moved, after) := moving
  rw [moving] at done
  cases done
  obtain ⟨content, start, stop, found, _, keeps, holds⟩ :=
    FileTree.of_move leads.kept leads.target moving
  cases found.symm.trans saved
  refine ⟨keeps, ?_, fun location apart apart' => ?_⟩
  · rw [holds, if_pos rfl]
  · rw [holds, if_neg apart, if_neg apart']

/-- What a swap did, by its result. -/
def Swapped (target kept : Path) (origin place shelf : Location) (before after : FileTree) :
    Swap → Prop
  | .refused => ∀ location, location ≠ shelf → Grown location before after
  | .added => ∃ content,
      before.occupant? origin = some (.file content) ∧ before.occupant? place = none ∧
      after.locate target = some place ∧ after.occupant? place = some (.file content) ∧
      ∀ location, location ≠ origin → location ≠ place → Grown location before after
  | .replaced => ∃ content old,
      before.occupant? origin = some (.file content) ∧
      before.occupant? place = some (.file old) ∧
      after.locate target = some place ∧ after.locate kept = some shelf ∧
      after.occupant? place = some (.file content) ∧ after.occupant? shelf = some (.file old) ∧
      ∀ location, location ≠ origin → location ≠ place → location ≠ shelf →
        Grown location before after

/-- Directories that are made before a swap do not matter to what it did. -/
theorem Swapped.of_grown (grown : ∀ location, Grown location before tree) {swap : Swap}
    (swapped : Swapped target kept origin place shelf tree after swap) :
    Swapped target kept origin place shelf before after swap := by
  cases swap with
  | refused => exact fun location apart => (grown location).trans (swapped location apart)
  | added =>
      obtain ⟨content, moved, empty, located, arrived, others⟩ := swapped
      exact ⟨content, ((grown origin).file_iff content).mp moved, (grown place).none empty, located,
        arrived, fun location a b => (grown location).trans (others location a b)⟩
  | replaced =>
      obtain ⟨content, old, moved, found, located, aside, arrived, saved, others⟩ := swapped
      exact ⟨content, old, ((grown origin).file_iff content).mp moved,
        ((grown place).file_iff old).mp found, located, aside, arrived, saved,
        fun location a b c => (grown location).trans (others location a b c)⟩

/-- A file moves to a place where no file was. -/
theorem swapped_added (leads : Leads source target kept origin place shelf)
    (absent : tree.isFile target = false)
    (moving : FileTree.move source target tree = (true, after)) :
    Keeps tree after ∧ Swapped target kept origin place shelf tree after .added := by
  obtain ⟨content, start, stop, found, vacant, keeps, holds⟩ :=
    FileTree.of_move leads.source leads.target moving
  have empty := FileTree.none_of_not_isFile stop absent vacant
  refine ⟨keeps, content, found, empty, keeps.locate stop, ?_, fun location a b => .inl ?_⟩
  · rw [holds, if_pos rfl]
  · rw [holds, if_neg b, if_neg a]

/-- A file moves to a place where room was made for it. -/
theorem swapped_replaced (leads : Leads source target kept origin place shelf)
    (cleared : MadeRoom target kept place shelf before tree .replaced)
    (moving : FileTree.move source target tree = (true, after)) :
    Keeps tree after ∧ Swapped target kept origin place shelf before after .replaced := by
  obtain ⟨old, found, back, aside, _, saved, others⟩ := cleared
  obtain ⟨content, _, _, found', _, keeps, holds⟩ :=
    FileTree.of_move leads.source leads.target moving
  have stays := others origin leads.origin_ne_place leads.origin_ne_shelf
  have moved := (stays.file_iff content).mp found'
  refine ⟨keeps, content, old, moved, found, keeps.locate back, keeps.locate aside, ?_, ?_,
    fun location a b c => (others location b c).trans (.inl ?_)⟩
  · rw [holds, if_pos rfl]
  · rw [holds, if_neg leads.place_ne_shelf.symm, if_neg leads.origin_ne_shelf.symm]
    exact saved
  · rw [holds, if_neg b, if_neg a]

/-- If no file moves to where room was made, what was there comes back. -/
theorem swapped_refused (leads : Leads source target kept origin place shelf)
    (cleared : MadeRoom target kept place shelf before tree .replaced)
    (restoring : (restore .replaced target kept : StateM FileTree Unit).run tree = ((), after)) :
    Keeps tree after ∧ Swapped target kept origin place shelf before after .refused := by
  obtain ⟨old, found, back, aside, empty, saved, others⟩ := cleared
  obtain ⟨keeps, returned, same⟩ := of_restore leads back aside saved empty restoring
  refine ⟨keeps, fun location apart => ?_⟩
  by_cases here : location = place
  · rw [here]
    exact .inl (returned.trans found.symm)
  · exact (others location here apart).trans (.inl (same location here apart))

/-- A swap does to a tree what `Swapped` says, and keeps all directories. -/
theorem of_swapIn (leads : Leads source target kept origin place shelf) {swap : Swap}
    (run : (swapIn source target kept : StateM FileTree Swap).run tree = (swap, after)) :
    Keeps tree after ∧ Swapped target kept origin place shelf tree after swap := by
  obtain ⟨made, first, making, run₁⟩ := of_run_bind run
  obtain ⟨keeps, grown, _⟩ := FileTree.of_makeDirectories making
  -- It is enough to look at what happens once the directories are there.
  suffices swapped :
      Keeps first after ∧ Swapped target kept origin place shelf first after swap from
    ⟨keeps.trans swapped.1, swapped.2.of_grown grown⟩
  cases made with
  | false =>
      cases run₁
      exact ⟨.refl after, fun location _ => .refl location after⟩
  | true =>
      obtain ⟨room, second, clearing, run₂⟩ := of_run_bind run₁
      obtain ⟨keeps, cleared⟩ := of_makeRoom leads clearing
      cases room with
      | refused =>
          cases run₂
          exact ⟨keeps, fun location _ => cleared location⟩
      | added =>
          obtain ⟨rfl, absent⟩ := cleared
          obtain ⟨moved, third, moving, run₃⟩ := of_run_bind run₂
          cases moved with
          | false =>
              cases FileTree.move_refused moving
              cases run₃
              exact ⟨keeps, fun location _ => .refl location _⟩
          | true =>
              cases run₃
              exact swapped_added leads absent moving
      | replaced =>
          obtain ⟨moved, third, moving, run₃⟩ := of_run_bind run₂
          cases moved with
          | false =>
              cases FileTree.move_refused moving
              obtain ⟨_, fourth, restoring, run₄⟩ := of_run_bind run₃
              cases run₄
              obtain ⟨keeps', swapped⟩ := swapped_refused leads cleared restoring
              exact ⟨keeps.trans keeps', swapped⟩
          | true =>
              cases run₃
              obtain ⟨keeps', swapped⟩ := swapped_replaced leads cleared moving
              exact ⟨keeps.trans keeps', swapped⟩

end DirectoryStore

end ScrollStory
