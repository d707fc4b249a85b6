import ScrollStory.Proofs.Storage.Tree

/-!
# Operations on trees

One law for each operation: what it found where it succeeded, and what it left behind. An operation
that is refused leaves the tree as it was, except that directories may have been made.
-/

namespace ScrollStory

namespace FileTree

variable {tree after : FileTree} {path : Path} {location : Location}

theorem ne_nil_of_isDirectory (open_ : tree.isDirectory location = false) : location ≠ [] := by
  rintro rfl
  cases open_

theorem isDirectory_iff :
    tree.isDirectory location = true ↔ tree.occupant? location = some .directory := by
  unfold isDirectory
  split
  · rename_i there
    exact ⟨fun _ => there, fun _ => rfl⟩
  · rename_i other
    exact ⟨fun absurd => (Bool.false_ne_true absurd).elim, fun there => (other there).elim⟩

/-- A file that is put where no directory is takes none away. -/
theorem keeps_put (vacant : tree.isDirectory location = false) (occupant : Occupant) :
    Keeps tree (tree.put location occupant) := by
  refine ⟨rfl, rfl, fun other there => ?_⟩
  have differs : other ≠ location := by
    rintro rfl
    rw [vacant] at there
    cases there
  rw [isDirectory_iff] at *
  rw [occupant?_put tree (ne_nil_of_isDirectory vacant), if_neg differs]
  exact there

/-- Removing a file keeps all directories. -/
theorem keeps_erase (vacant : tree.isDirectory location = false) :
    Keeps tree (tree.erase location) := by
  refine ⟨rfl, rfl, fun other there => ?_⟩
  have differs : other ≠ location := by
    rintro rfl
    rw [vacant] at there
    cases there
  rw [isDirectory_iff] at *
  rw [occupant?_erase tree (ne_nil_of_isDirectory vacant), if_neg differs]
  exact there

theorem not_isDirectory_of_file {content : ByteArray}
    (there : tree.occupant? location = some (.file content)) :
    tree.isDirectory location = false := by
  rw [isDirectory, there]

theorem not_isDirectory_of_none (empty : tree.occupant? location = none) :
    tree.isDirectory location = false := by
  rw [isDirectory, empty]

/-! ## Making directories -/

/-- What putting a directory where there is nothing does. -/
theorem grown_put_directory (empty : tree.occupant? location = none) :
    Keeps tree (tree.put location .directory) ∧
      ∀ other, Grown other tree (tree.put location .directory) := by
  have vacant := not_isDirectory_of_none empty
  have holds := occupant?_put tree (ne_nil_of_isDirectory vacant) .directory
  refine ⟨keeps_put vacant _, fun other => ?_⟩
  by_cases here : other = location
  · refine .inr ⟨here ▸ empty, ?_⟩
    rw [holds, if_pos here]
  · refine .inl ?_
    rw [holds, if_neg here]

/-- What is made along names is directories, where there was nothing. -/
theorem makeAlong_grows (start : Location) (names : List String) (tree : FileTree) :
    Keeps tree (makeAlong start names tree).2 ∧
      ∀ location, Grown location tree (makeAlong start names tree).2 := by
  induction names generalizing start tree with
  | nil => exact ⟨.refl tree, fun location => .refl location tree⟩
  | cons name rest ih =>
      have unchanged : Keeps tree tree ∧ ∀ location, Grown location tree tree :=
        ⟨.refl tree, fun location => .refl location tree⟩
      unfold makeAlong
      cases turn name with
      | stay => exact ih start tree
      | up =>
          dsimp only
          split
          · exact unchanged
          · exact ih _ tree
      | down =>
          dsimp only
          split
          · split
            · exact ih _ tree
            · exact unchanged
            · rename_i empty
              obtain ⟨keeps, grown⟩ := grown_put_directory empty
              obtain ⟨keeps', grown'⟩ :=
                ih (start ++ [name]) (tree.put (start ++ [name]) .directory)
              exact ⟨keeps.trans keeps', fun location => (grown location).trans (grown' location)⟩
          · exact unchanged

/-- Making directories keeps those that are there. -/
theorem keeps_of_makeAlong {start : Location} {names : List String} {done : Bool}
    (made : makeAlong start names tree = (done, after)) : Keeps tree after := by
  have keeps := (makeAlong_grows start names tree).1
  rwa [made] at keeps

/-- Every location on the way to one is a directory. -/
def Open (tree : FileTree) (location : Location) : Prop :=
  ∀ above, above <+: location → tree.isDirectory above = true

theorem Open.child {name : String} (open_ : tree.Open location)
    (there : tree.isDirectory (location ++ [name]) = true) : tree.Open (location ++ [name]) := by
  intro above before
  rcases List.prefix_concat_iff.mp before with rfl | before
  · exact there
  · exact open_ above before

theorem Open.parent (open_ : tree.Open location) : tree.Open location.dropLast :=
  fun above before => open_ above (before.trans (List.dropLast_prefix location))

theorem Open.here (open_ : tree.Open location) : tree.isDirectory location = true :=
  open_ location (List.prefix_refl location)

theorem Open.keeps (open_ : tree.Open location) (keeps : Keeps tree after) : after.Open location :=
  fun above before => keeps.directory above (open_ above before)

/-- Making directories along a name leads to an open location again. The way back up is open because
every location on the way down was passed as a directory. -/
theorem of_makeAlong_cons {start : Location} {name : String} {rest : List String}
    (open_ : tree.Open start) (made : makeAlong start (name :: rest) tree = (true, after)) :
    ∃ next between, step? start name = some next ∧
      (turn name = .down → tree.accepts name = true) ∧ between.Open next ∧
      makeAlong next rest between = (true, after) := by
  unfold makeAlong at made
  unfold step?
  cases taken : turn name with
  | stay =>
      rw [taken] at made
      exact ⟨start, tree, rfl, nofun, open_, made⟩
  | up =>
      rw [taken] at made
      dsimp only at made ⊢
      split at made
      · cases made
      · rename_i inside
        exact ⟨start.dropLast, tree, if_neg inside, nofun, open_.parent, made⟩
  | down =>
      rw [taken] at made
      dsimp only at made ⊢
      split at made
      · rename_i accepted
        split at made
        · rename_i there
          have next := open_.child (isDirectory_iff.mpr there)
          exact ⟨start ++ [name], tree, rfl, fun _ => accepted, next, made⟩
        · cases made
        · rename_i empty
          have vacant := not_isDirectory_of_none empty
          have there :
              (tree.put (start ++ [name]) .directory).isDirectory (start ++ [name]) = true := by
            rw [isDirectory_iff, occupant?_put tree (ne_nil_of_isDirectory vacant), if_pos rfl]
          have next := (open_.keeps (keeps_put vacant .directory)).child there
          exact ⟨start ++ [name], _, rfl, fun _ => accepted, next, made⟩
      · cases made

/-- Names along which directories were made lead to an open location. -/
theorem walk_of_makeAlong {start : Location} {names : List String} (open_ : tree.Open start)
    (made : makeAlong start names tree = (true, after)) :
    ∃ stop, after.walk start names = some stop ∧ after.Open stop := by
  induction names generalizing start tree with
  | nil =>
      cases made
      exact ⟨start, rfl, open_⟩
  | cons name rest ih =>
      have keeps := keeps_of_makeAlong made
      obtain ⟨next, between, stepped, accepted, opened, made⟩ := of_makeAlong_cons open_ made
      obtain ⟨stop, walked, there⟩ := ih opened made
      rw [← keeps.accepts] at accepted
      have start := keeps.directory start open_.here
      exact ⟨stop, walk_cons_iff.mpr ⟨start, accepted, next, stepped, walked⟩, there⟩

/-- Making directories takes nothing away and adds only directories. If it is done, the path leads
to a directory, with directories all the way to it. -/
theorem of_makeDirectories {done : Bool} (made : makeDirectories path tree = (done, after)) :
    Keeps tree after ∧ (∀ location, Grown location tree after) ∧
      (done = true → ∃ location, after.locate path = some location ∧ after.Open location) := by
  unfold makeDirectories at made
  split at made
  · rename_i admitted
    have grows := makeAlong_grows [] path.names tree
    have keeps := keeps_of_makeAlong made
    rw [made] at grows
    refine ⟨grows.1, grows.2, ?_⟩
    rintro rfl
    have top : tree.Open [] := by
      intro above before
      rw [List.prefix_nil.mp before]
      rfl
    obtain ⟨location, walked, there⟩ := walk_of_makeAlong top made
    refine ⟨location, ?_, there⟩
    unfold admits at admitted
    unfold locate admits
    rw [keeps.pathLimit, if_pos admitted]
    exact walked
  · cases made
    exact ⟨.refl tree, fun location => .refl location tree, nofun⟩

/-! ## Writing, moving, removing -/

/-- What a tree holds after a file has been put at a location. -/
theorem of_write {content : ByteArray} (written : write path content tree = (true, after)) :
    ∃ location, destination path = some location ∧ Keeps tree after ∧
      after.occupant? location = some (.file content) ∧
      ∀ other, other ≠ location → after.occupant? other = tree.occupant? other := by
  unfold write at written
  split at written
  · cases written
  · rename_i location located
    split at written
    · cases written
    · rename_i vacant
      have vacant : tree.isDirectory location = false := Bool.eq_false_iff.mpr vacant
      have holds := occupant?_put tree (ne_nil_of_isDirectory vacant) (.file content)
      cases written
      have leads := destination_of_locate located
      refine ⟨location, leads, keeps_put vacant _, ?_, fun other differs => ?_⟩
      · rw [holds, if_pos rfl]
      · rw [holds, if_neg differs]

/-- A write that is refused changes nothing. -/
theorem write_refused {content : ByteArray} (refused : write path content tree = (false, after)) :
    after = tree := by
  unfold write at refused
  split at refused
  · cases refused
    rfl
  · split at refused <;> cases refused
    rfl

/-- A file that is moved leaves one location and arrives at another one, where no directory is. -/
theorem of_move {source target : Path} {here there : Location}
    (leaves : destination source = some here) (arrives : destination target = some there)
    (moved : move source target tree = (true, after)) :
    ∃ content,
      tree.locate source = some here ∧ tree.locate target = some there ∧
      tree.occupant? here = some (.file content) ∧ tree.isDirectory there = false ∧
      Keeps tree after ∧
      ∀ other, after.occupant? other =
        if other = there then some (.file content)
        else if other = here then none else tree.occupant? other := by
  unfold move at moved
  split at moved
  · rename_i start stop
    cases location_of_locate leaves start
    cases location_of_locate arrives stop
    split at moved
    · rename_i content found
      split at moved
      · cases moved
      · rename_i vacant
        have vacant : tree.isDirectory there = false := Bool.eq_false_iff.mpr vacant
        have left := not_isDirectory_of_file found
        have gone := occupant?_erase tree (ne_nil_of_isDirectory left)
        have cleared := keeps_erase left
        -- The file is gone when it is put to its new place, which may be the old one.
        have vacant' : (tree.erase here).isDirectory there = false := by
          by_cases same : there = here
          · refine not_isDirectory_of_none ?_
            rw [gone, if_pos same]
          · unfold isDirectory at vacant ⊢
            rw [gone, if_neg same]
            exact vacant
        cases moved
        refine ⟨content, start, stop, found, vacant,
          cleared.trans (keeps_put vacant' _), fun other => ?_⟩
        rw [occupant?_put _ (ne_nil_of_isDirectory vacant), gone]
    · cases moved
  · cases moved

/-- A move that is refused changes nothing. -/
theorem move_refused {source target : Path} (refused : move source target tree = (false, after)) :
    after = tree := by
  unfold move at refused
  split at refused
  · split at refused
    · split at refused <;> cases refused
      rfl
    · cases refused
      rfl
  · cases refused
    rfl

/-- A file can be moved to where no directory is. -/
theorem move_succeeds {source target : Path} {here there : Location} {content : ByteArray}
    (start : tree.locate source = some here) (stop : tree.locate target = some there)
    (found : tree.occupant? here = some (.file content))
    (vacant : tree.isDirectory there = false) : (move source target tree).1 = true := by
  simp only [move, start, stop, found, vacant, Bool.false_eq_true, ↓reduceIte]

/-- Removing a file takes just the file away. -/
theorem of_removeFile {content : ByteArray} (located : tree.locate path = some location)
    (found : tree.occupant? location = some (.file content)) :
    Keeps tree (removeFile path tree).2 ∧
      ∀ other, (removeFile path tree).2.occupant? other =
        if other = location then none else tree.occupant? other := by
  have left := not_isDirectory_of_file found
  simp only [removeFile, located, found]
  exact ⟨keeps_erase left, occupant?_erase tree (ne_nil_of_isDirectory left)⟩

/-! ## Plain files -/

/-- A file is there where its path leads. -/
theorem of_isFile (leads : destination path = some location) (there : tree.isFile path = true) :
    tree.locate path = some location ∧
      ∃ content, tree.occupant? location = some (.file content) := by
  unfold isFile read find? at there
  cases located : tree.locate path with
  | none =>
      rw [located] at there
      cases there
  | some place =>
      cases location_of_locate leads located
      rw [located] at there
      dsimp only [Option.bind_some] at there
      split at there
      · rename_i content found
        exact ⟨rfl, content, found⟩
      · cases there

/-- Where there is neither a plain file nor a directory there is nothing. -/
theorem none_of_not_isFile (located : tree.locate path = some location)
    (absent : tree.isFile path = false) (vacant : tree.isDirectory location = false) :
    tree.occupant? location = none := by
  unfold isFile read find? at absent
  rw [located, Option.bind_some] at absent
  unfold isDirectory at vacant
  cases occupied : tree.occupant? location with
  | none => rfl
  | some occupant =>
      cases occupant with
      | file content =>
          rw [occupied] at absent
          cases absent
      | directory =>
          rw [occupied] at vacant
          cases vacant

/-! ## Clearing -/

/-- Clearing changes nothing outside the destination of its path. -/
theorem occupant?_clear
    (outside : ∀ area, destination path = some area → ¬area <+: location) :
    (clear path tree).2.occupant? location = tree.occupant? location := by
  unfold clear
  split
  · rfl
  · rename_i area located
    have apart := outside area (destination_of_locate located)
    split
    · rfl
    · have inside : area ≠ [] := by
        rintro rfl
        exact apart List.nil_prefix
      rw [occupant?_prune tree inside, if_neg]
      rwa [List.isPrefixOf_iff_prefix]
    · rfl

/-- Clearing a directory leaves nothing there. -/
theorem clear_directory (inside : location ≠ []) (located : tree.locate path = some location)
    (there : tree.isDirectory location = true) {other : Location} (within : location <+: other) :
    (clear path tree).2.occupant? other = none := by
  have found := isDirectory_iff.mp there
  simp only [clear, located, found]
  rw [occupant?_prune tree inside, if_pos]
  rwa [List.isPrefixOf_iff_prefix]

/-- Clearing a directory changes nothing if it is refused. -/
theorem clear_refused (refused : clear path tree = (false, after)) : after = tree := by
  unfold clear at refused
  split at refused
  · cases refused
  · split at refused <;> cases refused
    rfl

end FileTree

end ScrollStory
