import ScrollStory.Proofs.Storage.Operations

/-!
# Operations that succeed

Where no file is in the way directories are made, and nothing else is
(`ScrollStory.FileTree.of_makeAlong_steps`); a path below one that can be made behaves as if the
latter were there already (`ScrollStory.FileTree.makeDirectories_below`). In a directory a file can
be written or created.
-/

namespace ScrollStory

open FileTree (IsStep)

/-! ## Paths below a path -/

namespace Path

variable {path : Path}

theorem below_append (path : Path) (names others : List String) :
    path.below (names ++ others) = (path.below names).below others :=
  List.foldl_append

theorem below_concat (path : Path) (names : List String) (name : String) :
    path.below (names ++ [name]) = (path.below names).child name :=
  path.below_append names [name]

/-- The names of a path below another one. -/
theorem names_below {names : List String} (steps : ∀ name ∈ names, IsStep name)
    (more : names ≠ []) : (path.below names).names = path.openNames ++ names := by
  induction names generalizing path with
  | nil => exact (more rfl).elim
  | cons name rest ih =>
      have step := steps name List.mem_cons_self
      by_cases last : rest = []
      · subst last
        exact names_child step.noSlash
      · have later (other : String) (member : other ∈ rest) :=
          steps other (List.mem_cons_of_mem _ member)
        have names := @ih (path.child name) later last
        rw [FileTree.openNames_child step, names_child step.noSlash, List.append_assoc] at names
        exact names

/-- The first name of an absolute path is empty, and is not its only one. -/
theorem isAbsolute_iff : path.isAbsolute = true ↔ ∃ rest, rest ≠ [] ∧ path.names = "" :: rest := by
  unfold isAbsolute
  split
  · rename_i first rest names
    simp [names]
  · rename_i other
    constructor
    · exact nofun
    · rintro ⟨rest, more, names⟩
      cases rest with
      | nil => exact (more rfl).elim
      | cons next rest => exact (other next rest names).elim

/-- A path below one that begins at the top begins there too. -/
theorem isAbsolute_below (relative : path.isAbsolute = false) {names : List String}
    (steps : ∀ name ∈ names, IsStep name) (more : names ≠ []) :
    (path.below names).isAbsolute = false := by
  rw [Bool.eq_false_iff] at relative ⊢
  intro absolute
  obtain ⟨rest, occupied, same⟩ := isAbsolute_iff.mp absolute
  rw [names_below steps more] at same
  apply relative
  rw [isAbsolute_iff]
  unfold openNames at same
  split at same
  · rename_i last
    obtain ⟨front, names⟩ := List.getLast?_eq_some_iff.mp last
    rw [names, List.dropLast_concat] at same
    cases front with
    | nil =>
        rw [List.nil_append] at same
        exact ((steps "" (same ▸ List.mem_cons_self)).ne_empty rfl).elim
    | cons first front =>
        cases List.head_eq_of_cons_eq same
        exact ⟨front ++ [""], by simp, names⟩
  · rename_i last
    cases split : path.names with
    | nil =>
        rw [split, List.nil_append] at same
        exact ((steps "" (same ▸ List.mem_cons_self)).ne_empty rfl).elim
    | cons first front =>
        rw [split] at same last
        cases List.head_eq_of_cons_eq same
        refine ⟨front, ?_, rfl⟩
        rintro rfl
        exact last rfl

end Path

namespace FileTree

variable {tree after : FileTree} {path : Path} {location start stop : Location}

/-! ## Following names -/

/-- Names are walked one after another. -/
theorem walk_append (start : Location) (names others : List String) :
    tree.walk start (names ++ others) = (tree.walk start names).bind (tree.walk · others) := by
  induction names generalizing start with
  | nil => rfl
  | cons name rest ih =>
      rw [List.cons_append, walk, walk]
      split
      · cases turn name with
        | stay => exact ih start
        | up =>
            dsimp only
            split
            · rfl
            · exact ih _
        | down =>
            dsimp only
            split
            · exact ih _
            · rfl
      · rfl

/-- The way to the directory of a path is walked if the path is. -/
theorem walk_openNames (walked : tree.walk [] path.names = some location) :
    tree.walk [] path.openNames = some location := by
  unfold Path.openNames
  split
  · rename_i last
    obtain ⟨front, names⟩ := List.getLast?_eq_some_iff.mp last
    rw [names, walk_append] at walked
    rw [names, List.dropLast_concat]
    obtain ⟨reached, first, walked⟩ := Option.bind_eq_some_iff.mp walked
    obtain ⟨_, _, next, stepped, walked⟩ := walk_cons_iff.mp walked
    cases stepped
    rw [first]
    exact walked
  · exact walked

/-- A tree without a limit for paths admits all paths but absolute ones. -/
theorem admits_iff (limit : tree.pathLimit = none) :
    tree.admits path = true ↔ path.isAbsolute = false := by
  rw [admits, limit, fits, Bool.and_true, Bool.not_eq_true']

/-- From a directory that a path leads to, names of directories lead on. -/
theorem locate_below (located : tree.locate path = some location) {names : List String}
    (limit : tree.pathLimit = none) (steps : ∀ name ∈ names, IsStep name) (more : names ≠ [])
    (walked : tree.walk location names = some stop) :
    tree.locate (path.below names) = some stop := by
  unfold locate at *
  split at located
  · rename_i admitted
    have relative := (admits_iff limit).mp admitted
    have admitted := (admits_iff limit).mpr (Path.isAbsolute_below relative steps more)
    rw [if_pos admitted, Path.names_below steps more, walk_append, walk_openNames located]
    exact walked
  · cases located

/-- A name leads down from a directory if the tree accepts it. -/
theorem locate_child (located : tree.locate path = some location)
    (there : tree.isDirectory location = true) {name : String} (step : IsStep name)
    (accepted : tree.accepts name = true) (limit : tree.pathLimit = none) :
    tree.locate (path.child name) = some (location ++ [name]) := by
  have walked : tree.walk location [name] = some (location ++ [name]) := by
    rw [walk, if_pos there, step.down]
    simp only [accepted, ↓reduceIte]
    rfl
  have steps : ∀ other ∈ [name], IsStep other := by
    intro other member
    cases List.mem_singleton.mp member
    exact step
  exact locate_below located limit steps (List.cons_ne_nil _ _) walked

/-! ## Making directories -/

/-- Directories are made along one way and then along another one. -/
theorem makeAlong_append (leads : resolve start location = some stop) (others : List String) :
    makeAlong start (location ++ others) tree =
      if (makeAlong start location tree).1 then
        makeAlong stop others (makeAlong start location tree).2
      else makeAlong start location tree := by
  induction location generalizing start tree with
  | nil =>
      cases leads
      rfl
  | cons name rest ih =>
      rw [resolve_cons] at leads
      obtain ⟨next, stepped, leads⟩ := Option.bind_eq_some_iff.mp leads
      rw [List.cons_append, makeAlong, makeAlong]
      unfold step? at stepped
      cases taken : turn name with
      | stay =>
          rw [taken] at stepped
          cases stepped
          exact ih leads
      | up =>
          rw [taken] at stepped
          dsimp only at stepped ⊢
          split at stepped
          · cases stepped
          · rename_i inside
            cases stepped
            rw [if_neg inside, if_neg inside]
            exact ih leads
      | down =>
          rw [taken] at stepped
          cases stepped
          dsimp only
          split
          · split
            · exact ih leads
            · rfl
            · exact ih leads
          · rfl

/-- Along directories that are there none is made. -/
theorem makeAlong_of_walk {names : List String} (walked : tree.walk start names = some stop)
    (there : tree.isDirectory stop = true) : makeAlong start names tree = (true, tree) := by
  induction names generalizing start with
  | nil => rfl
  | cons name rest ih =>
      obtain ⟨_, accepted, next, stepped, walked⟩ := walk_cons_iff.mp walked
      have reached : tree.isDirectory next = true := by
        cases rest with
        | nil =>
            cases walked
            exact there
        | cons other rest => exact (walk_cons_iff.mp walked).1
      have later := ih walked
      unfold step? at stepped
      unfold makeAlong
      cases taken : turn name with
      | stay =>
          rw [taken] at stepped
          cases stepped
          exact later
      | up =>
          rw [taken] at stepped
          dsimp only at stepped ⊢
          split at stepped
          · cases stepped
          · rename_i inside
            cases stepped
            rw [if_neg inside]
            exact later
      | down =>
          rw [taken] at stepped
          cases stepped
          rw [isDirectory_iff] at reached
          simp only [accepted taken, ↓reduceIte, reached]
          exact later

/-- Where no file is in the way a directory is made at every name, and nothing else changes. -/
theorem of_makeAlong_steps {names : List String}
    (steps : ∀ name ∈ names, turn name = .down ∧ tree.accepts name = true)
    (clear : ∀ way, way <+: names →
      ∀ content, tree.occupant? (start ++ way) ≠ some (.file content)) :
    ∃ after, makeAlong start names tree = (true, after) ∧
      (∀ way, way ≠ [] → way <+: names → after.isDirectory (start ++ way) = true) ∧
      ∀ other, (∀ way, way ≠ [] → way <+: names → other ≠ start ++ way) →
        after.occupant? other = tree.occupant? other := by
  induction names generalizing start tree with
  | nil =>
      refine ⟨tree, rfl, fun way more before => ?_, fun _ _ => rfl⟩
      exact (more (List.prefix_nil.mp before)).elim
  | cons name rest ih =>
      obtain ⟨down, accepted⟩ := steps name List.mem_cons_self
      have first : [name] <+: name :: rest := ⟨rest, rfl⟩
      -- The tree in which the first directory is there.
      obtain ⟨between, making, keeps, there, same⟩ :
          ∃ between, makeAlong start (name :: rest) tree =
              makeAlong (start ++ [name]) rest between ∧ Keeps tree between ∧
            between.occupant? (start ++ [name]) = some .directory ∧
            ∀ other, other ≠ start ++ [name] → between.occupant? other = tree.occupant? other := by
        rw [makeAlong, down]
        simp only [accepted, ↓reduceIte]
        split
        · rename_i there
          exact ⟨tree, rfl, .refl tree, there, fun _ _ => rfl⟩
        · rename_i content found
          exact (clear [name] first content found).elim
        · rename_i empty
          have vacant := not_isDirectory_of_none empty
          have holds := occupant?_put tree (ne_nil_of_isDirectory vacant) .directory
          refine ⟨_, rfl, keeps_put vacant .directory, ?_, fun other apart => ?_⟩
          · rw [holds, if_pos rfl]
          · rw [holds, if_neg apart]
      obtain ⟨after, made, directories, others⟩ := @ih between (start ++ [name])
        (fun other member => by
          rw [keeps.accepts]
          exact steps other (List.mem_cons_of_mem _ member))
        (fun way before content => by
          rw [List.append_assoc, List.singleton_append]
          by_cases here : start ++ name :: way = start ++ [name]
          · rw [here, there]
            simp
          · rw [same _ here]
            exact clear (name :: way) (List.cons_prefix_cons.mpr ⟨rfl, before⟩) content)
      have kept := keeps_of_makeAlong made
      refine ⟨after, making.trans made, fun way more before => ?_, fun other apart => ?_⟩
      · cases way with
        | nil => exact (more rfl).elim
        | cons head way =>
            obtain ⟨rfl, within⟩ := List.cons_prefix_cons.mp before
            by_cases last : way = []
            · subst last
              exact kept.directory _ (isDirectory_iff.mpr there)
            · have made := directories way last within
              rwa [List.append_assoc] at made
      · rw [others other, same other (apart [name] (List.cons_ne_nil _ _) first)]
        intro way _ before
        rw [List.append_assoc]
        exact apart (name :: way) (List.cons_ne_nil _ _) (List.cons_prefix_cons.mpr ⟨rfl, before⟩)

/-- Directories below a path are made from where the path leads, once it is made itself. -/
theorem makeDirectories_below {root : Path} {base : Location} {made : FileTree}
    (making : makeDirectories root tree = (true, made)) (limit : tree.pathLimit = none)
    (leads : destination root = some base) {names : List String}
    (steps : ∀ name ∈ names, IsStep name) (more : names ≠ []) :
    makeDirectories (root.below names) tree = makeAlong base names made := by
  have resolved := resolve_openNames root
  rw [leads] at resolved
  unfold makeDirectories at *
  split at making
  · rename_i admitted
    have relative := (admits_iff limit).mp admitted
    -- A slash at the end of the path makes no difference.
    have opened : makeAlong [] root.openNames tree = (true, made) := by
      unfold Path.openNames at resolved ⊢
      split at resolved
      · rename_i last
        obtain ⟨front, names⟩ := List.getLast?_eq_some_iff.mp last
        rw [names, List.dropLast_concat] at resolved ⊢
        rw [names, makeAlong_append resolved] at making
        split at making
        · rename_i done
          rw [← making, makeAlong]
          exact Prod.ext done rfl
        · exact making
      · exact making
    have admitted := (admits_iff limit).mpr (Path.isAbsolute_below relative steps more)
    rw [if_pos admitted, Path.names_below steps more, makeAlong_append resolved, opened]
    rfl
  · cases making

/-- A directory that is there is not made anew. -/
theorem makeDirectories_of_locate (located : tree.locate path = some location)
    (there : tree.isDirectory location = true) : makeDirectories path tree = (true, tree) := by
  unfold locate at located
  unfold makeDirectories
  split at located
  · rename_i admitted
    rw [if_pos admitted]
    exact makeAlong_of_walk located there
  · cases located

/-- Where nothing is nothing is cleared. -/
theorem clear_absent (leads : destination path = some location)
    (empty : tree.occupant? location = none) : clear path tree = (true, tree) := by
  unfold clear
  split
  · rfl
  · rename_i place located
    cases location_of_locate leads located
    rw [empty]

/-! ## Files in directories -/

/-- A write succeeds where no directory is. -/
theorem write_succeeds (located : tree.locate path = some location)
    (vacant : tree.isDirectory location = false) (content : ByteArray) :
    (write path content tree).1 = true := by
  simp only [write, located, vacant, Bool.false_eq_true, ↓reduceIte]

/-- A file is created where nothing is, and nothing else changes. -/
theorem of_create (located : tree.locate path = some location)
    (empty : tree.occupant? location = none) (content : ByteArray) :
    ∃ after, create path content tree = (.created, after) ∧ Keeps tree after ∧
      ∀ other, after.occupant? other =
        if other = location then some (.file content) else tree.occupant? other := by
  have vacant := not_isDirectory_of_none empty
  refine ⟨tree.put location (.file content), ?_, keeps_put vacant _,
    occupant?_put tree (ne_nil_of_isDirectory vacant) _⟩
  simp only [create, located, empty, Option.isSome_none, Bool.false_eq_true, ↓reduceIte]

/-- No file is created where something is. -/
theorem create_occupied (located : tree.locate path = some location)
    (found : (tree.occupant? location).isSome = true) (content : ByteArray) :
    create path content tree = (.occupied, tree) := by
  simp only [create, located, found, ↓reduceIte]

end FileTree

end ScrollStory
