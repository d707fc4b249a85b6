import ScrollStory.Storage.FileTree

/-!
# What operations do to a tree

Where a path leads does not depend on the tree, only whether it leads there at all
(`ScrollStory.FileTree.destination_of_locate`). No operation but clearing loses a directory, so
paths keep leading where they led (`ScrollStory.FileTree.Keeps.locate`). Where a file is neither put
nor taken away a tree only grows: nothing changes there, or a directory is made
(`ScrollStory.FileTree.Grown`).
-/

namespace ScrollStory

namespace FileTree

/-! ## Destinations -/

/-- The location to which a name leads from another one if every directory is there. -/
def step? (location : Location) (name : String) : Option Location :=
  match turn name with
  | .stay => some location
  | .up => if location.isEmpty then none else some location.dropLast
  | .down => some (location ++ [name])

/-- Follows names from a location as if every directory were there. -/
def resolve (start : Location) (names : List String) : Option Location :=
  names.foldlM step? start

/-- The location to which a path leads if it leads anywhere. -/
def destination (path : Path) : Option Location := resolve [] path.names

/-- A name is followed from a directory, and a name that goes down has to be one that the tree
takes. -/
theorem walk_cons_iff {tree : FileTree} {start stop : Location} {name : String}
    {rest : List String} :
    tree.walk start (name :: rest) = some stop ↔
      tree.isDirectory start = true ∧ (turn name = .down → tree.accepts name = true) ∧
        ∃ next, step? start name = some next ∧ tree.walk next rest = some stop := by
  rw [walk, step?]
  cases turn name with
  | stay => simp
  | up => by_cases inside : start.isEmpty <;> simp [inside]
  | down => simp

theorem resolve_cons (start : Location) (name : String) (rest : List String) :
    resolve start (name :: rest) = (step? start name).bind (resolve · rest) := rfl

theorem resolve_append (start : Location) (names others : List String) :
    resolve start (names ++ others) = (resolve start names).bind (resolve · others) :=
  List.foldlM_append

/-- A way that is walked leads where it leads with every directory there. -/
theorem resolve_of_walk {tree : FileTree} {start stop : Location} {names : List String}
    (walked : tree.walk start names = some stop) : resolve start names = some stop := by
  induction names generalizing start with
  | nil => exact walked
  | cons name rest ih =>
      obtain ⟨_, _, next, stepped, walked⟩ := walk_cons_iff.mp walked
      rw [resolve_cons, stepped]
      exact ih walked

/-- A path that leads somewhere leads to its destination. -/
theorem destination_of_locate {tree : FileTree} {path : Path} {location : Location}
    (located : tree.locate path = some location) : destination path = some location := by
  unfold locate at located
  split at located
  · exact resolve_of_walk located
  · cases located

/-- A path leads nowhere but to its destination. -/
theorem location_of_locate {tree : FileTree} {path : Path} {location place : Location}
    (leads : destination path = some place) (located : tree.locate path = some location) :
    location = place := by
  have same := destination_of_locate located
  rw [leads] at same
  exact (Option.some.inj same).symm

/-- A slash at the end of a path leads nowhere else. -/
theorem resolve_openNames (path : Path) : resolve [] path.openNames = destination path := by
  unfold Path.openNames destination
  split
  · rename_i last
    obtain ⟨front, names⟩ := List.getLast?_eq_some_iff.mp last
    rw [names, List.dropLast_concat, resolve_append]
    cases resolve [] front <;> rfl
  · rfl

/-- A name that is one step down. -/
structure IsStep (name : String) : Prop where
  noSlash : '/' ∉ name.toList
  down : turn name = .down

theorem IsStep.ne_empty {name : String} (step : IsStep name) : name ≠ "" := by
  rintro rfl
  cases step.down

theorem openNames_child {name : String} (step : IsStep name) (path : Path) :
    (path.child name).openNames = (path.child name).names := by
  have last : (path.child name).names.getLast? = some name := by
    rw [Path.names_child step.noSlash, List.getLast?_concat]
  unfold Path.openNames
  rw [last]
  split
  · rename_i empty
    exact (step.ne_empty (Option.some.inj empty)).elim
  · rfl

theorem parent_child {name other : String} (step : IsStep name) (next : IsStep other)
    (path : Path) : ((path.child name).child other).parent = path.child name := by
  rw [Path.parent, Path.names_child next.noSlash, List.dropLast_concat, openNames_child step]

/-- A name that is one step down leads one step down. -/
theorem destination_child {name : String} (step : IsStep name) (path : Path) :
    destination (path.child name) = (destination path).map (· ++ [name]) := by
  rw [destination, Path.names_child step.noSlash, resolve_append, resolve_openNames]
  cases destination path with
  | none => rfl
  | some location =>
      rw [Option.bind_some, resolve_cons, step?, step.down]
      rfl

/-- Names that are steps down lead down. -/
theorem destination_below {names : List String} (steps : ∀ name ∈ names, IsStep name)
    (path : Path) : destination (path.below names) = (destination path).map (· ++ names) := by
  induction names generalizing path with
  | nil =>
      rw [Path.below, List.foldl_nil]
      cases destination path with
      | none => rfl
      | some location => rw [Option.map_some, List.append_nil]
  | cons name rest ih =>
      have others := ih (fun other member => steps other (List.mem_cons_of_mem name member))
        (path.child name)
      rw [destination_child (steps name List.mem_cons_self)] at others
      refine others.trans ?_
      cases destination path with
      | none => rfl
      | some location =>
          rw [Option.map_some, Option.map_some, Option.map_some, List.append_assoc]
          rfl

/-! ## Growth -/

/-- At a location nothing has changed, or a directory was made where there was nothing. -/
def Grown (location : Location) (before after : FileTree) : Prop :=
  after.occupant? location = before.occupant? location ∨
    before.occupant? location = none ∧ after.occupant? location = some .directory

namespace Grown

variable {location : Location} {before between after : FileTree}

theorem refl (location : Location) (tree : FileTree) : Grown location tree tree := .inl rfl

theorem trans (first : Grown location before between) (second : Grown location between after) :
    Grown location before after := by
  rcases first with same | ⟨empty, made⟩
  · rcases second with same' | ⟨empty', made'⟩
    · exact .inl (same'.trans same)
    · exact .inr ⟨same ▸ empty', made'⟩
  · rcases second with same' | ⟨empty', _⟩
    · exact .inr ⟨empty, same'.trans made⟩
    · rw [made] at empty'
      cases empty'

/-- Files neither come nor go nor change. -/
theorem file_iff (grown : Grown location before after) (content : ByteArray) :
    after.occupant? location = some (.file content) ↔
      before.occupant? location = some (.file content) := by
  rcases grown with same | ⟨empty, made⟩
  · rw [same]
  · rw [empty, made]
    constructor <;> exact nofun

/-- Where nothing is behind a change, nothing was before it. -/
theorem none (grown : Grown location before after) (empty : after.occupant? location = none) :
    before.occupant? location = none := by
  rcases grown with same | ⟨empty', _⟩
  · rw [← same]
    exact empty
  · exact empty'

/-- A directory that was there is there. -/
theorem directory (grown : Grown location before after)
    (there : before.isDirectory location = true) : after.isDirectory location = true := by
  unfold isDirectory at *
  rcases grown with same | ⟨empty, _⟩
  · rw [same]
    exact there
  · rw [empty] at there
    cases there

end Grown

/-! ## Directories that stay -/

/-- Every directory is still there, and the limits of the tree are the same. -/
structure Keeps (before after : FileTree) : Prop where
  nameLimit : after.nameLimit = before.nameLimit
  pathLimit : after.pathLimit = before.pathLimit
  directory : ∀ location, before.isDirectory location = true → after.isDirectory location = true

namespace Keeps

variable {before between after : FileTree}

theorem refl (tree : FileTree) : Keeps tree tree := ⟨rfl, rfl, fun _ there => there⟩

theorem trans (first : Keeps before between) (second : Keeps between after) :
    Keeps before after where
  nameLimit := second.nameLimit.trans first.nameLimit
  pathLimit := second.pathLimit.trans first.pathLimit
  directory location there := second.directory location (first.directory location there)

theorem accepts (keeps : Keeps before after) (name : String) :
    after.accepts name = before.accepts name := by
  rw [FileTree.accepts, FileTree.accepts, keeps.nameLimit]

/-- A way that was walked can still be walked. -/
theorem walk (keeps : Keeps before after) {start stop : Location} {names : List String}
    (walked : before.walk start names = some stop) : after.walk start names = some stop := by
  induction names generalizing start with
  | nil => exact walked
  | cons name rest ih =>
      obtain ⟨there, accepted, next, stepped, walked⟩ := walk_cons_iff.mp walked
      rw [← keeps.accepts] at accepted
      exact walk_cons_iff.mpr
        ⟨keeps.directory start there, accepted, next, stepped, ih walked⟩

/-- A path that leads somewhere keeps leading there. -/
theorem locate (keeps : Keeps before after) {path : Path} {location : Location}
    (located : before.locate path = some location) : after.locate path = some location := by
  unfold FileTree.locate admits at *
  rw [keeps.pathLimit]
  split at located
  · rename_i admitted
    rw [if_pos admitted]
    exact keeps.walk located
  · cases located

end Keeps

end FileTree

end ScrollStory
