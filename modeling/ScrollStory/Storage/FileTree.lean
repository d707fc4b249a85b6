import ScrollStory.Storage.FileAccess
import ScrollStory.Storage.Table

/-!
# Trees of files

A tree of plain files and directories as a value, and the operations on files for it. A path is
followed from the top of the tree, name by name; all that it passes through has to be a directory.
The top stands for a directory in which a program runs, or above which nothing concerns it: a
directory of the machine is named by the path that leads to it from there, also the root of a store.
-/

namespace ScrollStory

/-- The names on the way from the top of a tree to a location in it. -/
abbrev Location := List String

/-- What is at a location. -/
inductive Occupant where
  | file (content : ByteArray)
  | directory

/-- A tree of files. -/
structure FileTree where
  /-- The size in bytes of the longest name that the tree takes, if there is a limit. -/
  nameLimit : Option Nat := some 255
  /-- The size in bytes of the longest text of a path that the tree takes, if there is a limit. -/
  pathLimit : Option Nat := some 4095
  entries : Table Location Occupant := []

namespace FileTree

/-- What is at a location. The top is a directory. -/
def occupant? (tree : FileTree) (location : Location) : Option Occupant :=
  if location = [] then some .directory else Table.get? tree.entries location

/-- The tree with a file or a directory at a location. -/
def put (tree : FileTree) (location : Location) (occupant : Occupant) : FileTree :=
  { tree with entries := Table.put tree.entries location occupant }

/-- The tree without what is at a location. -/
def erase (tree : FileTree) (location : Location) : FileTree :=
  { tree with entries := Table.erase tree.entries location }

/-- The tree without what is at a location and below it. -/
def prune (tree : FileTree) (location : Location) : FileTree :=
  { tree with entries := tree.entries.filter fun entry => !location.isPrefixOf entry.1 }

/-- What is put at a location is there, and nothing else has changed. -/
theorem occupant?_put (tree : FileTree) {location : Location} (h : location ≠ [])
    (occupant : Occupant) (other : Location) :
    (tree.put location occupant).occupant? other =
      if other = location then some occupant else tree.occupant? other := by
  by_cases hother : other = []
  · subst hother
    simp [occupant?, Ne.symm h]
  · simp [occupant?, put, hother, Table.get?_put]

/-- What is erased is gone, and nothing else has changed. -/
theorem occupant?_erase (tree : FileTree) {location : Location} (h : location ≠ [])
    (other : Location) :
    (tree.erase location).occupant? other =
      if other = location then none else tree.occupant? other := by
  by_cases hother : other = []
  · subst hother
    simp [occupant?, Ne.symm h]
  · simp [occupant?, erase, hother, Table.get?_erase]

/-- What is at a pruned location and below it is gone, and nothing else has changed. -/
theorem occupant?_prune (tree : FileTree) {location : Location} (h : location ≠ [])
    (other : Location) :
    (tree.prune location).occupant? other =
      if location.isPrefixOf other then none else tree.occupant? other := by
  by_cases hother : other = []
  · subst hother
    simp [occupant?, h]
  · have hfilter := Table.get?_filter tree.entries (fun l => !location.isPrefixOf l) other
    by_cases hp : location.isPrefixOf other <;> simp_all [occupant?, prune]

/-- Whether there is a directory at a location. -/
def isDirectory (tree : FileTree) (location : Location) : Bool :=
  match tree.occupant? location with
  | some .directory => true
  | _ => false

/-- Whether a text is short enough for a limit on its size in bytes. -/
def fits (limit : Option Nat) (text : String) : Bool :=
  match limit with
  | some limit => text.utf8ByteSize ≤ limit
  | none => true

/-- Whether a name can be given to a file or directory of a tree. -/
def accepts (tree : FileTree) (name : String) : Bool :=
  !name.toList.contains '\x00' && fits tree.nameLimit name

/-- Whether a path can lead into a tree: it begins at the top, and its text is not too long. The root
of a store is therefore taken relative to the top. A store only ever goes on from its root, so what
it does below an absolute root is what it does below the path from the top to the same directory.
-/
def admits (tree : FileTree) (path : Path) : Bool :=
  !path.isAbsolute && fits tree.pathLimit path.text

/-- What a name does on the way along a path. -/
inductive Turn where
  | stay
  | up
  | down

/-- The turn of a name. -/
def turn (name : String) : Turn :=
  if name = "" ∨ name = "." then .stay
  else if name = ".." then .up
  else .down

/-- Follows names from a location. -/
def walk (tree : FileTree) : Location → List String → Option Location
  | location, [] => some location
  | location, name :: rest =>
    if tree.isDirectory location then
      match turn name with
      | .stay => tree.walk location rest
      | .up => if location.isEmpty then none else tree.walk location.dropLast rest
      | .down => if tree.accepts name then tree.walk (location ++ [name]) rest else none
    else none

/-- The location to which a path leads. Nothing outside the tree can be reached, so a path that goes
above the top leads nowhere. -/
def locate (tree : FileTree) (path : Path) : Option Location :=
  if tree.admits path then tree.walk [] path.names else none

/-- What is where a path leads. -/
def find? (tree : FileTree) (path : Path) : Option Occupant :=
  (tree.locate path).bind tree.occupant?

/-- The content of the file to which a path leads. -/
def read (tree : FileTree) (path : Path) : Option ByteArray :=
  match tree.find? path with
  | some (.file content) => some content
  | _ => none

/-- Whether a path leads to a plain file. -/
def isFile (tree : FileTree) (path : Path) : Bool :=
  (tree.read path).isSome

/-- Makes directories along names from a location. -/
def makeAlong : Location → List String → FileTree → Bool × FileTree
  | _, [], tree => (true, tree)
  | location, name :: rest, tree =>
    match turn name with
    | .stay => makeAlong location rest tree
    | .up => if location.isEmpty then (false, tree) else makeAlong location.dropLast rest tree
    | .down =>
      if tree.accepts name then
        match tree.occupant? (location ++ [name]) with
        | some .directory => makeAlong (location ++ [name]) rest tree
        | some (.file _) => (false, tree)
        | none => makeAlong (location ++ [name]) rest (tree.put (location ++ [name]) .directory)
      else (false, tree)

/-- Makes the directory of a path and those around it. -/
def makeDirectories (path : Path) (tree : FileTree) : Bool × FileTree :=
  if tree.admits path then makeAlong [] path.names tree else (false, tree)

/-- Writes a file, over the one that is there. -/
def write (path : Path) (content : ByteArray) (tree : FileTree) : Bool × FileTree :=
  match tree.locate path with
  | none => (false, tree)
  | some location =>
    if tree.isDirectory location then (false, tree) else (true, tree.put location (.file content))

/-- Writes a file where there is nothing. -/
def create (path : Path) (content : ByteArray) (tree : FileTree) : Creation × FileTree :=
  match tree.locate path with
  | none => (.refused, tree)
  | some location =>
    if (tree.occupant? location).isSome then (.occupied, tree)
    else (.created, tree.put location (.file content))

/-- Moves a plain file, over the one that is there. -/
def move (source target : Path) (tree : FileTree) : Bool × FileTree :=
  match tree.locate source, tree.locate target with
  | some here, some there =>
    match tree.occupant? here with
    | some (.file content) =>
      if tree.isDirectory there then (false, tree)
      else (true, (tree.erase here).put there (.file content))
    | _ => (false, tree)
  | _, _ => (false, tree)

/-- Removes a plain file. -/
def removeFile (path : Path) (tree : FileTree) : Bool × FileTree :=
  match tree.locate path with
  | none => (false, tree)
  | some location =>
    match tree.occupant? location with
    | some (.file _) => (true, tree.erase location)
    | _ => (false, tree)

/-- Removes a directory with all that is in it, if there is anything. -/
def clear (path : Path) (tree : FileTree) : Bool × FileTree :=
  match tree.locate path with
  | none => (true, tree)
  | some location =>
    match tree.occupant? location with
    | none => (true, tree)
    | some .directory => (true, tree.prune location)
    | some (.file _) => (false, tree)

/-- All that is below a location, with the rest of the way to each part of it. -/
def entriesBelow (tree : FileTree) (location : Location) : Table Location Occupant :=
  let below := tree.entries.filter fun entry =>
    location.isPrefixOf entry.1 && entry.1.length != location.length
  below.map fun entry => (entry.1.drop location.length, entry.2)

instance : FileAccess (StateM FileTree) where
  read path := return (← get).read path
  isFile path := return (← get).isFile path
  makeDirectories path := modifyGet (makeDirectories path)
  write path content := modifyGet (write path content)
  create path content := modifyGet (create path content)
  move source target := modifyGet (move source target)
  removeFile path := modifyGet (removeFile path)
  clear path := modifyGet (clear path)

end FileTree

end ScrollStory
