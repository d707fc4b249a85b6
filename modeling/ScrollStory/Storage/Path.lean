import ScrollStory.Text.Pieces

/-!
# Paths

A path is the list of the names between the slashes of its text. A path that begins with an empty
name and goes on is absolute; an empty name at the end stands for a slash there.
-/

namespace ScrollStory

/-- A path in a file system. -/
structure Path where
  names : List String
  deriving DecidableEq, Repr

namespace Path

/-- The path that a text describes. -/
def ofText (text : String) : Path := ⟨Text.split '/' text⟩

/-- The text of a path. -/
def text (path : Path) : String := "/".intercalate path.names

/-- Whether a path begins at the root of the file system. -/
def isAbsolute (path : Path) : Bool :=
  match path.names with
  | "" :: _ :: _ => true
  | _ => false

/-- The names of a path without the empty one of a slash at the end. -/
def openNames (path : Path) : List String :=
  match path.names.getLast? with
  | some "" => path.names.dropLast
  | _ => path.names

/-- The path that goes on along another one, which begins anew if it is absolute. -/
def join (path other : Path) : Path :=
  if other.isAbsolute then other else ⟨path.openNames ++ other.names⟩

/-- The path of what has a name in a directory. -/
def child (path : Path) (name : String) : Path :=
  path.join (ofText name)

/-- The path below a directory along some names. -/
def below (path : Path) (names : List String) : Path :=
  names.foldl child path

/-- The path without its last name. -/
def parent (path : Path) : Path := ⟨path.names.dropLast⟩

/-- The path with a mark behind its last name. -/
def marked (path : Path) (mark : String) : Path :=
  match path.names.getLast? with
  | some name => path.parent.child (name ++ mark)
  | none => ⟨[mark]⟩

/-- The name of the file at a path: its last name that is not a way to stay in place. A path that
goes up at its end has none. -/
def fileName? (path : Path) : Option String :=
  match (path.names.filter fun name => name ≠ "" ∧ name ≠ ".").getLast? with
  | some ".." => none
  | other => other

/-- A text is the text of the path that it describes. -/
theorem text_ofText (s : String) : (ofText s).text = s := by
  apply String.toList_injective
  simp [text, ofText, Text.split, Function.comp_def, Text.intercalate_pieces]

/-- A name without a slash is one name more. -/
theorem names_child {path : Path} {name : String} (h : '/' ∉ name.toList) :
    (path.child name).names = path.openNames ++ [name] := by
  have hnames : (ofText name).names = [name] := Text.split_of_not_mem h
  simp [child, join, isAbsolute, hnames]

end Path

end ScrollStory
