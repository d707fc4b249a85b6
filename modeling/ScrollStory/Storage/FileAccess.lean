import ScrollStory.Storage.Path

/-!
# Access to files

The operations on files that the rest of the library is written against. Every operation either does
all that it is asked for, or reports that it was refused.
-/

namespace ScrollStory

/-- How the creation of a file ended. -/
inductive Creation where
  | created
  /-- Something is there already. -/
  | occupied
  | refused
  deriving DecidableEq, Repr

/-- Operations on files. -/
class FileAccess (m : Type → Type) where
  /-- The content of a file. -/
  read : Path → m (Option ByteArray)
  /-- Whether there is a plain file. -/
  isFile : Path → m Bool
  /-- Makes a directory and those around it; those that were made stay if one is refused. -/
  makeDirectories : Path → m Bool
  /-- Writes a file, over the one that is there. -/
  write : Path → ByteArray → m Bool
  /-- Writes a file where there is nothing. -/
  create : Path → ByteArray → m Creation
  /-- Moves a plain file, over the one that is there. -/
  move : Path → Path → m Bool
  /-- Removes a plain file. -/
  removeFile : Path → m Bool
  /-- Removes a directory with all that is in it, if there is anything. -/
  clear : Path → m Bool

end ScrollStory
