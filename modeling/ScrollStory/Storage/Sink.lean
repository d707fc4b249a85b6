import ScrollStory.Artifact.Bundle
import ScrollStory.Error

/-!
# Sinks

A sink takes the artifacts of articles. Names that would lead out of their directory, and names that
the staging area may have, are refused before anything is stored.
-/

namespace ScrollStory

/-- The name of the staging area, and the start of all names that are kept for it. -/
def stagingName : String := ".staging"

/-- Whether a name can stand for one article or one file in a directory. -/
def isSafeName (name : String) : Bool :=
  !name.isEmpty && name != "." && name != ".." &&
    name.toList.all (fun c => c != '/' && c != '\\' && c != '\x00') &&
    !stagingName.toList.isPrefixOf name.toList

/-- Refuses a name that is not safe. -/
def checkName (kind : NameKind) (name : String) : Except Error Unit :=
  if isSafeName name then .ok () else .error (.storage (.invalidName kind name))

/-- Where an artifact has been stored. -/
structure ArtifactLocation where
  kind : ArtifactKind
  /-- The path or the address of the artifact. -/
  location : String
  deriving DecidableEq, Repr

/-- The reference to a staged image, relative to the directory of the article. -/
def imageReference (fileName : String) : String := "images/" ++ fileName

/-- A place where artifacts are stored. -/
structure ArtifactSink (m : Type → Type) where
  name : String
  /-- Stores one artifact of an article. -/
  put : String → ArtifactKind → ByteArray → m (Except Error ArtifactLocation)
  /-- Stores the artifacts of a bundle. -/
  commit : String → Bundle → m (Except Error (List ArtifactLocation))

namespace ArtifactSink

variable {m : Type → Type} [Monad m]

/-- Stores artifacts one by one, up to the first that is refused. -/
def putAll (put : ArtifactKind → ByteArray → m (Except Error ArtifactLocation)) :
    List (ArtifactKind × String) → m (Except Error (List ArtifactLocation))
  | [] => return .ok []
  | (kind, content) :: rest => do
    match ← put kind content.toUTF8 with
    | .error e => return .error e
    | .ok location =>
      match ← putAll put rest with
      | .error e => return .error e
      | .ok locations => return .ok (location :: locations)

/-- A sink without a staging area: it stores a bundle by storing its artifacts one by one. -/
def ofPut (name : String)
    (put : String → ArtifactKind → ByteArray → m (Except Error ArtifactLocation)) :
    ArtifactSink m where
  name := name
  put := put
  commit articleId bundle :=
    match checkName .articleId articleId with
    | .error e => return .error e
    | .ok () => putAll (put articleId) bundle.artifacts

end ArtifactSink

end ScrollStory
