import ScrollStory.Storage.FileAccess
import ScrollStory.Storage.Sink

/-!
# Stores in directories

A store that keeps the artifacts of an article in a directory of its own. A bundle is first written
to a staging area and then moved into place, file by file; what it replaces waits in the staging
area, and comes back if a later file cannot be moved. Images are never written over.
-/

namespace ScrollStory

/-- A store in a directory. -/
structure DirectoryStore where
  root : Path
  /-- The address under which artifacts are reported, instead of their paths. -/
  baseUrl : Option String := none
  deriving DecidableEq, Repr

namespace DirectoryStore

/-- Sets the address under which artifacts are reported. -/
def withBaseUrl (store : DirectoryStore) (url : String) : DirectoryStore :=
  { store with baseUrl := some (RenderSettings.withoutSlashes url) }

/-- The directory of an article. -/
def articleDirectory (store : DirectoryStore) (articleId : String) : Path :=
  store.root.child articleId

/-- The directory of the images of an article. -/
def imageDirectory (store : DirectoryStore) (articleId : String) : Path :=
  (store.articleDirectory articleId).child "images"

/-- The staging area of an article. -/
def stagingArea (store : DirectoryStore) (articleId : String) : Path :=
  (store.articleDirectory articleId).child stagingName

/-- The path of an artifact. -/
def artifactPath (store : DirectoryStore) (articleId : String) (kind : ArtifactKind) : Path :=
  (store.articleDirectory articleId).below kind.steps

/-- Where an artifact is reported to be. -/
def location (store : DirectoryStore) (articleId : String) (kind : ArtifactKind) :
    ArtifactLocation :=
  match store.baseUrl with
  | some url => ⟨kind, url ++ "/" ++ articleId ++ "/" ++ kind.relativePath⟩
  | none => ⟨kind, (store.artifactPath articleId kind).text⟩

variable {m : Type → Type} [Monad m] [FileAccess m]

/-- Writes a file next to its place and moves it there. -/
def writeBeside (path : Path) (content : ByteArray) : m Bool := do
  let beside := path.marked ".tmp"
  if ← FileAccess.write beside content then
    if ← FileAccess.move beside path then
      return true
    else
      let _ ← FileAccess.removeFile beside
      return false
  else
    return false

/-- Stores one artifact. -/
def put (store : DirectoryStore) (articleId : String) (kind : ArtifactKind)
    (content : ByteArray) : m (Except Error ArtifactLocation) := do
  match checkName .articleId articleId with
  | .error e => return .error e
  | .ok () =>
    let path := store.artifactPath articleId kind
    if ← FileAccess.makeDirectories path.parent then
      if ← writeBeside path content then
        return .ok (store.location articleId kind)
      else
        return .error .io
    else
      return .error .io

/-- Writes artifacts below a directory, up to the first that is refused. -/
def writeAll (directory : Path) : List (ArtifactKind × String) → m Bool
  | [] => return true
  | (kind, content) :: rest => do
    let path := directory.below kind.steps
    if ← FileAccess.makeDirectories path.parent then
      if ← FileAccess.write path content.toUTF8 then
        writeAll directory rest
      else
        return false
    else
      return false

/-- How a file was moved into place. -/
inductive Swap where
  | refused
  /-- There was no file before. -/
  | added
  /-- The file that was there has been kept. -/
  | replaced
  deriving DecidableEq, Repr

/-- Makes room for a file by moving the one that is there to a path where it is kept. -/
def makeRoom (target kept : Path) : m Swap := do
  if ← FileAccess.isFile target then
    if ← FileAccess.makeDirectories kept.parent then
      if ← FileAccess.move target kept then
        return .replaced
      else
        return .refused
    else
      return .refused
  else
    return .added

/-- Puts back what was at a path before a swap. -/
def restore (swap : Swap) (target kept : Path) : m Unit := do
  if swap = .replaced then
    let _ ← FileAccess.move kept target

/-- Moves a file into place and keeps the one that is there. Nothing is lost if it is refused. -/
def swapIn (source target kept : Path) : m Swap := do
  if ← FileAccess.makeDirectories target.parent then
    match ← makeRoom target kept with
    | .refused => return .refused
    | swap =>
      if ← FileAccess.move source target then
        return swap
      else
        restore swap target kept
        return .refused
  else
    return .refused

/-- Moves staged artifacts into place, all of them or none: a later one that is refused undoes those
before it. -/
def promote (staging directory : Path) : List ArtifactKind → m Bool
  | [] => return true
  | kind :: rest => do
    let target := directory.below kind.steps
    let kept := (staging.child ".old").below kind.steps
    match ← swapIn (staging.below kind.steps) target kept with
    | .refused => return false
    | swap =>
      if ← promote staging directory rest then
        return true
      else
        let _ ← FileAccess.removeFile target
        restore swap target kept
        return false

/-- Stores the artifacts of a bundle, all of them or none. -/
def commit (store : DirectoryStore) (articleId : String) (bundle : Bundle) :
    m (Except Error (List ArtifactLocation)) := do
  match checkName .articleId articleId with
  | .error e => return .error e
  | .ok () =>
    let staging := store.stagingArea articleId
    if ← FileAccess.clear staging then
      if ← writeAll staging bundle.artifacts then
        let promoted ← promote staging (store.articleDirectory articleId) ArtifactKind.all
        let _ ← FileAccess.clear staging
        if promoted then
          return .ok (ArtifactKind.all.map (store.location articleId))
        else
          return .error .io
      else
        let _ ← FileAccess.clear staging
        return .error (.storage (.notStaged articleId))
    else
      return .error .io

/-- Stores an image under a name that is not taken, and gives the reference to it. -/
def stage (store : DirectoryStore) (articleId fileName : String) (content : ByteArray) :
    m (Except Error String) := do
  match checkName .articleId articleId, checkName .fileName fileName with
  | .error e, _ => return .error e
  | .ok (), .error e => return .error e
  | .ok (), .ok () =>
    let directory := store.imageDirectory articleId
    if ← FileAccess.makeDirectories directory then
      match ← FileAccess.create (directory.child fileName) content with
      | .created => return .ok (imageReference fileName)
      | .occupied => return .error (.alreadyExists fileName)
      | .refused => return .error .io
    else
      return .error .io

/-- A store in a directory as a sink. -/
def sink (store : DirectoryStore) : ArtifactSink m where
  name := "local"
  put := store.put
  commit := store.commit

end DirectoryStore

end ScrollStory
