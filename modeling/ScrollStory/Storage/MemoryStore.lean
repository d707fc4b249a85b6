import ScrollStory.Storage.Sink
import ScrollStory.Storage.Table
import ScrollStory.Text.Utf8

/-!
# Stores in memory

A store that keeps artifacts and images in two tables. It may be made to refuse one kind of
artifacts; a bundle is then refused as a whole.
-/

namespace ScrollStory

/-- A store in memory. -/
structure MemoryStore where
  /-- Artifacts by article and kind. -/
  artifacts : Table (String × ArtifactKind) ByteArray := []
  /-- Images by article and file name. -/
  images : Table (String × String) ByteArray := []
  /-- The kind of artifacts that is refused. -/
  refused : Option ArtifactKind := none

namespace MemoryStore

/-- The artifact of a kind, as text. -/
def artifact? (store : MemoryStore) (articleId : String) (kind : ArtifactKind) : Option String :=
  (Table.get? store.artifacts (articleId, kind)).map (Text.Utf8.toStringLossy ·.toList)

/-- An image. -/
def image? (store : MemoryStore) (articleId fileName : String) : Option ByteArray :=
  Table.get? store.images (articleId, fileName)

/-- The number of artifacts. -/
def size (store : MemoryStore) : Nat := store.artifacts.length

/-- Whether there are no artifacts. -/
def isEmpty (store : MemoryStore) : Bool := store.size = 0

/-- Refuses a kind of artifacts that the store does not take. -/
def checkKind (store : MemoryStore) (kind : ArtifactKind) : Except Error Unit :=
  if store.refused = some kind then .error (.storage (.unavailable kind.relativePath)) else .ok ()

/-- Where an artifact is. -/
def location (articleId : String) (kind : ArtifactKind) : ArtifactLocation :=
  ⟨kind, "memory://" ++ articleId ++ "/" ++ kind.relativePath⟩

/-- The store with an artifact. -/
def insert (store : MemoryStore) (articleId : String) (kind : ArtifactKind) (content : ByteArray) :
    MemoryStore :=
  { store with artifacts := Table.put store.artifacts (articleId, kind) content }

/-- What stands against storing an artifact. -/
def checkPut (store : MemoryStore) (articleId : String) (kind : ArtifactKind) :
    Except Error Unit := do
  checkName .articleId articleId
  store.checkKind kind

/-- Stores one artifact. -/
def put (articleId : String) (kind : ArtifactKind) (content : ByteArray) (store : MemoryStore) :
    Except Error ArtifactLocation × MemoryStore :=
  match store.checkPut articleId kind with
  | .error e => (.error e, store)
  | .ok () => (.ok (location articleId kind), store.insert articleId kind content)

/-- What stands against storing a bundle. -/
def checkCommit (store : MemoryStore) (articleId : String) : Except Error Unit := do
  checkName .articleId articleId
  ArtifactKind.all.forM store.checkKind

/-- Stores the artifacts of a bundle, all of them or none. -/
def commit (articleId : String) (bundle : Bundle) (store : MemoryStore) :
    Except Error (List ArtifactLocation) × MemoryStore :=
  match store.checkCommit articleId with
  | .error e => (.error e, store)
  | .ok () =>
    (.ok (ArtifactKind.all.map (location articleId)),
      bundle.artifacts.foldl
        (fun store (kind, content) => store.insert articleId kind content.toUTF8) store)

/-- What stands against storing an image. -/
def checkStage (store : MemoryStore) (articleId fileName : String) : Except Error Unit := do
  checkName .articleId articleId
  checkName .fileName fileName
  if (store.image? articleId fileName).isSome then throw (.alreadyExists fileName)

/-- Stores an image under a name that is not taken, and gives the reference to it. -/
def stage (articleId fileName : String) (content : ByteArray) (store : MemoryStore) :
    Except Error String × MemoryStore :=
  match store.checkStage articleId fileName with
  | .error e => (.error e, store)
  | .ok () =>
    (.ok (imageReference fileName),
      { store with images := Table.put store.images (articleId, fileName) content })

/-- A store in memory as a sink. -/
def sink : ArtifactSink (StateM MemoryStore) where
  name := "memory"
  put articleId kind content := modifyGet (put articleId kind content)
  commit articleId bundle := modifyGet (commit articleId bundle)

end MemoryStore

end ScrollStory
