import Mathlib.Data.List.Forall2
import ScrollStory.Proofs.Storage.Storing
import ScrollStory.Storage.MemoryStore

/-!
# Directories and memory agree

A store in a directory and one in memory answer every request alike, and after every request the
files below the root are the artifacts and images in memory
(`ScrollStory.DirectoryStore.requests_agree`). One request preserves that as long as the directory
is orderly, and a root that is not there yet may be taken for an empty one.
-/

namespace ScrollStory

open FileTree (Keeps Grown IsStep destination)

open DirectoryStore (Regular Stored Ground Orderly steps_inj steps_ne_image run_bind_eq)

/-! ## Stores in memory -/

namespace MemoryStore

/-- A store holds an artifact or an image for a place. -/
def Holds (memory : MemoryStore) (way : List String) (data : ByteArray) : Prop :=
  (∃ (articleId : String) (kind : ArtifactKind), way = articleId :: kind.steps ∧
      Table.get? memory.artifacts (articleId, kind) = some data) ∨
    ∃ articleId fileName, way = [articleId, "images", fileName] ∧
      memory.image? articleId fileName = some data

variable {memory after : MemoryStore} {articleId fileName : String} {kind : ArtifactKind}
  {way : List String} {data : ByteArray} {news : List (List String × ByteArray)}

/-- A store holds an artifact at its place if its table does. -/
theorem holds_artifact_iff :
    memory.Holds (articleId :: kind.steps) data ↔
      Table.get? memory.artifacts (articleId, kind) = some data := by
  constructor
  · rintro (⟨_, _, same, found⟩ | ⟨_, _, same, _⟩)
    · obtain ⟨rfl, rfl⟩ := steps_inj same
      exact found
    · exact (steps_ne_image (List.cons.inj same).2).elim
  · exact fun found => .inl ⟨articleId, kind, rfl, found⟩

/-- A store holds an image at its place if its table does. -/
theorem holds_image_iff :
    memory.Holds [articleId, "images", fileName] data ↔
      memory.image? articleId fileName = some data := by
  constructor
  · rintro (⟨_, _, same, _⟩ | ⟨_, _, same, found⟩)
    · exact (steps_ne_image (List.cons.inj same).2.symm).elim
    · cases same
      exact found
  · exact fun found => .inr ⟨articleId, fileName, rfl, found⟩

/-- What a store holds is at the place of an artifact or of an image. -/
theorem regular_of_holds (holds : memory.Holds way data) : Regular way := by
  rcases holds with ⟨articleId, kind, rfl, _⟩ | ⟨articleId, fileName, rfl, _⟩
  · exact .inl ⟨articleId, kind, rfl⟩
  · exact .inr ⟨articleId, fileName, rfl⟩

theorem not_holds_empty : ¬Holds {} way data := by
  rintro (⟨_, _, _, found⟩ | ⟨_, _, _, found⟩) <;> cases found

/-- A store holds one content at a place. -/
theorem holds_unique {other : ByteArray} (holds : memory.Holds way data)
    (holds' : memory.Holds way other) : data = other := by
  rcases holds with ⟨articleId, kind, rfl, found⟩ | ⟨articleId, fileName, rfl, found⟩
  · exact Option.some.inj (found.symm.trans (holds_artifact_iff.mp holds'))
  · exact Option.some.inj (found.symm.trans (holds_image_iff.mp holds'))

/-- A store holds some news, and everywhere else what another one holds. -/
structure Extends (memory : MemoryStore) (news : List (List String × ByteArray))
    (after : MemoryStore) : Prop where
  arrived : ∀ new ∈ news, after.Holds new.1 new.2
  others : ∀ way data, (∀ new ∈ news, way ≠ new.1) →
    (after.Holds way data ↔ memory.Holds way data)

theorem Extends.refl (memory : MemoryStore) : memory.Extends [] memory where
  arrived _ member := (List.not_mem_nil member).elim
  others _ _ _ := Iff.rfl

/-- A store to which artifacts have been put holds them, and what it held elsewhere. -/
theorem extends_artifacts (kinds : List ArtifactKind) (value : ArtifactKind → ByteArray)
    (artifacts : ∀ id kind, Table.get? after.artifacts (id, kind) =
      if id = articleId ∧ kind ∈ kinds then some (value kind)
      else Table.get? memory.artifacts (id, kind))
    (images : after.images = memory.images) :
    memory.Extends (kinds.map fun kind => (articleId :: kind.steps, value kind)) after := by
  refine ⟨fun new member => ?_, fun way data fresh => ?_⟩
  · obtain ⟨kind, listed, rfl⟩ := List.mem_map.mp member
    exact holds_artifact_iff.mpr ((artifacts _ _).trans (if_pos ⟨rfl, listed⟩))
  · refine or_congr (exists_congr fun id => exists_congr fun kind =>
      and_congr_right fun here => ?_) (by simp only [image?, images])
    rw [artifacts, if_neg]
    rintro ⟨rfl, listed⟩
    exact fresh _ (List.mem_map.mpr ⟨kind, listed, rfl⟩) here

/-- A store into which an artifact is put is extended by it. -/
theorem extends_insert (memory : MemoryStore) (articleId : String) (kind : ArtifactKind)
    (content : ByteArray) :
    memory.Extends [(articleId :: kind.steps, content)] (memory.insert articleId kind content) := by
  refine extends_artifacts [kind] (fun _ => content) (fun id other => ?_) rfl
  rw [insert, Table.get?_put]
  simp [Prod.ext_iff]

/-- What a store holds once the artifacts of a bundle have been put into it. -/
theorem get?_insert_bundle (memory : MemoryStore) (articleId : String) (bundle : Bundle)
    (id : String) (kind : ArtifactKind) :
    Table.get? (bundle.artifacts.foldl
        (fun store (kind, content) => store.insert articleId kind content.toUTF8) memory).artifacts
          (id, kind) =
      if id = articleId then some (bundle.get kind).toUTF8
      else Table.get? memory.artifacts (id, kind) := by
  simp only [Bundle.artifacts, ArtifactKind.all, List.map_cons, List.map_nil, List.foldl_cons,
    List.foldl_nil, insert, Table.get?_put, Prod.mk.injEq]
  by_cases same : id = articleId <;> cases kind <;> simp [same]

/-- A store into which a bundle is put is extended by the bundle's artifacts. -/
theorem extends_bundle (memory : MemoryStore) (articleId : String) (bundle : Bundle) :
    memory.Extends
      (ArtifactKind.all.map fun kind => (articleId :: kind.steps, (bundle.get kind).toUTF8))
      (bundle.artifacts.foldl
        (fun store (kind, content) => store.insert articleId kind content.toUTF8) memory) := by
  refine extends_artifacts ArtifactKind.all _ (fun id kind => ?_) rfl
  simp only [get?_insert_bundle, kind.mem_all, and_true]

/-- A store into which an image is put is extended by it. -/
theorem extends_image (memory : MemoryStore) (articleId fileName : String) (content : ByteArray) :
    memory.Extends [([articleId, "images", fileName], content)]
      { memory with images := Table.put memory.images (articleId, fileName) content } := by
  have lookup (id name : String) :
      image? { memory with images := Table.put memory.images (articleId, fileName) content }
        id name = if (id, name) = (articleId, fileName) then some content
          else memory.image? id name :=
    Table.get?_put memory.images (articleId, fileName) (id, name) content
  refine ⟨fun new member => ?_, fun way data fresh => ?_⟩
  · cases List.mem_singleton.mp member
    exact holds_image_iff.mpr ((lookup articleId fileName).trans (if_pos rfl))
  · refine or_congr Iff.rfl (exists_congr fun id => exists_congr fun name =>
      and_congr_right fun here => ?_)
    rw [lookup, if_neg]
    intro same
    cases same
    exact fresh _ (List.mem_singleton_self _) here

/-! ### What is stored -/

theorem checkKind_of_willing (willing : memory.refused = none) (kind : ArtifactKind) :
    memory.checkKind kind = .ok () := by
  rw [checkKind, willing]
  rfl

section Storing

variable (checked : checkName .articleId articleId = .ok ())

include checked

/-- Memory that refuses nothing takes an artifact. -/
theorem put_of_willing (willing : memory.refused = none) (kind : ArtifactKind)
    (content : ByteArray) : put articleId kind content memory =
      (.ok (location articleId kind), memory.insert articleId kind content) := by
  rw [put, checkPut, checked]
  simp only [bind, Except.bind, checkKind_of_willing willing]

/-- Memory that refuses nothing takes a bundle. -/
theorem commit_of_willing (willing : memory.refused = none) (bundle : Bundle) :
    commit articleId bundle memory =
      (.ok (ArtifactKind.all.map (location articleId)), bundle.artifacts.foldl
        (fun store (kind, content) => store.insert articleId kind content.toUTF8) memory) := by
  rw [commit, checkCommit, checked]
  simp [ArtifactKind.all, bind, Except.bind, checkKind_of_willing willing, pure, Except.pure]

/-- Memory refuses an image under a name that is taken. -/
theorem stage_of_image? (named : checkName .fileName fileName = .ok ())
    (taken : memory.image? articleId fileName = some data) (content : ByteArray) :
    stage articleId fileName content memory = (.error (.alreadyExists fileName), memory) := by
  rw [stage, checkStage, checked, named, taken]
  rfl

/-- Memory takes an image under a name that is free. -/
theorem stage_of_free (named : checkName .fileName fileName = .ok ())
    (free : memory.image? articleId fileName = none) (content : ByteArray) :
    stage articleId fileName content memory = (.ok (imageReference fileName),
      { memory with images := Table.put memory.images (articleId, fileName) content }) := by
  rw [stage, checkStage, checked, named, free]
  rfl

end Storing

end MemoryStore

/-! ## Requests -/

/-- A request to a store. -/
inductive Request where
  | put (articleId : String) (kind : ArtifactKind) (content : ByteArray)
  | commit (articleId : String) (bundle : Bundle)
  | stage (articleId fileName : String) (content : ByteArray)

namespace Request

/-- Answers a request from a directory: with an error, or with the reference to an image that has
been staged. Where artifacts are stored is left out. -/
def onDirectory (store : DirectoryStore) :
    Request → StateM FileTree (Except Error (Option String))
  | put articleId kind content => return (← store.put articleId kind content).map fun _ => none
  | commit articleId bundle => return (← store.commit articleId bundle).map fun _ => none
  | stage articleId fileName content => return (← store.stage articleId fileName content).map some

/-- Answers a request from memory in the same way. -/
def onMemory : Request → StateM MemoryStore (Except Error (Option String))
  | put articleId kind content =>
    return (← modifyGet (MemoryStore.put articleId kind content)).map fun _ => none
  | commit articleId bundle =>
    return (← modifyGet (MemoryStore.commit articleId bundle)).map fun _ => none
  | stage articleId fileName content =>
    return (← modifyGet (MemoryStore.stage articleId fileName content)).map some

/-- The answers to requests one after another, each with the state behind it. -/
def trace {σ α : Type} (answer : Request → StateM σ α) : List Request → σ → List (α × σ)
  | [], _ => []
  | request :: requests, state =>
    let result := (answer request).run state
    result :: trace answer requests result.2

/-- What stands against the names in a request. -/
def check : Request → Except Error Unit
  | put articleId _ _ => checkName .articleId articleId
  | commit articleId _ => checkName .articleId articleId
  | stage articleId fileName _ => do
    checkName .articleId articleId
    checkName .fileName fileName

theorem run_modifyGet {α β : Type} {f : MemoryStore → α × MemoryStore}
    {next : α → StateM MemoryStore β} {memory after : MemoryStore} {a : α}
    (done : f memory = (a, after)) : (modifyGet f >>= next).run memory = (next a).run after := by
  rw [StateT.run_bind, StateT.run_modifyGet, done]
  rfl

variable {request : Request} {e : Error} {store : DirectoryStore} {base : Location}
  {ground tree : FileTree} {memory : MemoryStore}

/-- A name that is not safe is refused before anything is done. -/
theorem of_check_error (bad : request.check = .error e) (tree : FileTree) (memory : MemoryStore) :
    (request.onDirectory store).run tree = (.error e, tree) ∧
      request.onMemory.run memory = (.error e, memory) := by
  cases request with
  | put articleId kind content =>
      have bad : checkName .articleId articleId = .error e := bad
      have refused : MemoryStore.put articleId kind content memory = (.error e, memory) := by
        rw [MemoryStore.put, MemoryStore.checkPut, bad]
        rfl
      rw [onMemory, run_modifyGet refused, onDirectory, DirectoryStore.put, bad]
      exact ⟨rfl, rfl⟩
  | commit articleId bundle =>
      have bad : checkName .articleId articleId = .error e := bad
      have refused : MemoryStore.commit articleId bundle memory = (.error e, memory) := by
        rw [MemoryStore.commit, MemoryStore.checkCommit, bad]
        rfl
      rw [onMemory, run_modifyGet refused, onDirectory, DirectoryStore.commit, bad]
      exact ⟨rfl, rfl⟩
  | stage articleId fileName content =>
      have refused : MemoryStore.stage articleId fileName content memory = (.error e, memory) ∧
          (store.stage articleId fileName content : StateM FileTree _).run tree =
            (.error e, tree) := by
        rw [MemoryStore.stage, MemoryStore.checkStage, DirectoryStore.stage]
        rw [check] at bad
        cases first : checkName .articleId articleId with
        | error fault =>
            rw [first] at bad
            cases bad
            exact ⟨rfl, rfl⟩
        | ok _ =>
            rw [first] at bad
            have bad : checkName .fileName fileName = .error e := bad
            rw [bad]
            exact ⟨rfl, rfl⟩
      rw [onMemory, run_modifyGet refused.1, onDirectory, run_bind_eq refused.2]
      exact ⟨rfl, rfl⟩

/-- The names of an image have been checked if nothing stands against its request. -/
theorem names_of_check_stage {articleId fileName : String} {content : ByteArray}
    (good : (stage articleId fileName content).check = .ok ()) :
    checkName .articleId articleId = .ok () ∧ checkName .fileName fileName = .ok () := by
  rw [check] at good
  cases first : checkName .articleId articleId with
  | error fault =>
      rw [first] at good
      cases good
  | ok _ =>
      rw [first] at good
      exact ⟨rfl, good⟩

theorem safe_of_checkName {kind : NameKind} {name : String} (good : checkName kind name = .ok ()) :
    isSafeName name = true := by
  unfold checkName at good
  split at good
  · assumption
  · cases good

/-- The files below a location are the artifacts and images in a store. -/
def Mirrors (base : Location) (tree : FileTree) (memory : MemoryStore) : Prop :=
  ∀ way data, tree.occupant? (base ++ way) = some (.file data) ↔ memory.Holds way data

/-- A directory and a store that get the same news go on to have the same contents. -/
theorem Mirrors.stored {news : List (List String × ByteArray)} {after : FileTree}
    {memory' : MemoryStore} (mirrors : Mirrors base tree memory)
    (stored : Stored base news tree after) (extends_ : memory.Extends news memory') :
    Mirrors base after memory' := by
  intro way data
  by_cases fresh : ∀ new ∈ news, way ≠ new.1
  · rw [extends_.others way data fresh]
    by_cases regular : Regular way
    · rw [stored.others way data regular fresh]
      exact mirrors way data
    · exact ⟨fun found => (mirrors way data).mp (stored.irregular way data regular found),
        fun holds => (regular (MemoryStore.regular_of_holds holds)).elim⟩
  · simp only [ne_eq, not_forall, not_not] at fresh
    obtain ⟨new, member, rfl⟩ := fresh
    have arrived := extends_.arrived new member
    rw [stored.arrived new member]
    constructor
    · intro same
      cases same
      exact arrived
    · intro holds
      rw [MemoryStore.holds_unique holds arrived]

/-- An orderly directory that mirrors a store in memory goes on to do so with every request. -/
theorem step (bare : Ground store.root base ground) (orderly : Orderly base ground tree)
    (mirrors : Mirrors base tree memory) (willing : memory.refused = none)
    (good : request.check = .ok ()) :
    ∃ answer after memory', (request.onDirectory store).run tree = (answer, after) ∧
      request.onMemory.run memory = (answer, memory') ∧ Orderly base ground after ∧
      Mirrors base after memory' ∧ memory'.refused = none := by
  cases request with
  | put articleId kind content =>
      have good : checkName .articleId articleId = .ok () := good
      obtain ⟨after, run, orderly', stored⟩ :=
        DirectoryStore.put_stores bare orderly (safe_of_checkName good) kind content
      have put := MemoryStore.put_of_willing good willing kind content
      refine ⟨.ok none, after, _, ?_, ?_, orderly',
        mirrors.stored stored (memory.extends_insert articleId kind content), willing⟩
      · rw [onDirectory, run_bind_eq run]
        rfl
      · rw [onMemory, run_modifyGet put]
        rfl
  | commit articleId bundle =>
      have good : checkName .articleId articleId = .ok () := good
      obtain ⟨after, run, orderly', stored⟩ :=
        DirectoryStore.commit_stores bare orderly (safe_of_checkName good) bundle
      have commit := MemoryStore.commit_of_willing good willing bundle
      refine ⟨.ok none, after, _, ?_, ?_, orderly',
        mirrors.stored stored (memory.extends_bundle articleId bundle), willing⟩
      · rw [onDirectory, run_bind_eq run]
        rfl
      · rw [onMemory, run_modifyGet commit]
        rfl
  | stage articleId fileName content =>
      obtain ⟨checked, named⟩ := names_of_check_stage good
      -- Whether the name is taken has the same answer in the directory and in memory.
      have lookup := mirrors [articleId, "images", fileName]
      simp only [MemoryStore.holds_image_iff] at lookup
      obtain ⟨after, orderly', ⟨taken, found, run, stored⟩ | ⟨free, run, stored⟩⟩ :=
        DirectoryStore.stage_stores bare orderly (safe_of_checkName checked)
          (safe_of_checkName named) content
      · have stage := MemoryStore.stage_of_image? checked named ((lookup taken).mp found) content
        refine ⟨.error (.alreadyExists fileName), after, memory, ?_, ?_, orderly',
          mirrors.stored stored (.refl memory), willing⟩
        · rw [onDirectory, run_bind_eq run]
          rfl
        · rw [onMemory, run_modifyGet stage]
          rfl
      · have absent : memory.image? articleId fileName = none := by
          rw [Option.eq_none_iff_forall_ne_some]
          exact fun data held => free data ((lookup data).mpr held)
        have stage := MemoryStore.stage_of_free checked named absent content
        refine ⟨.ok (some (imageReference fileName)), after, _, ?_, ?_, orderly',
          mirrors.stored stored (memory.extends_image articleId fileName content), willing⟩
        · rw [onDirectory, run_bind_eq run]
          rfl
        · rw [onMemory, run_modifyGet stage]
          rfl

end Request

/-! ## Roots that are not there -/

/-- A path leads to where nothing is, in a tree without limits, and a directory can be made there,
with nothing in it. Making a path such as `a/b/..` would put a directory into the one that it leads
to. -/
structure Absent (root : Path) (base : Location) (tree ground : FileTree) : Prop where
  nameLimit : tree.nameLimit = none
  pathLimit : tree.pathLimit = none
  leads : destination root = some base
  empty : ∀ way, tree.occupant? (base ++ way) = none
  making : FileTree.makeDirectories root tree = (true, ground)
  bare : ∀ way, way ≠ [] → ground.occupant? (base ++ way) = none

namespace Absent

variable {root : Path} {base : Location} {tree ground : FileTree}

/-- Where a root is absent, a directory can be made for it with nothing in it. -/
theorem isGround (absent : Absent root base tree ground) : Ground root base ground := by
  obtain ⟨keeps, _, made⟩ := FileTree.of_makeDirectories absent.making
  obtain ⟨location, located, there⟩ := made rfl
  cases FileTree.location_of_locate absent.leads located
  exact ⟨keeps.nameLimit.trans absent.nameLimit, keeps.pathLimit.trans absent.pathLimit, located,
    there.here, absent.bare⟩

/-- Making a directory below the root begins with the root. -/
theorem makeDirectories (absent : Absent root base tree ground) {way : List String}
    (steps : ∀ name ∈ way, IsStep name) (more : way ≠ []) :
    FileTree.makeDirectories (root.below way) tree =
      FileTree.makeDirectories (root.below way) ground := by
  have bare := absent.isGround
  have remade := FileTree.makeDirectories_of_locate bare.located bare.directory
  rw [FileTree.makeDirectories_below absent.making absent.pathLimit absent.leads steps more,
    FileTree.makeDirectories_below remade bare.pathLimit absent.leads steps more]

/-- Where a root is absent, files are those of an empty store. -/
theorem mirrors (absent : Absent root base tree ground) :
    Request.Mirrors base tree {} ∧ Request.Mirrors base ground {} := by
  have bare := absent.isGround
  refine ⟨fun way data => ?_, fun way data => ?_⟩
  · rw [absent.empty]
    exact ⟨nofun, fun held => (MemoryStore.not_holds_empty held).elim⟩
  · refine ⟨fun found => ?_, fun held => (MemoryStore.not_holds_empty held).elim⟩
    by_cases top : way = []
    · subst top
      have there := bare.directory
      rw [List.append_nil] at found
      rw [FileTree.not_isDirectory_of_file found] at there
      cases there
    · rw [bare.bare way top] at found
      cases found

end Absent

namespace Request

variable {request : Request} {store : DirectoryStore} {base : Location} {tree ground : FileTree}
  {memory : MemoryStore}

theorem run_bind_congr {α β : Type} {x : StateM FileTree α} {next : α → StateM FileTree β}
    (same : x.run tree = x.run ground) : (x >>= next).run tree = (x >>= next).run ground := by
  rw [StateT.run_bind, StateT.run_bind, same]

/-- A request whose names are safe does not see whether the root is there. -/
theorem run_absent (absent : Absent store.root base tree ground) (good : request.check = .ok ()) :
    (request.onDirectory store).run tree = (request.onDirectory store).run ground := by
  cases request with
  | put articleId kind content =>
      have good : checkName .articleId articleId = .ok () := good
      have plain := plain_of_isSafeName (safe_of_checkName good)
      obtain ⟨folder, name, split, place⟩ := (DirectoryStore.zone_article plain).filePlace kind
      have parent : (store.artifactPath articleId kind).parent = store.root.below folder := by
        rw [← Path.parent_below place.plain place.more place.named.step, ← split]
        rfl
      rw [onDirectory]
      apply run_bind_congr
      rw [DirectoryStore.put, good]
      apply run_bind_congr
      rw [parent]
      exact absent.makeDirectories (fun name member => (place.plain name member).step) place.more
  | commit articleId bundle =>
      have good : checkName .articleId articleId = .ok () := good
      have plain := plain_of_isSafeName (safe_of_checkName good)
      have staging := (DirectoryStore.zone_staging plain).plain
      have steps : ∀ name ∈ [articleId, stagingName], IsStep name :=
        fun name member => (staging name member).step
      have leads : destination (store.stagingArea articleId) =
          some (base ++ [articleId, stagingName]) := by
        have below := FileTree.destination_below steps store.root
        rw [absent.leads] at below
        exact below
      -- There is no staging area to clear yet, so the first artifact makes the way to the root.
      have cleared := FileTree.clear_absent leads (absent.empty _)
      have cleared' := FileTree.clear_absent leads (absent.bare _ (List.cons_ne_nil _ _))
      have page : IsStep "index.html" := ⟨by decide, rfl⟩
      have parent : ((store.stagingArea articleId).child "index.html").parent =
          store.root.below [articleId, stagingName] :=
        FileTree.parent_child DirectoryStore.isStep_stagingName page
          (store.articleDirectory articleId)
      have below : (store.stagingArea articleId).below ArtifactKind.html.steps =
          (store.stagingArea articleId).child "index.html" := rfl
      rw [onDirectory]
      apply run_bind_congr
      rw [DirectoryStore.commit, good]
      dsimp only
      rw [run_bind_eq (x := FileAccess.clear _) cleared,
        run_bind_eq (x := FileAccess.clear _) cleared', if_pos rfl]
      apply run_bind_congr
      rw [Bundle.artifacts, ArtifactKind.all, List.map_cons, DirectoryStore.writeAll]
      apply run_bind_congr
      rw [below, parent]
      exact absent.makeDirectories steps (List.cons_ne_nil _ _)
  | stage articleId fileName content =>
      obtain ⟨checked, named⟩ := names_of_check_stage good
      have plain := plain_of_isSafeName (safe_of_checkName checked)
      have steps : ∀ name ∈ [articleId, "images"], IsStep name := by
        simpa using ⟨plain.step, ⟨by decide, rfl⟩⟩
      rw [onDirectory]
      apply run_bind_congr
      rw [DirectoryStore.stage, checked, named]
      apply run_bind_congr
      exact absent.makeDirectories steps (List.cons_ne_nil _ _)

end Request

namespace DirectoryStore

open Request (Mirrors)

variable {store : DirectoryStore} {base : Location} {tree ground : FileTree}
  {memory : MemoryStore}

/-- The files below the root of a directory are the artifacts and images in memory, and the paths of
artifacts and images lead to them. -/
structure SameFiles (store : DirectoryStore) (tree : FileTree) (memory : MemoryStore) : Prop where
  artifacts : ∀ articleId kind, isSafeName articleId = true →
    tree.read (store.artifactPath articleId kind) =
      Table.get? memory.artifacts (articleId, kind)
  images : ∀ articleId fileName, isSafeName articleId = true → isSafeName fileName = true →
    tree.read ((store.imageDirectory articleId).child fileName) = memory.image? articleId fileName
  files : ∀ base, destination store.root = some base → Mirrors base tree memory

/-- Files are the same if every path below the root is read at its place. -/
theorem sameFiles_of_read (leads : destination store.root = some base)
    (mirrors : Mirrors base tree memory)
    (read : ∀ way data, way ≠ [] → (∀ name ∈ way, Plain name) →
      (tree.read (store.root.below way) = some data ↔
        tree.occupant? (base ++ way) = some (.file data))) : SameFiles store tree memory := by
  refine ⟨fun articleId kind safe => Option.ext fun data => ?_,
    fun articleId fileName safe named => Option.ext fun data => ?_, fun other leads' => ?_⟩
  · have plain : ∀ name ∈ articleId :: kind.steps, Plain name := by
      intro name member
      rcases List.mem_cons.mp member with rfl | member
      · exact plain_of_isSafeName safe
      · exact plain_of_mem_steps member
    rw [← MemoryStore.holds_artifact_iff, ← mirrors]
    exact read (articleId :: kind.steps) data (List.cons_ne_nil _ _) plain
  · have plain : ∀ name ∈ [articleId, "images", fileName], Plain name := by
      simpa using ⟨plain_of_isSafeName safe, ⟨⟨by decide, rfl⟩, by decide⟩,
        plain_of_isSafeName named⟩
    rw [← MemoryStore.holds_image_iff, ← mirrors]
    exact read [articleId, "images", fileName] data (List.cons_ne_nil _ _) plain
  · cases leads.symm.trans leads'
    exact mirrors

/-- In an orderly tree, files are the same if it mirrors the store. -/
theorem sameFiles_of_orderly (bare : Ground store.root base ground)
    (orderly : Orderly base ground tree) (mirrors : Mirrors base tree memory) :
    SameFiles store tree memory :=
  sameFiles_of_read (FileTree.destination_of_locate bare.located) mirrors
    fun _ _ more plain => orderly.read_iff bare plain more

/-- Where a root is absent, files are those of an empty store, also through paths. -/
theorem sameFiles_of_absent (absent : Absent store.root base tree ground) :
    SameFiles store tree {} := by
  refine sameFiles_of_read absent.leads absent.mirrors.1 fun way data more plain => ?_
  rw [absent.empty]
  refine ⟨fun read => ?_, nofun⟩
  have there : tree.isFile (store.root.below way) = true := by
    rw [FileTree.isFile, read]
    rfl
  have leads : destination (store.root.below way) = some (base ++ way) := by
    rw [FileTree.destination_below (fun name member => (plain name member).step), absent.leads]
    rfl
  obtain ⟨_, content, found⟩ := FileTree.of_isFile leads there
  rw [absent.empty] at found
  cases found

/-- An answer from a directory and one from memory are the same, and so are the files behind them.
-/
def Agrees (store : DirectoryStore) (onDisk : Except Error (Option String) × FileTree)
    (inMemory : Except Error (Option String) × MemoryStore) : Prop :=
  onDisk.1 = inMemory.1 ∧ SameFiles store onDisk.2 inMemory.2

/-- Requests from an orderly tree are answered as from the store that it mirrors. The induction is
on the requests. -/
theorem agrees_of_orderly (bare : Ground store.root base ground)
    (orderly : Orderly base ground tree) (mirrors : Mirrors base tree memory)
    (willing : memory.refused = none) (requests : List Request) :
    List.Forall₂ (Agrees store) (Request.trace (Request.onDirectory store) requests tree)
      (Request.trace Request.onMemory requests memory) := by
  induction requests generalizing tree memory with
  | nil => exact .nil
  | cons request requests ih =>
      rw [Request.trace, Request.trace]
      cases checked : request.check with
      | error e =>
          obtain ⟨onDisk, inMemory⟩ := @Request.of_check_error _ _ store checked tree memory
          rw [onDisk, inMemory]
          exact .cons ⟨rfl, sameFiles_of_orderly bare orderly mirrors⟩ (ih orderly mirrors willing)
      | ok _ =>
          obtain ⟨answer, after, memory', onDisk, inMemory, orderly', mirrors', willing'⟩ :=
            Request.step bare orderly mirrors willing checked
          rw [onDisk, inMemory]
          exact .cons ⟨rfl, sameFiles_of_orderly bare orderly' mirrors'⟩
            (ih orderly' mirrors' willing')

/-- **Directories and memory agree.** A store in a directory whose root is not there yet and an
empty store in memory answer any requests alike, and behind every one of them the files below the
root are the artifacts and images in memory. -/
theorem requests_agree (absent : Absent store.root base tree ground) (requests : List Request) :
    List.Forall₂ (Agrees store) (Request.trace (Request.onDirectory store) requests tree)
      (Request.trace Request.onMemory requests {}) := by
  induction requests with
  | nil => exact .nil
  | cons request requests ih =>
      rw [Request.trace, Request.trace]
      cases checked : request.check with
      | error e =>
          obtain ⟨onDisk, inMemory⟩ := @Request.of_check_error _ _ store checked tree {}
          rw [onDisk, inMemory]
          exact .cons ⟨rfl, sameFiles_of_absent absent⟩ ih
      | ok _ =>
          have bare := absent.isGround
          obtain ⟨answer, after, memory', onDisk, inMemory, orderly, mirrors, willing⟩ :=
            Request.step bare (.of_ground bare) absent.mirrors.2 rfl checked
          rw [Request.run_absent absent checked, onDisk, inMemory]
          exact .cons ⟨rfl, sameFiles_of_orderly bare orderly mirrors⟩
            (agrees_of_orderly bare orderly mirrors willing requests)

/-- A root of plain names is absent where nothing has its name and no file is on the way there. -/
theorem absent_of_names {names : List String} (plain : ∀ name ∈ names, Plain name)
    (more : names ≠ []) (nameLimit : tree.nameLimit = none) (pathLimit : tree.pathLimit = none)
    (clear : ∀ way, way <+: names → ∀ content, tree.occupant? way ≠ some (.file content))
    (empty : ∀ way, tree.occupant? (names ++ way) = none) :
    ∃ ground, Absent ⟨names⟩ names tree ground := by
  have steps : ∀ name ∈ names, IsStep name := fun name member => (plain name member).step
  have path : (⟨[]⟩ : Path).below names = ⟨names⟩ :=
    congrArg Path.mk (@Path.names_below ⟨[]⟩ names steps more)
  have top : FileTree.makeDirectories ⟨[]⟩ tree = (true, tree) := by
    rw [FileTree.makeDirectories, if_pos ((FileTree.admits_iff pathLimit).mpr rfl)]
    rfl
  have leads : destination ⟨names⟩ = some names := by
    rw [← path, FileTree.destination_below steps]
    rfl
  have accepted : ∀ name ∈ names, FileTree.turn name = .down ∧ tree.accepts name = true := by
    intro name member
    refine ⟨(steps name member).down, ?_⟩
    rw [FileTree.accepts, nameLimit]
    simpa [FileTree.fits] using (plain name member).noNul
  obtain ⟨ground, made, _, others⟩ := @FileTree.of_makeAlong_steps _ [] _ accepted clear
  refine ⟨ground, nameLimit, pathLimit, leads, empty, ?_, fun way inside => ?_⟩
  · rw [← path, FileTree.makeDirectories_below top pathLimit rfl steps more]
    exact made
  · rw [others, empty]
    intro part _ before same
    have longer := before.length_le
    rw [← List.nil_append part, ← same, List.length_append] at longer
    exact inside (List.length_eq_zero_iff.mp (by omega))

/-- A tree without limits in which there is nothing. -/
def unlimited : FileTree where
  nameLimit := none
  pathLimit := none

/-- In a new directory an image is staged and a page is stored, and then the name of the image is
taken. -/
theorem requests_agree_new :
    ∃ ground, Absent ⟨["out"]⟩ ["out"] unlimited ground ∧
      (Request.trace (Request.onDirectory ⟨⟨["out"]⟩, none⟩)
        [.stage "tale" "a.png" "1".toUTF8, .put "tale" .html "2".toUTF8,
          .stage "tale" "a.png" "3".toUTF8] unlimited).map Prod.fst =
        [.ok (some "images/a.png"), .ok none, .error (.alreadyExists "a.png")] := by
  have plain : ∀ name ∈ ["out"], Plain name := by
    simpa using ⟨⟨by decide, rfl⟩, by decide⟩
  have clear : ∀ way, way <+: ["out"] →
      ∀ content, unlimited.occupant? way ≠ some (.file content) := by
    intro way _ content found
    unfold FileTree.occupant? at found
    split at found <;> cases found
  obtain ⟨ground, absent⟩ := absent_of_names plain (List.cons_ne_nil _ _) rfl rfl clear
    fun _ => rfl
  refine ⟨ground, absent, ?_⟩
  have agree := @requests_agree ⟨⟨["out"]⟩, none⟩ _ _ _ absent
    [.stage "tale" "a.png" "1".toUTF8, .put "tale" .html "2".toUTF8,
      .stage "tale" "a.png" "3".toUTF8]
  have answers := List.forall₂_map_left_iff.mpr
    (List.forall₂_map_right_iff.mpr (agree.imp fun _ _ agrees => agrees.1))
  rw [List.forall₂_eq_eq_eq] at answers
  rw [answers]
  rfl

end DirectoryStore

end ScrollStory
