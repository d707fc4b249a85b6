import ScrollStory.Proofs.Storage.Refinement

/-!
# Programs that keep to a region

A program is confined to a region if outside of it no file comes, goes or changes, whatever the tree
and however the operations end. Confined programs can be chained, so that it is enough to look at
the paths that a program uses. What a store does for an article is confined to the directory of the
article, and only staging reaches into the directory of its images
(`ScrollStory.DirectoryStore.confines_put`, `ScrollStory.DirectoryStore.confines_commit`,
`ScrollStory.DirectoryStore.confines_stage`).
-/

namespace ScrollStory

open FileTree (Grown Keeps IsStep destination resolve)

namespace FileTree

/-! ## Ways -/

/-- No file is at a location. -/
def NoFile (tree : FileTree) (location : Location) : Prop :=
  ∀ content, tree.occupant? location ≠ some (.file content)

section

variable {tree after : FileTree} {location : Location}

theorem NoFile.of_isDirectory (there : tree.isDirectory location = true) :
    tree.NoFile location := by
  intro content found
  rw [isDirectory_iff.mp there] at found
  cases found

theorem Grown.noFile (grown : Grown location tree after) (free : tree.NoFile location) :
    after.NoFile location :=
  fun content found => free content ((grown.file_iff content).mp found)

end

/-- A location at which some of the first names of a way lead. -/
def Passes (start : Location) (names : List String) (location : Location) : Prop :=
  ∃ front, front <+: names ∧ resolve start front = some location

theorem Passes.cons {start next location : Location} {name : String} {names : List String}
    (stepped : step? start name = some next) (passes : Passes next names location) :
    Passes start (name :: names) location := by
  obtain ⟨front, before, leads⟩ := passes
  refine ⟨name :: front, List.cons_prefix_cons.mpr ⟨rfl, before⟩, ?_⟩
  rw [resolve_cons, stepped]
  exact leads

theorem passes_start (start : Location) (names : List String) : Passes start names start :=
  ⟨[], List.nil_prefix, rfl⟩

/-- All that is passed before the end of a way is a directory. -/
theorem isDirectory_of_walk {tree : FileTree} {start stop location : Location}
    {names more : List String} (walked : tree.walk start (names ++ more) = some stop)
    (further : more ≠ []) (passes : Passes start names location) :
    tree.isDirectory location = true := by
  obtain ⟨front, ⟨rest, rfl⟩, leads⟩ := passes
  rw [List.append_assoc, walk_append] at walked
  obtain ⟨between, first, walked⟩ := Option.bind_eq_some_iff.mp walked
  have same := resolve_of_walk first
  rw [leads] at same
  cases same
  obtain ⟨name, others, split⟩ := List.exists_cons_of_ne_nil (List.append_ne_nil_of_right_ne_nil
    rest further)
  rw [split] at walked
  exact (walk_cons_iff.mp walked).1

/-! ## Confined changes -/

/-- Outside a region no file has come, gone or changed, and no file has come to a way. -/
structure Confined (region way : Location → Prop) (before after : FileTree) : Prop where
  nameLimit : after.nameLimit = before.nameLimit
  pathLimit : after.pathLimit = before.pathLimit
  outside : ∀ location, ¬region location → Grown location before after
  way : ∀ location, way location → before.NoFile location → after.NoFile location

variable {region way : Location → Prop} {tree before between after : FileTree}
  {path source target : Path} {location : Location} {α β : Type}

namespace Confined

theorem refl (tree : FileTree) : Confined region way tree tree where
  nameLimit := rfl
  pathLimit := rfl
  outside location _ := .refl location tree
  way _ _ free := free

theorem trans (first : Confined region way before between)
    (second : Confined region way between after) : Confined region way before after where
  nameLimit := second.nameLimit.trans first.nameLimit
  pathLimit := second.pathLimit.trans first.pathLimit
  outside location apart := (first.outside location apart).trans (second.outside location apart)
  way location on free := second.way location on (first.way location on free)

/-- Making directories keeps to every region. -/
theorem of_grown (keeps : Keeps before after) (grown : ∀ location, Grown location before after) :
    Confined region way before after where
  nameLimit := keeps.nameLimit
  pathLimit := keeps.pathLimit
  outside location _ := grown location
  way location _ free := (grown location).noFile free

/-- Changes are confined if they are made in the region and put no file on the way. -/
theorem of_changes (nameLimit : after.nameLimit = before.nameLimit)
    (pathLimit : after.pathLimit = before.pathLimit)
    (changes : ∀ location, after.occupant? location = before.occupant? location ∨
      region location ∧ (way location → after.NoFile location)) :
    Confined region way before after := by
  refine ⟨nameLimit, pathLimit, fun location apart => ?_, fun location on free => ?_⟩
  · rcases changes location with same | ⟨inside, _⟩
    · exact .inl same
    · exact (apart inside).elim
  · rcases changes location with same | ⟨_, clear⟩
    · intro content found
      exact free content (same ▸ found)
    · exact clear on

end Confined

/-- A path that leads into a region, and along a way. -/
structure Inside (region way : Location → Prop) (path : Path) : Prop where
  leads : ∀ location, destination path = some location → region location
  across : ∀ tree location, locate tree path = some location →
    ∀ above, way above → tree.isDirectory above = true

/-- Putting a file keeps to a region that the path leads into. -/
theorem confined_put (inside : Inside region way path) (located : tree.locate path = some location)
    (vacant : tree.isDirectory location = false) (content : ByteArray) :
    Confined region way tree (tree.put location (.file content)) := by
  have holds := occupant?_put tree (ne_nil_of_isDirectory vacant) (.file content)
  refine .of_changes rfl rfl fun other => ?_
  by_cases here : other = location
  · refine .inr ⟨here ▸ inside.leads location (destination_of_locate located), fun on => ?_⟩
    -- What is on the way is a directory, and no file is put in its place.
    rw [here] at on
    rw [inside.across tree location located location on] at vacant
    cases vacant
  · rw [holds, if_neg here]
    exact .inl rfl

/-- Removing a file keeps to a region that it is in. -/
theorem confined_erase (inside : region location) (vacant : tree.isDirectory location = false) :
    Confined region way tree (tree.erase location) := by
  have holds := occupant?_erase tree (ne_nil_of_isDirectory vacant)
  refine .of_changes rfl rfl fun other => ?_
  rw [holds]
  by_cases here : other = location
  · refine .inr ⟨here ▸ inside, fun _ content found => ?_⟩
    rw [holds, if_pos here] at found
    cases found
  · rw [if_neg here]
    exact .inl rfl

/-! ## Confined programs -/

/-- A program that keeps to a region on every tree. -/
def Confines (region way : Location → Prop) (program : StateM FileTree α) : Prop :=
  ∀ tree, Confined region way tree (program.run tree).2

namespace Confines

theorem pure (a : α) : Confines region way (Pure.pure a) := fun tree => .refl tree

theorem bind {first : StateM FileTree α} {next : α → StateM FileTree β}
    (begins : Confines region way first) (goes : ∀ a, Confines region way (next a)) :
    Confines region way (first >>= next) :=
  fun tree => (begins tree).trans (goes _ _)

/-- A program that goes on by the result of an operation. -/
theorem branch {test : StateM FileTree Bool} {yes no : StateM FileTree α}
    (begins : Confines region way test) (one : Confines region way yes)
    (other : Confines region way no) :
    Confines region way (test >>= fun done => if done then yes else no) :=
  begins.bind fun done => by
    cases done with
    | false => exact other
    | true => exact one

end Confines

theorem confines_makeDirectories (path : Path) :
    Confines region way (FileAccess.makeDirectories path) := by
  intro tree
  obtain ⟨keeps, grown, _⟩ := @of_makeDirectories tree _ path _ rfl
  exact .of_grown keeps grown

theorem confines_isFile (path : Path) : Confines region way (FileAccess.isFile path) :=
  fun tree => .refl tree

namespace Inside

/-- Writing a file keeps to a region that the path leads into. -/
theorem write (inside : Inside region way path) (content : ByteArray) :
    Confines region way (FileAccess.write path content) := by
  intro tree
  change Confined region way tree (FileTree.write path content tree).2
  unfold FileTree.write
  split
  · exact .refl tree
  · rename_i location located
    split
    · exact .refl tree
    · rename_i vacant
      exact confined_put inside located (Bool.eq_false_iff.mpr vacant) content

/-- Creating a file keeps to a region that the path leads into. -/
theorem create (inside : Inside region way path) (content : ByteArray) :
    Confines region way (FileAccess.create path content) := by
  intro tree
  change Confined region way tree (FileTree.create path content tree).2
  unfold FileTree.create
  split
  · exact .refl tree
  · rename_i location located
    split
    · exact .refl tree
    · rename_i empty
      rw [Option.isSome_iff_ne_none, not_not] at empty
      exact confined_put inside located (not_isDirectory_of_none empty) content

/-- Moving a file keeps to a region that both paths lead into. -/
theorem move (inside : Inside region way source) (inside' : Inside region way target) :
    Confines region way (FileAccess.move source target) := by
  intro tree
  change Confined region way tree (FileTree.move source target tree).2
  unfold FileTree.move
  split
  · rename_i here there start stop
    split
    · rename_i content found
      split
      · exact .refl tree
      · rename_i vacant
        have left := not_isDirectory_of_file found
        have gone : Confined region way tree (tree.erase here) :=
          confined_erase (inside.leads here (destination_of_locate start)) left
        have vacant' : (tree.erase here).isDirectory there = false := by
          by_cases same : there = here
          · refine not_isDirectory_of_none ?_
            rw [occupant?_erase tree (ne_nil_of_isDirectory left), if_pos same]
          · rw [isDirectory, occupant?_erase tree (ne_nil_of_isDirectory left), if_neg same]
            exact Bool.eq_false_iff.mpr vacant
        exact gone.trans (confined_put inside' ((keeps_erase left).locate stop) vacant' content)
    · exact .refl tree
  · exact .refl tree

/-- Removing a file keeps to a region that the path leads into. -/
theorem removeFile (inside : Inside region way path) :
    Confines region way (FileAccess.removeFile path) := by
  intro tree
  change Confined region way tree (FileTree.removeFile path tree).2
  unfold FileTree.removeFile
  split
  · exact .refl tree
  · rename_i location located
    split
    · rename_i content found
      exact confined_erase (inside.leads location (destination_of_locate located))
        (not_isDirectory_of_file found)
    · exact .refl tree

end Inside

/-- What pruning does at a location, also if everything is pruned. -/
theorem prune_cases (tree : FileTree) (area location : Location) :
    (tree.prune area).occupant? location = tree.occupant? location ∨
      area <+: location ∧ (tree.prune area).occupant? location = none := by
  by_cases top : location = []
  · refine .inl ?_
    rw [occupant?, occupant?, if_pos top, if_pos top]
  · have kept := Table.get?_filter tree.entries (fun other => !area.isPrefixOf other) location
    rw [occupant?, occupant?, if_neg top, if_neg top, prune, kept]
    by_cases below : area.isPrefixOf location = true
    · refine .inr ⟨List.isPrefixOf_iff_prefix.mp below, ?_⟩
      rw [below]
      rfl
    · rw [Bool.not_eq_true] at below
      rw [below]
      exact .inl rfl

/-- Clearing a directory keeps to a region that it is in. -/
theorem confines_clear
    (within : ∀ area, destination path = some area → ∀ location, area <+: location →
      region location) : Confines region way (FileAccess.clear path) := by
  intro tree
  change Confined region way tree (FileTree.clear path tree).2
  unfold FileTree.clear
  split
  · exact .refl tree
  · rename_i area located
    split
    · exact .refl tree
    · refine .of_changes rfl rfl fun location => ?_
      rcases prune_cases tree area location with same | ⟨below, gone⟩
      · exact .inl same
      · refine .inr ⟨within area (destination_of_locate located) location below, ?_⟩
        intro _ content found
        rw [gone] at found
        cases found
    · exact .refl tree

end FileTree

/-! ## Confined stores -/

namespace DirectoryStore

variable {region way : Location → Prop} {path source target kept : Path} {swap : Swap}

section

variable (inside : FileTree.Inside region way target)
include inside

/-- Writing a file beside its place and moving it there keeps to a region. -/
theorem confines_writeBeside (beside : FileTree.Inside region way (target.marked ".tmp"))
    (content : ByteArray) : FileTree.Confines region way (writeBeside target content) := by
  refine .branch (beside.write content) ?_ (.pure false)
  refine .branch (beside.move inside) (.pure true) ?_
  exact beside.removeFile.bind fun _ => .pure false

variable (aside : FileTree.Inside region way kept)
include aside

theorem confines_makeRoom : FileTree.Confines region way (makeRoom target kept) := by
  refine .branch (FileTree.confines_isFile target) ?_ (.pure Swap.added)
  refine .branch (FileTree.confines_makeDirectories _) ?_ (.pure Swap.refused)
  exact .branch (inside.move aside) (.pure Swap.replaced) (.pure Swap.refused)

theorem confines_restore (swap : Swap) :
    FileTree.Confines region way (restore swap target kept) := by
  unfold restore
  split
  · exact (aside.move inside).bind fun _ => .pure ()
  · exact .pure ()

/-- A swap keeps to a region that its paths lead into. -/
theorem confines_swapIn (origin : FileTree.Inside region way source) :
    FileTree.Confines region way (swapIn source target kept) := by
  refine .branch (FileTree.confines_makeDirectories _) ?_ (.pure Swap.refused)
  refine (confines_makeRoom inside aside).bind fun room => ?_
  have goes (room : Swap) : FileTree.Confines region way (do
      if ← FileAccess.move source target then
        return room
      else
        restore room target kept
        return .refused) := by
    refine .branch (origin.move inside) (.pure room) ?_
    exact (confines_restore inside aside room).bind fun _ => .pure Swap.refused
  cases room with
  | refused => exact .pure Swap.refused
  | added => exact goes .added
  | replaced => exact goes .replaced

end

theorem confines_writeAll {directory : Path}
    (inside : ∀ kind : ArtifactKind, FileTree.Inside region way (directory.below kind.steps))
    (artifacts : List (ArtifactKind × String)) :
    FileTree.Confines region way (writeAll directory artifacts) := by
  induction artifacts with
  | nil => exact .pure true
  | cons artifact rest ih =>
      refine .branch (FileTree.confines_makeDirectories _) ?_ (.pure false)
      exact .branch ((inside artifact.1).write _) ih (.pure false)

/-- Promoting artifacts keeps to a region that all the paths of the swaps lead into. -/
theorem confines_promote {staging directory : Path}
    (origin : ∀ kind : ArtifactKind, FileTree.Inside region way (staging.below kind.steps))
    (inside : ∀ kind : ArtifactKind, FileTree.Inside region way (directory.below kind.steps))
    (aside : ∀ kind : ArtifactKind,
      FileTree.Inside region way ((staging.child ".old").below kind.steps))
    (kinds : List ArtifactKind) :
    FileTree.Confines region way (promote staging directory kinds) := by
  induction kinds with
  | nil => exact .pure true
  | cons kind rest ih =>
      refine (confines_swapIn (inside kind) (aside kind) (origin kind)).bind fun swap => ?_
      have goes (swap : Swap) : FileTree.Confines region way (do
          if ← promote staging directory rest then
            return true
          else
            let _ ← FileAccess.removeFile (directory.below kind.steps)
            restore swap (directory.below kind.steps) ((staging.child ".old").below kind.steps)
            return false) := by
        refine .branch ih (.pure true) ?_
        refine (inside kind).removeFile.bind fun _ => ?_
        exact (confines_restore (inside kind) (aside kind) swap).bind fun _ => .pure false
      cases swap with
      | refused => exact .pure false
      | added => exact goes .added
      | replaced => exact goes .replaced

/-! ### The directory of an article -/

variable (store : DirectoryStore) (articleId : String)

/-- A location on the way to the root of a store. -/
def OnWay (location : Location) : Prop := FileTree.Passes [] store.root.openNames location

/-- A location in the directory of an article that is not in the directory of its images. -/
def Inner (location : Location) : Prop :=
  ∃ base name rest, destination store.root = some base ∧ name ≠ "images" ∧
    location = base ++ articleId :: name :: rest

variable {store articleId}

/-- A path below the root leads into a region along the way to the root. -/
theorem inside_below {names : List String} (steps : ∀ name ∈ names, IsStep name)
    (more : names ≠ [])
    (within : ∀ base, destination store.root = some base → region (base ++ names)) :
    FileTree.Inside region store.OnWay (store.root.below names) := by
  refine ⟨fun location leads => ?_, fun tree location located above on => ?_⟩
  · rw [FileTree.destination_below steps] at leads
    obtain ⟨base, rooted, rfl⟩ := Option.map_eq_some_iff.mp leads
    exact within base rooted
  · unfold FileTree.locate at located
    split at located
    · rw [Path.names_below steps more] at located
      exact FileTree.isDirectory_of_walk located more on
    · cases located

/-- Paths below the directory of an article that stay out of its images. -/
theorem inside_inner (step : IsStep articleId) {name : String} {rest : List String}
    (steps : ∀ other ∈ name :: rest, IsStep other) (apart : name ≠ "images") :
    FileTree.Inside (store.Inner articleId) store.OnWay
      ((store.articleDirectory articleId).below (name :: rest)) := by
  have every : ∀ other ∈ articleId :: name :: rest, IsStep other :=
    List.forall_mem_cons.mpr ⟨step, steps⟩
  exact inside_below every (List.cons_ne_nil _ _) fun base rooted =>
    ⟨base, name, rest, rooted, apart, rfl⟩

theorem exists_cons_steps (kind : ArtifactKind) :
    ∃ name rest, kind.steps = name :: rest ∧ name ≠ "images" := by
  cases kind with
  | html => exact ⟨_, _, rfl, by decide⟩
  | stylesheet => exact ⟨_, _, rfl, by decide⟩
  | program => exact ⟨_, _, rfl, by decide⟩

/-- Artifacts stand in the inner part of their article's directory. -/
theorem inside_artifact (step : IsStep articleId) (kind : ArtifactKind) :
    FileTree.Inside (store.Inner articleId) store.OnWay (store.artifactPath articleId kind) := by
  obtain ⟨name, rest, split, apart⟩ := exists_cons_steps kind
  have steps : ∀ other ∈ kind.steps, IsStep other := fun _ => isStep_of_mem_steps
  rw [artifactPath, split]
  rw [split] at steps
  exact inside_inner step steps apart

theorem below_articleDirectory (store : DirectoryStore) (articleId : String)
    (names : List String) :
    (store.articleDirectory articleId).below names = store.root.below (articleId :: names) := rfl

/-- The names that lead to an artifact, and those that lead to the file beside it. -/
theorem exists_concat_steps (kind : ArtifactKind) :
    ∃ folder name, kind.steps = folder ++ [name] ∧ (∀ other ∈ folder, Plain other) ∧ IsStep name ∧
      ∃ first rest, folder ++ [name ++ ".tmp"] = first :: rest ∧ first ≠ "images" ∧
        ∀ other ∈ first :: rest, IsStep other := by
  have deep {first second : String} (step : IsStep first) (step' : IsStep second) :
      ∀ other ∈ [first, second], IsStep other :=
    List.forall_mem_cons.mpr ⟨step, List.forall_mem_singleton.mpr step'⟩
  cases kind with
  | html =>
      exact ⟨[], _, rfl, List.forall_mem_nil _, ⟨by decide, rfl⟩, _, _, rfl, by decide,
        List.forall_mem_singleton.mpr ⟨by decide, rfl⟩⟩
  | stylesheet =>
      have css : Plain "css" := ⟨⟨by decide, rfl⟩, by decide⟩
      exact ⟨["css"], _, rfl, List.forall_mem_singleton.mpr css, ⟨by decide, rfl⟩, _, _, rfl,
        by decide, deep css.step ⟨by decide, rfl⟩⟩
  | program =>
      have js : Plain "js" := ⟨⟨by decide, rfl⟩, by decide⟩
      exact ⟨["js"], _, rfl, List.forall_mem_singleton.mpr js, ⟨by decide, rfl⟩, _, _, rfl,
        by decide, deep js.step ⟨by decide, rfl⟩⟩

/-- The place where an artifact is written first is beside its own. -/
theorem inside_beside (plain : Plain articleId) (kind : ArtifactKind) :
    FileTree.Inside (store.Inner articleId) store.OnWay
      ((store.artifactPath articleId kind).marked ".tmp") := by
  obtain ⟨folder, name, split, folders, step, first, rest, beside, apart, steps⟩ :=
    exists_concat_steps kind
  have every : ∀ other ∈ articleId :: folder, Plain other :=
    List.forall_mem_cons.mpr ⟨plain, folders⟩
  rw [artifactPath, split, below_articleDirectory, ← List.cons_append,
    Path.marked_below every (List.cons_ne_nil _ _) step, List.cons_append, beside,
    ← below_articleDirectory]
  exact inside_inner plain.step steps apart

/-- Artifacts are staged in the inner part of their article's directory. -/
theorem inside_staged (step : IsStep articleId) (kind : ArtifactKind) :
    FileTree.Inside (store.Inner articleId) store.OnWay
      ((store.stagingArea articleId).below kind.steps) :=
  inside_inner step (List.forall_mem_cons.mpr ⟨isStep_stagingName, fun _ => isStep_of_mem_steps⟩)
    (by decide)

/-- Artifacts are kept in the inner part of their article's directory. -/
theorem inside_kept (step : IsStep articleId) (kind : ArtifactKind) :
    FileTree.Inside (store.Inner articleId) store.OnWay
      (((store.stagingArea articleId).child ".old").below kind.steps) := by
  have old : ∀ other ∈ ".old" :: kind.steps, IsStep other :=
    List.forall_mem_cons.mpr ⟨⟨by decide, rfl⟩, fun _ => isStep_of_mem_steps⟩
  have path : ((store.stagingArea articleId).child ".old").below kind.steps =
      (store.articleDirectory articleId).below (stagingName :: ".old" :: kind.steps) := rfl
  rw [path]
  exact inside_inner step (List.forall_mem_cons.mpr ⟨isStep_stagingName, old⟩) (by decide)

theorem confines_clear_staging (step : IsStep articleId) :
    FileTree.Confines (store.Inner articleId) store.OnWay
      (FileAccess.clear (store.stagingArea articleId)) := by
  refine FileTree.confines_clear fun area leads location below => ?_
  have staged : ∀ other ∈ [articleId, stagingName], IsStep other :=
    List.forall_mem_cons.mpr ⟨step, List.forall_mem_singleton.mpr isStep_stagingName⟩
  have leads : destination (store.root.below [articleId, stagingName]) = some area := leads
  rw [FileTree.destination_below staged] at leads
  obtain ⟨base, rooted, rfl⟩ := Option.map_eq_some_iff.mp leads
  obtain ⟨rest, rfl⟩ := below
  exact ⟨base, stagingName, rest, rooted, by decide, by simp⟩

/-! ### Requests -/

theorem plain_of_checkName {kind : NameKind} {name : String}
    (good : checkName kind name = .ok ()) : Plain name :=
  plain_of_isSafeName (Request.safe_of_checkName good)

/-- Putting an artifact keeps to the inner part of its article's directory. -/
theorem confines_put (kind : ArtifactKind) (content : ByteArray) :
    FileTree.Confines (store.Inner articleId) store.OnWay (store.put articleId kind content) := by
  unfold put
  cases checked : checkName .articleId articleId with
  | error e => exact .pure _
  | ok _ =>
      have plain := plain_of_checkName checked
      refine .branch (FileTree.confines_makeDirectories _) ?_ (.pure _)
      exact .branch (confines_writeBeside (inside_artifact plain.step kind)
        (inside_beside plain kind) content) (.pure _) (.pure _)

/-- A commit keeps to the inner part of its article's directory. -/
theorem confines_commit (bundle : Bundle) :
    FileTree.Confines (store.Inner articleId) store.OnWay (store.commit articleId bundle) := by
  unfold commit
  cases checked : checkName .articleId articleId with
  | error e => exact .pure _
  | ok _ =>
      have step := (plain_of_checkName checked).step
      have clears : FileTree.Confines (store.Inner articleId) store.OnWay
          (FileAccess.clear (store.stagingArea articleId)) := confines_clear_staging step
      refine .branch clears ?_ (.pure _)
      refine .branch (confines_writeAll (inside_staged step) _) ?_ ?_
      · refine (confines_promote (inside_staged step) (inside_artifact step) (inside_kept step)
          _).bind fun promoted => clears.bind fun _ => ?_
        cases promoted with
        | false => exact .pure _
        | true => exact .pure _
      · exact clears.bind fun _ => .pure _

/-- The place of an image. -/
def Pictured (store : DirectoryStore) (articleId fileName : String) (location : Location) : Prop :=
  ∃ base, destination store.root = some base ∧ location = base ++ [articleId, "images", fileName]

/-- An image stands in its place. -/
theorem inside_image {fileName : String} (step : IsStep articleId) (step' : IsStep fileName) :
    FileTree.Inside (store.Pictured articleId fileName) store.OnWay
      ((store.imageDirectory articleId).child fileName) := by
  have steps : ∀ other ∈ [articleId, "images", fileName], IsStep other := by
    refine List.forall_mem_cons.mpr ⟨step, List.forall_mem_cons.mpr ⟨⟨by decide, rfl⟩, ?_⟩⟩
    exact List.forall_mem_singleton.mpr step'
  exact inside_below steps (List.cons_ne_nil _ _) fun base rooted => ⟨base, rooted, rfl⟩

/-- Staging an image changes no file but that of the image. -/
theorem confines_stage (fileName : String) (content : ByteArray) :
    FileTree.Confines (store.Pictured articleId fileName) store.OnWay
      (store.stage articleId fileName content) := by
  unfold stage
  cases checked : checkName .articleId articleId with
  | error e => exact .pure _
  | ok _ =>
      cases named : checkName .fileName fileName with
      | error e => exact .pure _
      | ok _ =>
          have inside : FileTree.Inside (store.Pictured articleId fileName) store.OnWay
              ((store.imageDirectory articleId).child fileName) :=
            inside_image (plain_of_checkName checked).step (plain_of_checkName named).step
          refine .branch (FileTree.confines_makeDirectories _) ?_ (.pure _)
          refine (inside.create content).bind fun creation => ?_
          cases creation with
          | created => exact .pure _
          | occupied => exact .pure _
          | refused => exact .pure _

end DirectoryStore

end ScrollStory
