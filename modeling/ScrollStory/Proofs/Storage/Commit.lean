import ScrollStory.Proofs.Storage.Promotion

/-!
# Commits

A commit clears the staging area, writes the artifacts there, promotes them and clears the staging
area again. Outside that area it stores the whole bundle or leaves all files as they were
(`ScrollStory.DirectoryStore.commit_all_or_none`), whatever stands in its way.
-/

namespace ScrollStory

open FileTree (Grown Keeps IsStep destination)

namespace DirectoryStore

/-! ## Writing to the staging area -/

/-- An artifact belongs below where the directory leads. -/
theorem destination_below_steps (directory : Path) (kind : ArtifactKind) :
    destination (directory.below kind.steps) = (destination directory).map (· ++ kind.steps) :=
  FileTree.destination_below (fun _ => isStep_of_mem_steps) directory

/-- Two kinds do not share a destination. -/
theorem kind_eq_of_destination {directory : Path} {kind other : ArtifactKind} {location : Location}
    (here : destination (directory.below kind.steps) = some location)
    (there : destination (directory.below other.steps) = some location) : kind = other := by
  rw [destination_below_steps] at here there
  obtain ⟨base, located, rfl⟩ := Option.map_eq_some_iff.mp here
  rw [located] at there
  exact (placeOf_inj (Option.some.inj there)).symm

/-- What writing artifacts below a directory did, by its result. -/
structure Written (directory : Path) (artifacts : List (ArtifactKind × String))
    (before after : FileTree) (done : Bool) : Prop where
  keeps : Keeps before after
  parents : done = true → ∀ artifact ∈ artifacts, ∃ location,
    after.locate (directory.below artifact.1.steps).parent = some location ∧
    after.isDirectory location = true
  arrived : done = true → ∀ artifact ∈ artifacts, ∃ location,
    destination (directory.below artifact.1.steps) = some location ∧
    after.occupant? location = some (.file artifact.2.toUTF8)
  others : ∀ location,
    (∀ artifact ∈ artifacts, destination (directory.below artifact.1.steps) ≠ some location) →
    Grown location before after

/-- An artifact that is written before all others stays where it is. -/
theorem written_cons {directory : Path} {kind : ArtifactKind} {content : String}
    {rest : List (ArtifactKind × String)} {before first second after : FileTree} {done : Bool}
    (fresh : kind ∉ rest.map Prod.fst)
    (making : FileTree.makeDirectories (directory.below kind.steps).parent before = (true, first))
    (writing : FileTree.write (directory.below kind.steps) content.toUTF8 first = (true, second))
    (later : Written directory rest second after done) :
    Written directory ((kind, content) :: rest) before after done := by
  obtain ⟨keeps, grown, parent⟩ := FileTree.of_makeDirectories making
  obtain ⟨location, leads, keeps', holds, same⟩ := FileTree.of_write writing
  refine ⟨(keeps.trans keeps').trans later.keeps, fun done other member => ?_,
    fun done other member => ?_, fun other away => ?_⟩
  · rcases List.mem_cons.mp member with rfl | member
    · obtain ⟨location, located, there⟩ := parent rfl
      have keeps := keeps'.trans later.keeps
      exact ⟨location, keeps.locate located, keeps.directory location there.here⟩
    · exact later.parents done other member
  · rcases List.mem_cons.mp member with rfl | member
    · have stays := later.others location fun next member same =>
        fresh (List.mem_map.mpr ⟨next, member, kind_eq_of_destination same leads⟩)
      exact ⟨location, leads, (stays.file_iff _).mpr holds⟩
    · exact later.arrived done other member
  · have apart : other ≠ location := by
      rintro rfl
      exact away (kind, content) List.mem_cons_self leads
    have written := (grown other).trans (.inl (same other apart))
    exact written.trans (later.others other fun next member =>
      away next (List.mem_cons_of_mem _ member))

/-- Writing artifacts in turn does to a tree what `Written` says. -/
theorem of_writeAll {directory : Path} {artifacts : List (ArtifactKind × String)}
    (nodup : (artifacts.map Prod.fst).Nodup) {tree after : FileTree} {done : Bool}
    (run : (writeAll directory artifacts : StateM FileTree Bool).run tree = (done, after)) :
    Written directory artifacts tree after done := by
  induction artifacts generalizing tree after done with
  | nil =>
      cases run
      exact ⟨.refl tree, nofun, nofun, fun location _ => .refl location tree⟩
  | cons artifact rest ih =>
      obtain ⟨kind, content⟩ := artifact
      obtain ⟨fresh, nodup⟩ := List.nodup_cons.mp nodup
      obtain ⟨made, first, making, run₁⟩ := of_run_bind run
      cases made with
      | false =>
          cases run₁
          obtain ⟨keeps, grown, _⟩ := FileTree.of_makeDirectories making
          exact ⟨keeps, nofun, nofun, fun location _ => grown location⟩
      | true =>
          obtain ⟨written, second, writing, run₂⟩ := of_run_bind run₁
          cases written with
          | false =>
              cases FileTree.write_refused writing
              cases run₂
              obtain ⟨keeps, grown, _⟩ := FileTree.of_makeDirectories making
              exact ⟨keeps, nofun, nofun, fun location _ => grown location⟩
          | true => exact written_cons fresh making writing (ih nodup run₂)

/-! ## Committing -/

variable (store : DirectoryStore) (articleId : String) (bundle : Bundle)

/-- A location that is not in the staging area of an article. -/
def Outside (location : Location) : Prop :=
  ∀ area, destination (store.stagingArea articleId) = some area → ¬area <+: location

/-- What a commit left behind, by its result. -/
def Committed (before after : FileTree) : Except Error (List ArtifactLocation) → Prop
  | .error _ => ∀ location, Outside store articleId location → Grown location before after
  | .ok _ =>
    (∀ kind, ∃ place, destination (store.artifactPath articleId kind) = some place ∧
      after.occupant? place = some (.file (bundle.get kind).toUTF8)) ∧
    (∀ location, Outside store articleId location →
      (∀ kind, destination (store.artifactPath articleId kind) ≠ some location) →
      Grown location before after) ∧
    ∃ area, destination (store.stagingArea articleId) = some area ∧
      ∀ location, area <+: location → after.occupant? location = none

variable {store articleId bundle} {location base : Location} {before after : FileTree}

/-- Where the staging area of an article is. -/
theorem destination_stagingArea
    (located : destination (store.articleDirectory articleId) = some base) :
    destination (store.stagingArea articleId) = some (base ++ [stagingName]) := by
  rw [stagingArea, FileTree.destination_child isStep_stagingName, located]
  rfl

/-- Where an artifact of an article is. -/
theorem destination_artifactPath
    (located : destination (store.articleDirectory articleId) = some base) (kind : ArtifactKind) :
    destination (store.artifactPath articleId kind) = some (placeOf base kind) := by
  rw [artifactPath, destination_below_steps, located]
  rfl

/-- Nothing is staged outside the staging area. -/
theorem Outside.not_staged (outside : Outside store articleId location) (kind : ArtifactKind) :
    destination ((store.stagingArea articleId).below kind.steps) ≠ some location := by
  intro staged
  rw [destination_below_steps] at staged
  obtain ⟨area, located, rfl⟩ := Option.map_eq_some_iff.mp staged
  exact outside area located (List.prefix_append area kind.steps)

/-- Outside of the staging area nothing is staged or kept. -/
theorem Outside.unstaged (outside : Outside store articleId location)
    (located : destination (store.articleDirectory articleId) = some base) :
    Unstaged base ArtifactKind.all location := by
  have apart := outside (base ++ [stagingName]) (destination_stagingArea located)
  intro kind _
  constructor
  · rintro rfl
    refine apart ⟨kind.steps, ?_⟩
    rw [List.append_assoc]
    rfl
  · rintro rfl
    refine apart ⟨".old" :: kind.steps, ?_⟩
    rw [List.append_assoc]
    rfl

/-- The artifacts of an article do not stand in its staging area. -/
theorem outside_placeOf (located : destination (store.articleDirectory articleId) = some base)
    (kind : ArtifactKind) : Outside store articleId (placeOf base kind) := by
  intro area reached within
  rw [destination_stagingArea located] at reached
  cases reached
  have steps := (List.prefix_append_right_inj base).mp within
  revert steps
  cases kind <;> decide

/-- Clearing the staging area takes nothing from outside of it. -/
theorem Outside.clear (outside : Outside store articleId location) {done : Bool}
    (cleared : FileTree.clear (store.stagingArea articleId) before = (done, after)) :
    Grown location before after := by
  have same : (FileTree.clear (store.stagingArea articleId) before).2.occupant? location =
      before.occupant? location := FileTree.occupant?_clear outside
  rw [cleared] at same
  exact .inl same

/-- Artifacts that are written are all written to the staging area of an article. -/
theorem Written.staged {done : Bool}
    (written : Written (store.stagingArea articleId) bundle.artifacts before after done)
    (outside : Outside store articleId location) : Grown location before after :=
  written.others location fun artifact _ => outside.not_staged artifact.1

/-- Artifacts of a bundle that have been written to the staging area are there with their bytes. -/
theorem Written.origin
    (written : Written (store.stagingArea articleId) bundle.artifacts before after true)
    (located : destination (store.articleDirectory articleId) = some base) (kind : ArtifactKind) :
    after.occupant? (originOf base kind) = some (.file (bundle.get kind).toUTF8) := by
  have member : (kind, bundle.get kind) ∈ bundle.artifacts :=
    List.mem_map.mpr ⟨kind, kind.mem_all, rfl⟩
  obtain ⟨place, leads, holds⟩ := written.arrived rfl (kind, bundle.get kind) member
  have origin := (leadsAll_of_destination located kind).source
  cases origin.symm.trans leads
  exact holds

/-- The first artifact is written to the staging area itself, which is a directory then. -/
theorem Written.area
    (written : Written (store.stagingArea articleId) bundle.artifacts before after true) :
    ∃ area, after.locate (store.stagingArea articleId) = some area ∧
      after.isDirectory area = true := by
  obtain ⟨area, located, there⟩ := written.parents rfl (.html, bundle.html) List.mem_cons_self
  have page : IsStep "index.html" := ⟨by decide, rfl⟩
  have parent : ((store.stagingArea articleId).child "index.html").parent =
      store.stagingArea articleId :=
    FileTree.parent_child isStep_stagingName page (store.articleDirectory articleId)
  have located : after.locate ((store.stagingArea articleId).child "index.html").parent =
      some area := located
  rw [parent] at located
  exact ⟨area, located, there⟩

theorem Written.articleDirectory
    (written : Written (store.stagingArea articleId) bundle.artifacts before after true) :
    ∃ base, destination (store.articleDirectory articleId) = some base := by
  obtain ⟨area, located, _⟩ := written.area
  have leads := FileTree.destination_of_locate located
  rw [stagingArea, FileTree.destination_child isStep_stagingName] at leads
  obtain ⟨base, located, _⟩ := Option.map_eq_some_iff.mp leads
  exact ⟨base, located⟩

/-- Artifacts that are staged and then promoted are in place when the staging area is cleared. -/
theorem committed_of_promoted {cleared staged placed : FileTree} {done : Bool}
    (locations : List ArtifactLocation)
    (located : destination (store.articleDirectory articleId) = some base)
    (prepared : ∀ location, Outside store articleId location → Grown location before staged)
    (written : Written (store.stagingArea articleId) bundle.artifacts cleared staged true)
    (promoted : Promoted base ArtifactKind.all staged placed true)
    (clearing : FileTree.clear (store.stagingArea articleId) placed = (done, after)) :
    Committed store articleId bundle before after (.ok locations) := by
  refine ⟨fun kind => ⟨placeOf base kind, destination_artifactPath located kind, ?_⟩,
    fun location outside away => ?_, base ++ [stagingName], destination_stagingArea located,
    fun location within => ?_⟩
  · obtain ⟨content, origin, arrived⟩ := promoted.arrived rfl kind kind.mem_all
    have staged := written.origin located kind
    cases origin.symm.trans staged
    have stays := (outside_placeOf located kind).clear clearing
    exact (stays.file_iff _).mpr arrived
  · have moved := promoted.others location (outside.unstaged located) fun _ kind _ same =>
      away kind (same ▸ destination_artifactPath located kind)
    exact ((prepared location outside).trans moved).trans (outside.clear clearing)
  · obtain ⟨area, reached, there⟩ := written.area
    have same := FileTree.destination_of_locate reached
    cases same.symm.trans (destination_stagingArea located)
    have gone := FileTree.clear_directory (List.concat_ne_nil _ _)
      (promoted.keeps.locate reached) (promoted.keeps.directory _ there) within
    rw [clearing] at gone
    exact gone

/-- A commit leaves behind what `Committed` says of its result, in any tree. The steps of the commit
are taken one by one, and each of them may fail. -/
theorem of_commit {tree : FileTree} {result : Except Error (List ArtifactLocation)}
    (run : (store.commit articleId bundle : StateM FileTree _).run tree = (result, after)) :
    Committed store articleId bundle tree after result := by
  unfold commit at run
  cases checked : checkName .articleId articleId with
  | error e =>
      rw [checked] at run
      cases run
      exact fun location _ => .refl location after
  | ok _ =>
      rw [checked] at run
      obtain ⟨cleared, first, clearing, run₁⟩ := of_run_bind run
      cases cleared with
      | false =>
          cases FileTree.clear_refused clearing
          cases run₁
          exact fun location _ => .refl location after
      | true =>
          obtain ⟨done, second, writing, run₂⟩ := of_run_bind run₁
          have nodup : (bundle.artifacts.map Prod.fst).Nodup :=
            (by decide : ArtifactKind.all.Nodup)
          have written := of_writeAll nodup writing
          -- Before artifacts are promoted, files come and go only in the staging area.
          have prepared (location : Location) (outside : Outside store articleId location) :
              Grown location tree second :=
            (outside.clear clearing).trans (written.staged outside)
          cases done with
          | false =>
              obtain ⟨_, third, clearing', run₃⟩ := of_run_bind run₂
              cases run₃
              exact fun location outside =>
                (prepared location outside).trans (outside.clear clearing')
          | true =>
              obtain ⟨went, third, promoting, run₃⟩ := of_run_bind run₂
              obtain ⟨_, fourth, clearing', run₄⟩ := of_run_bind run₃
              obtain ⟨base, located⟩ := written.articleDirectory
              have promoted := of_promote (leadsAll_of_destination located) (by decide) promoting
              cases went with
              | false =>
                  cases run₄
                  intro location outside
                  have moved := promoted.others location (outside.unstaged located) nofun
                  exact ((prepared location outside).trans moved).trans (outside.clear clearing')
              | true =>
                  cases run₄
                  exact committed_of_promoted _ located prepared written promoted clearing'

/-- **A commit is all or nothing.** A commit that is refused changes no file outside the staging
area and makes none there; directories may have been added. One that succeeds puts every artifact of
the bundle in its place, changes no other file outside the staging area and leaves nothing in it. -/
theorem commit_all_or_none (store : DirectoryStore) (articleId : String) (bundle : Bundle)
    (tree : FileTree) :
    let outcome := (store.commit articleId bundle : StateM FileTree _).run tree
    Committed store articleId bundle tree outcome.2 outcome.1 :=
  of_commit rfl

/-- A file where a directory belongs stops the last artifact, and the page comes back. -/
example :
    let bundle : Bundle := ⟨"tale", "new", "", "", ⟨0, 0, 0, 0, 0, 0⟩⟩
    let page : Path := .ofText "out/tale/index.html"
    let tree : FileTree :=
      { entries := [
          (["out"], .directory), (["out", "tale"], .directory),
          (["out", "tale", "index.html"], .file "old".toUTF8),
          (["out", "tale", "js"], .file "".toUTF8)] }
    let commit (tree : FileTree) :=
      (commit ⟨.ofText "out", none⟩ "tale" bundle : StateM FileTree _).run tree
    (commit tree).1.isOk = false ∧ (commit tree).2.read page = some "old".toUTF8 ∧
      (commit {}).2.read page = some "new".toUTF8 := by
  decide +kernel

end DirectoryStore

end ScrollStory
