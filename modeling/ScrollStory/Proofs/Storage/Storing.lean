import ScrollStory.Proofs.Storage.Orderly

/-!
# Storing in orderly stores

In an orderly store nothing is in the way of an artifact, a bundle or an image: it is stored, the
store stays orderly, and of all other files none comes or changes
(`ScrollStory.DirectoryStore.Stored`). Only a name that is taken is in the way of an image.
-/

namespace ScrollStory

open FileTree (Keeps Grown IsStep destination)

namespace DirectoryStore

variable {root : Path} {base : Location} {ground tree after : FileTree} {way folder : List String}
  {name : String} {content : ByteArray}

/-! ## Files of artifacts -/

/-- A place of a file in a directory of its own. -/
structure FilePlace (folder : List String) (name : String) : Prop where
  plain : ∀ other ∈ folder, Plain other
  named : Plain name
  inFolder : isFolder folder = true
  file : isFolder (folder ++ [name]) = false

theorem FilePlace.more (place : FilePlace folder name) : folder ≠ [] := by
  rintro rfl
  cases place.inFolder

/-- An artifact has a place in a directory of its own. -/
theorem Zone.filePlace {zone : List String} (zone_ : Zone zone) (kind : ArtifactKind) :
    ∃ folder name, zone ++ kind.steps = folder ++ [name] ∧ FilePlace folder name := by
  have some : kind.steps ≠ [] := by cases kind <;> exact List.cons_ne_nil _ _
  have split : zone ++ kind.steps =
      (zone ++ kind.steps.dropLast) ++ [kind.steps.getLast some] := by
    rw [List.append_assoc, List.dropLast_concat_getLast]
  refine ⟨_, _, split, fun other member => ?_, ?_, zone_.folder kind, split ▸ zone_.file kind⟩
  · rcases List.mem_append.mp member with member | member
    · exact zone_.plain other member
    · exact plain_of_mem_steps ((List.dropLast_sublist _).subset member)
  · exact plain_of_mem_steps (List.getLast_mem some)

theorem run_bind_eq {α β : Type} {x : StateM FileTree α} {next : α → StateM FileTree β} {a : α}
    (done : x.run tree = (a, after)) : (x >>= next).run tree = (next a).run after := by
  rw [StateT.run_bind, done]
  rfl

section Storing

variable (bare : Ground root base ground) (orderly : Orderly base ground tree)

include bare orderly

/-- Where the directory of an article is. -/
theorem Orderly.destination_article {articleId : String} (plain : Plain articleId) :
    destination (root.child articleId) = some (base ++ [articleId]) := by
  rw [FileTree.destination_child plain.step,
    FileTree.destination_of_locate (orderly.keeps.locate bare.located)]
  rfl

/-- The directory for a file is made in an orderly tree, which stays orderly. -/
theorem Orderly.prepare (place : FilePlace folder name) :
    ∃ after,
      FileTree.makeDirectories (root.below (folder ++ [name])).parent tree = (true, after) ∧
      Orderly base ground after ∧
      after.locate (root.below (folder ++ [name])) = some (base ++ (folder ++ [name])) ∧
      after.isDirectory (base ++ folder) = true := by
  rw [Path.parent_below place.plain place.more place.named.step]
  obtain ⟨after, making, orderly', located, there⟩ := orderly.make bare place.plain place.inFolder
  exact ⟨after, making, orderly', orderly'.locate_file bare place.named located there, there⟩

/-- Artifacts are written in an orderly tree, which stays orderly. -/
theorem writeAll_succeeds {zone : List String} (zone_ : Zone zone)
    (artifacts : List (ArtifactKind × String)) :
    ∃ after, (writeAll (root.below zone) artifacts : StateM FileTree Bool).run tree =
        (true, after) ∧ Orderly base ground after := by
  induction artifacts generalizing tree with
  | nil => exact ⟨tree, rfl, orderly⟩
  | cons artifact rest ih =>
      obtain ⟨kind, content⟩ := artifact
      obtain ⟨folder, name, split, place⟩ := zone_.filePlace kind
      obtain ⟨first, making, orderly₁, located, there⟩ := orderly.prepare bare place
      obtain ⟨second, writing, orderly₂, _⟩ :=
        orderly₁.write place.file located there content.toUTF8
      obtain ⟨after, others, orderly₃⟩ := ih orderly₂
      refine ⟨after, ?_, orderly₃⟩
      rw [writeAll, ← Path.below_append, split,
        run_bind_eq (x := FileAccess.makeDirectories _) making, if_pos rfl,
        run_bind_eq (x := FileAccess.write _ _) writing, if_pos rfl, others]

/-- A file next to its place is moved there. -/
theorem writeBeside_succeeds (place : FilePlace folder name)
    (beside : FilePlace folder (name ++ ".tmp"))
    (there : tree.isDirectory (base ++ folder) = true) (content : ByteArray) :
    ∃ after, (writeBeside (root.below (folder ++ [name])) content : StateM FileTree Bool).run tree =
        (true, after) ∧ Orderly base ground after ∧
      ∀ other, after.occupant? other =
        if other = base ++ (folder ++ [name]) then some (.file content)
        else if other = base ++ (folder ++ [name ++ ".tmp"]) then none
        else tree.occupant? other := by
  have located : tree.locate (root.below folder) = some (base ++ folder) := by
    refine orderly.locate_of_occupied bare place.plain place.more ?_
    rw [FileTree.isDirectory_iff.mp there]
    exact nofun
  have source := orderly.locate_file bare beside.named located there
  obtain ⟨first, writing, orderly₁, keeps, written, others⟩ :=
    orderly.write beside.file source there content
  have there₁ := keeps.directory _ there
  have target := orderly₁.locate_file bare place.named (keeps.locate located) there₁
  obtain ⟨after, moving, orderly₂, _, holds⟩ :=
    orderly₁.move (keeps.locate source) written place.file target there₁
  refine ⟨after, ?_, orderly₂, fun other => ?_⟩
  · rw [writeBeside, Path.marked_below place.plain place.more place.named.step,
      run_bind_eq (x := FileAccess.write _ _) writing, if_pos rfl,
      run_bind_eq (x := FileAccess.move _ _) moving, if_pos rfl]
    rfl
  · rw [holds]
    by_cases here : other = base ++ (folder ++ [name ++ ".tmp"])
    · rw [if_pos here, if_pos here]
    · rw [if_neg here, if_neg here, others other here]

/-- Room is made for an artifact in an orderly tree, which stays orderly. -/
theorem makeRoom_succeeds
    (located : tree.locate (root.below (folder ++ [name])) = some (base ++ (folder ++ [name])))
    {aside : List String} {kept : String} (shelf : FilePlace aside kept) :
    ∃ swap after, (makeRoom (root.below (folder ++ [name])) (root.below (aside ++ [kept])) :
        StateM FileTree Swap).run tree = (swap, after) ∧ swap ≠ .refused ∧
      Orderly base ground after := by
  unfold makeRoom
  rw [run_bind_eq (x := FileAccess.isFile _) rfl]
  cases found : tree.isFile (root.below (folder ++ [name])) with
  | false => exact ⟨.added, tree, rfl, nofun, orderly⟩
  | true =>
      have leads := FileTree.destination_of_locate located
      obtain ⟨_, old, there⟩ := FileTree.of_isFile leads found
      obtain ⟨first, making, orderly₁, reached, parent⟩ := orderly.prepare bare shelf
      obtain ⟨keeps, grown, _⟩ := FileTree.of_makeDirectories making
      obtain ⟨second, moving, orderly₂, _⟩ := orderly₁.move (keeps.locate located)
        (((grown _).file_iff old).mpr there) shelf.file reached parent
      refine ⟨.replaced, second, ?_, nofun, orderly₂⟩
      rw [if_pos rfl, run_bind_eq (x := FileAccess.makeDirectories _) making, if_pos rfl,
        run_bind_eq (x := FileAccess.move _ _) moving, if_pos rfl]
      rfl

/-- An artifact that is staged is swapped in, in an orderly tree, which stays orderly. -/
theorem swapIn_succeeds {source : Path} {origin : Location} (place : FilePlace folder name)
    {aside : List String} {kept : String} (shelf : FilePlace aside kept)
    (leads : Leads source (root.below (folder ++ [name])) (root.below (aside ++ [kept])) origin
      (base ++ (folder ++ [name])) (base ++ (aside ++ [kept])))
    (located : tree.locate source = some origin)
    (found : tree.occupant? origin = some (.file content)) :
    ∃ swap after, (swapIn source (root.below (folder ++ [name])) (root.below (aside ++ [kept])) :
        StateM FileTree Swap).run tree = (swap, after) ∧ swap ≠ .refused ∧
      Orderly base ground after := by
  obtain ⟨first, making, orderly₁, reached, parent⟩ := orderly.prepare bare place
  obtain ⟨keeps, grown, _⟩ := FileTree.of_makeDirectories making
  obtain ⟨swap, second, clearing, went, orderly₂⟩ := makeRoom_succeeds bare orderly₁ reached shelf
  obtain ⟨keeps₂, room⟩ := of_makeRoom leads clearing
  have found₁ := ((grown origin).file_iff content).mpr found
  have found₂ : second.occupant? origin = some (.file content) := by
    cases swap with
    | refused => exact (went rfl).elim
    | added =>
        obtain ⟨rfl, _⟩ := room
        exact found₁
    | replaced =>
        obtain ⟨_, _, _, _, _, _, others⟩ := room
        exact ((others origin leads.origin_ne_place leads.origin_ne_shelf).file_iff content).mpr
          found₁
  obtain ⟨after, moving, orderly₃, _⟩ := orderly₂.move (keeps₂.locate (keeps.locate located)) found₂
    place.file (keeps₂.locate reached) (keeps₂.directory _ parent)
  refine ⟨swap, after, ?_, went, orderly₃⟩
  rw [swapIn, run_bind_eq (x := FileAccess.makeDirectories _) making, if_pos rfl,
    run_bind_eq clearing]
  cases swap with
  | refused => exact (went rfl).elim
  | added =>
      rw [run_bind_eq (x := FileAccess.move _ _) moving]
      rfl
  | replaced =>
      rw [run_bind_eq (x := FileAccess.move _ _) moving]
      rfl

/-- An artifact is staged: its path is reached, and there is a file. -/
def Staged (root : Path) (base : Location) (articleId : String) (tree : FileTree)
    (kind : ArtifactKind) : Prop :=
  tree.locate (((root.child articleId).child stagingName).below kind.steps) =
      some (originOf (base ++ [articleId]) kind) ∧
    ∃ content, tree.occupant? (originOf (base ++ [articleId]) kind) = some (.file content)

/-- Artifacts that are staged are promoted, in an orderly tree, which stays orderly. The induction
is on the artifacts; those not yet promoted stay staged. -/
theorem promote_succeeds {articleId : String} (plain : Plain articleId) {kinds : List ArtifactKind}
    (nodup : kinds.Nodup) (staged : ∀ kind ∈ kinds, Staged root base articleId tree kind) :
    ∃ after, (promote ((root.child articleId).child stagingName) (root.child articleId) kinds :
        StateM FileTree Bool).run tree = (true, after) ∧ Orderly base ground after := by
  induction kinds generalizing tree with
  | nil => exact ⟨tree, rfl, orderly⟩
  | cons kind rest ih =>
      obtain ⟨fresh, nodup⟩ := List.nodup_cons.mp nodup
      obtain ⟨located, content, found⟩ := staged kind List.mem_cons_self
      have leads := leadsAll_of_destination (orderly.destination_article bare plain) kind
      obtain ⟨folder, name, split, place⟩ := (zone_article plain).filePlace kind
      obtain ⟨aside, kept, split', shelf⟩ := (zone_shelf plain).filePlace kind
      have target : (root.child articleId).below kind.steps = root.below (folder ++ [name]) := by
        rw [← split]
        rfl
      have keeping : (((root.child articleId).child stagingName).child ".old").below kind.steps =
          root.below (aside ++ [kept]) := by
        rw [← split']
        rfl
      have stands : placeOf (base ++ [articleId]) kind = base ++ (folder ++ [name]) := by
        rw [← split, placeOf, List.append_assoc]
      have waits : shelfOf (base ++ [articleId]) kind = base ++ (aside ++ [kept]) := by
        rw [← split', shelfOf, List.append_assoc]
        rfl
      have leads' := leads
      rw [target, keeping, stands, waits] at leads'
      obtain ⟨swap, first, swapping, went, orderly₁⟩ :=
        swapIn_succeeds bare orderly place shelf leads' located found
      rw [← target, ← keeping] at swapping
      obtain ⟨keeps, swapped⟩ := of_swapIn leads swapping
      obtain ⟨_, _, _, _, others⟩ := swapped.moved went
      -- The first swap leaves alone what is staged of the other artifacts.
      have later : ∀ other ∈ rest, Staged root base articleId first other := by
        intro other member
        obtain ⟨located, content, found⟩ := staged other (List.mem_cons_of_mem _ member)
        have apart :
            originOf (base ++ [articleId]) other ≠ originOf (base ++ [articleId]) kind := by
          intro same
          cases originOf_inj same
          exact fresh member
        have stays := others _ apart placeOf_ne_originOf.symm originOf_ne_shelfOf
        exact ⟨keeps.locate located, content, (stays.file_iff content).mpr found⟩
      obtain ⟨after, promoting, orderly₂⟩ := ih orderly₁ nodup later
      refine ⟨after, ?_, orderly₂⟩
      rw [promote, run_bind_eq swapping]
      cases swap with
      | refused => exact (went rfl).elim
      | added =>
          rw [run_bind_eq promoting]
          rfl
      | replaced =>
          rw [run_bind_eq promoting]
          rfl

end Storing

/-! ## What storing leaves behind -/

/-- The place of an artifact or of an image. -/
def Regular (way : List String) : Prop :=
  (∃ (articleId : String) (kind : ArtifactKind), way = articleId :: kind.steps) ∨
    ∃ articleId fileName, way = [articleId, "images", fileName]

/-- Files have been stored at some places below a location, and everywhere else there are the same
artifacts and images as before and no new files. -/
structure Stored (base : Location) (news : List (List String × ByteArray))
    (before after : FileTree) : Prop where
  arrived : ∀ new ∈ news, after.occupant? (base ++ new.1) = some (.file new.2)
  others : ∀ way data, Regular way → (∀ new ∈ news, way ≠ new.1) →
    (after.occupant? (base ++ way) = some (.file data) ↔
      before.occupant? (base ++ way) = some (.file data))
  irregular : ∀ way data, ¬Regular way → after.occupant? (base ++ way) = some (.file data) →
    before.occupant? (base ++ way) = some (.file data)

/-- A file has been stored at one place after some directories have been made. -/
theorem stored_file {between : FileTree} {place : List String} (regular : Regular place)
    (grown : ∀ location, Grown location tree between)
    (arrived : after.occupant? (base ++ place) = some (.file content))
    (others : ∀ way, Regular way → way ≠ place →
      after.occupant? (base ++ way) = between.occupant? (base ++ way))
    (fewer : ∀ way data, way ≠ place → after.occupant? (base ++ way) = some (.file data) →
      between.occupant? (base ++ way) = some (.file data)) :
    Stored base [(place, content)] tree after := by
  refine ⟨fun new member => ?_, fun way data other apart => ?_, fun way data outside found => ?_⟩
  · cases List.mem_singleton.mp member
    exact arrived
  · rw [others way other (apart _ (List.mem_singleton_self _))]
    exact (grown _).file_iff data
  · have apart : way ≠ place := fun same => outside (same ▸ regular)
    exact ((grown _).file_iff data).mp (fewer way data apart found)

theorem steps_inj {articleId articleId' : String} {kind kind' : ArtifactKind}
    (same : articleId :: kind.steps = articleId' :: kind'.steps) :
    articleId = articleId' ∧ kind = kind' := by
  obtain ⟨ids, steps⟩ := List.cons.inj same
  refine ⟨ids, ?_⟩
  revert steps
  cases kind <;> cases kind' <;> decide

/-- No artifact is at the place of an image. -/
theorem steps_ne_image {kind : ArtifactKind} {fileName : String} :
    kind.steps ≠ ["images", fileName] := by
  cases kind <;> simp [ArtifactKind.steps]

/-- The place where an artifact is written before it is moved. -/
theorem exists_beside {articleId : String} (plain : Plain articleId) (kind : ArtifactKind) :
    ∃ folder name, articleId :: kind.steps = folder ++ [name] ∧ FilePlace folder name ∧
      FilePlace folder (name ++ ".tmp") ∧ ¬Regular (folder ++ [name ++ ".tmp"]) := by
  have article : ∀ other ∈ [articleId], Plain other := (zone_article plain).plain
  have css : ∀ other ∈ [articleId, "css"], Plain other := by
    simpa using ⟨plain, ⟨⟨by decide, rfl⟩, by decide⟩⟩
  have js : ∀ other ∈ [articleId, "js"], Plain other := by
    simpa using ⟨plain, ⟨⟨by decide, rfl⟩, by decide⟩⟩
  cases kind with
  | html =>
      refine ⟨[articleId], "index.html", rfl, ⟨article, ⟨⟨by decide, rfl⟩, by decide⟩, rfl, rfl⟩,
        ⟨article, ⟨⟨by decide, rfl⟩, by decide⟩, rfl, rfl⟩, ?_⟩
      rintro (⟨_, _ | _ | _, same⟩ | ⟨_, _, same⟩) <;> simp [ArtifactKind.steps] at same
  | stylesheet =>
      refine ⟨[articleId, "css"], "styles.css", rfl,
        ⟨css, ⟨⟨by decide, rfl⟩, by decide⟩, rfl, rfl⟩,
        ⟨css, ⟨⟨by decide, rfl⟩, by decide⟩, rfl, rfl⟩, ?_⟩
      rintro (⟨_, _ | _ | _, same⟩ | ⟨_, _, same⟩) <;> simp [ArtifactKind.steps] at same
  | program =>
      refine ⟨[articleId, "js"], "animation.js", rfl,
        ⟨js, ⟨⟨by decide, rfl⟩, by decide⟩, rfl, rfl⟩,
        ⟨js, ⟨⟨by decide, rfl⟩, by decide⟩, rfl, rfl⟩, ?_⟩
      rintro (⟨_, _ | _ | _, same⟩ | ⟨_, _, same⟩) <;> simp [ArtifactKind.steps] at same

/-! ## Artifacts, bundles and images -/

theorem nodup_kinds : ArtifactKind.all.Nodup := by decide

theorem checkName_of_safe {name : String} (safe : isSafeName name = true) (kind : NameKind) :
    checkName kind name = .ok () := if_pos safe

section Results

variable {store : DirectoryStore} {articleId fileName : String}
  (bare : Ground store.root base ground) (orderly : Orderly base ground tree)
  (safe : isSafeName articleId = true)

include bare orderly safe

/-- In an orderly tree an artifact is put, and nothing else is. -/
theorem put_stores (kind : ArtifactKind) (content : ByteArray) :
    ∃ after, (store.put articleId kind content : StateM FileTree _).run tree =
        (.ok (store.location articleId kind), after) ∧ Orderly base ground after ∧
      Stored base [(articleId :: kind.steps, content)] tree after := by
  obtain ⟨folder, name, split, place, beside, irregular⟩ :=
    exists_beside (plain_of_isSafeName safe) kind
  obtain ⟨first, making, orderly₁, _, there⟩ := orderly.prepare bare place
  obtain ⟨_, grown, _⟩ := FileTree.of_makeDirectories making
  obtain ⟨after, writing, orderly₂, holds⟩ :=
    writeBeside_succeeds bare orderly₁ place beside there content
  have path : store.artifactPath articleId kind = store.root.below (folder ++ [name]) := by
    rw [← split]
    rfl
  have regular : Regular (folder ++ [name]) := split ▸ .inl ⟨articleId, kind, rfl⟩
  refine ⟨after, ?_, orderly₂, split ▸ stored_file regular grown ?_ (fun way other apart => ?_)
    fun way data apart found => ?_⟩
  · unfold put
    rw [checkName_of_safe safe, path]
    dsimp only
    rw [run_bind_eq (x := FileAccess.makeDirectories _) making, if_pos rfl, run_bind_eq writing,
      if_pos rfl]
    rfl
  · rw [holds, if_pos rfl]
  · have settled : way ≠ folder ++ [name ++ ".tmp"] := by
      rintro rfl
      exact irregular other
    rw [holds, if_neg fun same => apart (List.append_cancel_left same),
      if_neg fun same => settled (List.append_cancel_left same)]
  · rw [holds, if_neg fun same => apart (List.append_cancel_left same)] at found
    split at found
    · cases found
    · exact found

/-- In an orderly tree a commit succeeds, and the tree stays orderly. -/
theorem commit_succeeds (bundle : Bundle) :
    ∃ after, (store.commit articleId bundle : StateM FileTree _).run tree =
        (.ok (ArtifactKind.all.map (store.location articleId)), after) ∧
      Orderly base ground after := by
  have plain := plain_of_isSafeName safe
  have staging := zone_staging plain
  have area : store.stagingArea articleId = store.root.below [articleId, stagingName] := rfl
  obtain ⟨first, clearing, orderly₁⟩ := orderly.clear bare staging.plain (staging.folder .html)
  obtain ⟨second, writing, orderly₂⟩ := writeAll_succeeds bare orderly₁ staging bundle.artifacts
  have article : destination (store.articleDirectory articleId) = some (base ++ [articleId]) :=
    orderly.destination_article bare plain
  rw [← area] at writing
  have nodup : (bundle.artifacts.map Prod.fst).Nodup := nodup_kinds
  have written := of_writeAll nodup writing
  -- What has been written stands at its location, to which its path leads in an orderly tree.
  have staged : ∀ kind ∈ ArtifactKind.all, Staged store.root base articleId second kind := by
    intro kind _
    have found := Written.origin written article kind
    have origin : originOf (base ++ [articleId]) kind =
        base ++ ([articleId, stagingName] ++ kind.steps) := by
      rw [originOf, List.append_assoc]
      rfl
    have names : ∀ name ∈ [articleId, stagingName] ++ kind.steps, Plain name := by
      intro name member
      rcases List.mem_append.mp member with member | member
      · exact staging.plain name member
      · exact plain_of_mem_steps member
    refine ⟨?_, _, found⟩
    rw [origin] at found ⊢
    exact orderly₂.locate_of_occupied bare names (List.cons_ne_nil _ _) (by rw [found]; exact nofun)
  obtain ⟨third, promoting, orderly₃⟩ := promote_succeeds bare orderly₂ plain nodup_kinds staged
  obtain ⟨after, clearing', orderly₄⟩ := orderly₃.clear bare staging.plain (staging.folder .html)
  refine ⟨after, ?_, orderly₄⟩
  rw [← area] at clearing clearing'
  have promoting : (promote (store.stagingArea articleId) (store.articleDirectory articleId)
      ArtifactKind.all : StateM FileTree Bool).run second = (true, third) := promoting
  unfold commit
  rw [checkName_of_safe safe]
  dsimp only
  rw [run_bind_eq (x := FileAccess.clear _) clearing, if_pos rfl, run_bind_eq writing, if_pos rfl,
    run_bind_eq promoting, run_bind_eq (x := FileAccess.clear _) clearing', if_pos rfl]
  rfl

/-- In an orderly tree a commit stores all artifacts of the bundle with their bytes, and nothing
else. That it succeeds is known from the steps it takes, and what it stores from what any commit
leaves behind. -/
theorem commit_stores (bundle : Bundle) :
    ∃ after, (store.commit articleId bundle : StateM FileTree _).run tree =
        (.ok (ArtifactKind.all.map (store.location articleId)), after) ∧
      Orderly base ground after ∧
      Stored base (ArtifactKind.all.map fun kind =>
        (articleId :: kind.steps, (bundle.get kind).toUTF8)) tree after := by
  obtain ⟨after, committing, orderly'⟩ := commit_succeeds bare orderly safe bundle
  obtain ⟨places, others, area, reached, empty⟩ := of_commit committing
  have article : destination (store.articleDirectory articleId) = some (base ++ [articleId]) :=
    orderly.destination_article bare (plain_of_isSafeName safe)
  have stands (kind : ArtifactKind) : destination (store.artifactPath articleId kind) =
      some (base ++ articleId :: kind.steps) := by
    rw [destination_artifactPath article, placeOf, List.append_assoc]
    rfl
  rw [destination_stagingArea article] at reached
  cases reached
  have same {way : List String} (within : base ++ [articleId] ++ [stagingName] <+: base ++ way) :
      ∃ rest, way = articleId :: stagingName :: rest := by
    rw [List.append_assoc, List.prefix_append_right_inj] at within
    obtain ⟨rest, rfl⟩ := within
    exact ⟨rest, rfl⟩
  have outside {way : List String} (regular : Regular way) :
      Outside store articleId (base ++ way) := by
    intro area reached within
    rw [destination_stagingArea article] at reached
    cases reached
    obtain ⟨rest, rfl⟩ := same within
    rcases regular with ⟨_, _ | _ | _, split⟩ | ⟨_, _, split⟩ <;>
      simp [ArtifactKind.steps, stagingName] at split
  refine ⟨after, committing, orderly', fun new member => ?_, fun way data regular apart => ?_,
    fun way data irregular found => ?_⟩
  · obtain ⟨kind, _, rfl⟩ := List.mem_map.mp member
    obtain ⟨place, leads, holds⟩ := places kind
    cases (stands kind).symm.trans leads
    exact holds
  · refine (others _ (outside regular) fun kind leads => ?_).file_iff data
    cases List.append_cancel_left (Option.some.inj ((stands kind).symm.trans leads))
    exact apart _ (List.mem_map.mpr ⟨kind, kind.mem_all, rfl⟩) rfl
  · by_cases within : base ++ [articleId] ++ [stagingName] <+: base ++ way
    · rw [empty _ within] at found
      cases found
    · refine ((others _ (fun area reached => ?_) fun kind leads => ?_).file_iff data).mp found
      · rw [destination_stagingArea article] at reached
        cases reached
        exact within
      · cases List.append_cancel_left (Option.some.inj ((stands kind).symm.trans leads))
        exact irregular (.inl ⟨articleId, kind, rfl⟩)

/-- An image is stored unless its name is taken. -/
theorem stage_stores (named : isSafeName fileName = true) (content : ByteArray) :
    ∃ after, Orderly base ground after ∧
      ((∃ taken, tree.occupant? (base ++ [articleId, "images", fileName]) = some (.file taken) ∧
          (store.stage articleId fileName content : StateM FileTree _).run tree =
            (.error (.alreadyExists fileName), after) ∧ Stored base [] tree after) ∨
        (∀ taken, tree.occupant? (base ++ [articleId, "images", fileName]) ≠ some (.file taken)) ∧
          (store.stage articleId fileName content : StateM FileTree _).run tree =
            (.ok (imageReference fileName), after) ∧
          Stored base [([articleId, "images", fileName], content)] tree after) := by
  have plain : ∀ name ∈ [articleId, "images"], Plain name := by
    simpa using ⟨plain_of_isSafeName safe, ⟨⟨by decide, rfl⟩, by decide⟩⟩
  have file : isFolder ([articleId, "images"] ++ [fileName]) = false := rfl
  have path : (store.imageDirectory articleId).child fileName =
      store.root.below ([articleId, "images"] ++ [fileName]) := rfl
  obtain ⟨first, making, orderly₁, located, there⟩ := orderly.make bare plain rfl
  obtain ⟨_, grown, _⟩ := FileTree.of_makeDirectories making
  have reached := orderly₁.locate_file bare (plain_of_isSafeName named) located there
  have making : FileTree.makeDirectories (store.imageDirectory articleId) tree = (true, first) :=
    making
  unfold stage
  rw [checkName_of_safe safe, checkName_of_safe named]
  dsimp only
  rw [path, run_bind_eq (x := FileAccess.makeDirectories _) making, if_pos rfl]
  -- Whether the name is taken is asked once the directory of the images has been made.
  cases found : first.occupant? (base ++ ([articleId, "images"] ++ [fileName])) with
  | none =>
      obtain ⟨after, creating, orderly₂, holds⟩ :=
        orderly₁.create file reached there found content
      have regular : Regular ([articleId, "images"] ++ [fileName]) := .inr ⟨_, _, rfl⟩
      have stays (way : List String) (apart : way ≠ [articleId, "images"] ++ [fileName]) :
          after.occupant? (base ++ way) = first.occupant? (base ++ way) := by
        rw [holds, if_neg fun same => apart (List.append_cancel_left same)]
      refine ⟨after, orderly₂, .inr ⟨fun taken there => ?_, ?_,
        stored_file regular grown ?_ (fun way _ => stays way) fun way data apart there => ?_⟩⟩
      · cases found.symm.trans (((grown _).file_iff taken).mpr there)
      · rw [run_bind_eq (x := FileAccess.create _ _) creating]
        rfl
      · rw [holds]
        exact if_pos rfl
      · rwa [stays way apart] at there
  | some occupant =>
      cases occupant with
      | directory =>
          have folder := orderly₁.folder _ (List.concat_ne_nil _ _)
            (FileTree.isDirectory_iff.mpr found)
          cases folder.symm.trans file
      | file taken =>
          have creating := FileTree.create_occupied reached (by rw [found]; rfl) content
          refine ⟨first, orderly₁, .inl ⟨taken, ((grown _).file_iff taken).mp found, ?_, ?_⟩⟩
          · rw [run_bind_eq (x := FileAccess.create _ _) creating]
            rfl
          · exact ⟨nofun, fun way data _ _ => (grown _).file_iff data,
              fun way data _ found => ((grown _).file_iff data).mp found⟩

end Results

end DirectoryStore

end ScrollStory
