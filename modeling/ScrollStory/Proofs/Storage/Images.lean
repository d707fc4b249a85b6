import ScrollStory.Proofs.Storage.Confined

/-!
# Staged images stay

An image that has been staged is there after every later request to its store, whatever the requests
are and however they end, and its name stays taken. A request for an article changes no file outside
of the directory of the article, and none at all if a name in it is refused
(`ScrollStory.DirectoryStore.staged_images_stay`).

All that an image needs to stay is one invariant of trees (`ScrollStory.DirectoryStore.Kept`). It
survives every change that is confined to a region away from the image, and staging the image again
runs into the file that is there.
-/

namespace ScrollStory

open FileTree (Grown Keeps IsStep Confined Confines Passes destination resolve turn)

/-! ## Events -/

namespace Request

/-- A request with its answer and the state behind it. -/
structure Event (σ : Type) where
  request : Request
  answer : Except Error (Option String)
  state : σ

variable {σ : Type} {answer : Request → StateM σ (Except Error (Option String))}

/-- The events of requests that are answered one after another. -/
def events (answer : Request → StateM σ (Except Error (Option String))) (requests : List Request)
    (state : σ) : List (Event σ) :=
  List.zipWith (fun request result => ⟨request, result.1, result.2⟩) requests
    (trace answer requests state)

theorem events_cons (request : Request) (requests : List Request) (state : σ) :
    events answer (request :: requests) state =
      ⟨request, ((answer request).run state).1, ((answer request).run state).2⟩ ::
        events answer requests ((answer request).run state).2 := rfl

/-- An image has been staged. -/
def Event.Stages (event : Event σ) (articleId fileName : String) (content : ByteArray) : Prop :=
  event.request = .stage articleId fileName content ∧ ∃ reference, event.answer = .ok reference

/-- Images that are staged are there right away and behind every later event, and no image is staged
under their names again. -/
structure KeepsImages (holds : String → String → ByteArray → σ → Prop)
    (events : List (Event σ)) : Prop where
  staged : ∀ event ∈ events, ∀ articleId fileName content,
    event.Stages articleId fileName content → holds articleId fileName content event.state
  kept : events.Pairwise fun event later => ∀ articleId fileName content,
    event.Stages articleId fileName content → holds articleId fileName content later.state
  taken : events.Pairwise fun event later => ∀ articleId fileName content other,
    event.Stages articleId fileName content →
      later.request = .stage articleId fileName other →
        later.answer = .error (.alreadyExists fileName)

/-- What images keep, they keep in a weaker sense. -/
theorem KeepsImages.imp {holds weaker : String → String → ByteArray → σ → Prop}
    {events : List (Event σ)} (keeps : KeepsImages holds events)
    (more : ∀ articleId fileName content state, holds articleId fileName content state →
      weaker articleId fileName content state) : KeepsImages weaker events where
  staged event member articleId fileName content stages :=
    more _ _ _ _ (keeps.staged event member articleId fileName content stages)
  kept := keeps.kept.imp fun later articleId fileName content stages =>
    more _ _ _ _ (later articleId fileName content stages)
  taken := keeps.taken

/-- A condition on states that staging an image brings about, that no request ends, and under which
the image cannot be staged again. -/
structure Guards (answer : Request → StateM σ (Except Error (Option String)))
    (kept : String → String → ByteArray → σ → Prop) : Prop where
  begins : ∀ {articleId fileName content state reference after},
    (answer (.stage articleId fileName content)).run state = (.ok reference, after) →
      kept articleId fileName content after
  step : ∀ {articleId fileName content state} (request : Request),
    kept articleId fileName content state →
      kept articleId fileName content ((answer request).run state).2
  taken : ∀ {articleId fileName content state} (other : ByteArray),
    kept articleId fileName content state →
      ((answer (.stage articleId fileName other)).run state).1 = .error (.alreadyExists fileName)

namespace Guards

variable {kept : String → String → ByteArray → σ → Prop} (guards : Guards answer kept)
include guards

/-- What is kept at first is kept behind every event. -/
theorem of_mem_events {articleId fileName : String} {content : ByteArray} {state : σ}
    (holds : kept articleId fileName content state) (requests : List Request) {event : Event σ}
    (member : event ∈ events answer requests state) :
    kept articleId fileName content event.state ∧
      ∀ other, event.request = .stage articleId fileName other →
        event.answer = .error (.alreadyExists fileName) := by
  induction requests generalizing state with
  | nil => cases member
  | cons request requests ih =>
      rw [events_cons] at member
      rcases List.mem_cons.mp member with rfl | later
      · refine ⟨guards.step request holds, fun other same => ?_⟩
        have same : request = .stage articleId fileName other := same
        subst same
        exact guards.taken other holds
      · exact ih (guards.step request holds) later

/-- Under a guard, images that are staged keep. The induction is on the requests. -/
theorem keepsImages (requests : List Request) (state : σ) :
    KeepsImages kept (events answer requests state) := by
  induction requests generalizing state with
  | nil => exact ⟨List.forall_mem_nil _, .nil, .nil⟩
  | cons request requests ih =>
      have rest := ih ((answer request).run state).2
      rw [events_cons]
      have first (articleId fileName : String) (content : ByteArray)
          (stages : Event.Stages ⟨request, ((answer request).run state).1,
            ((answer request).run state).2⟩ articleId fileName content) :
          kept articleId fileName content ((answer request).run state).2 := by
        obtain ⟨same, reference, done⟩ := stages
        have same : request = .stage articleId fileName content := same
        subst same
        exact guards.begins (Prod.ext done rfl)
      refine ⟨?_, List.pairwise_cons.mpr ⟨?_, rest.kept⟩, List.pairwise_cons.mpr ⟨?_, rest.taken⟩⟩
      · intro event member
        rcases List.mem_cons.mp member with rfl | later
        · exact first
        · exact rest.staged event later
      · intro later member articleId fileName content stages
        have begun := first articleId fileName content stages
        exact (guards.of_mem_events begun requests member).1
      · intro later member articleId fileName content other stages
        have begun := first articleId fileName content stages
        exact (guards.of_mem_events begun requests member).2 other

end Guards

/-- The article that a request is about. -/
def articleId : Request → String
  | put articleId _ _ => articleId
  | commit articleId _ => articleId
  | stage articleId _ _ => articleId

end Request

/-! ## Following a way -/

namespace FileTree

variable {tree after : FileTree} {start stop location : Location} {names : List String}

/-- The names on a way that was walked are accepted by the tree. -/
theorem accepts_of_walk (walked : tree.walk start names = some stop) :
    ∀ name ∈ names, turn name = .down → tree.accepts name = true := by
  induction names generalizing start with
  | nil => exact nofun
  | cons name rest ih =>
      obtain ⟨_, accepted, next, _, walked⟩ := walk_cons_iff.mp walked
      exact List.forall_mem_cons.mpr ⟨accepted, ih walked⟩

/-- A way is walked if its names are accepted and every location on it is a directory. -/
theorem walk_of_passes (leads : resolve start names = some stop)
    (accepted : ∀ name ∈ names, turn name = .down → tree.accepts name = true)
    (there : ∀ location, Passes start names location → tree.isDirectory location = true) :
    tree.walk start names = some stop := by
  induction names generalizing start with
  | nil => exact leads
  | cons name rest ih =>
      obtain ⟨next, stepped, leads⟩ := Option.bind_eq_some_iff.mp leads
      obtain ⟨first, later⟩ := List.forall_mem_cons.mp accepted
      have walked := ih leads later fun location passes => there location (passes.cons stepped)
      exact walk_cons_iff.mpr
        ⟨there start (passes_start start _), first, next, stepped, walked⟩

/-- Directories can be made along a way on which there is no file. -/
theorem makeAlong_succeeds (leads : resolve start names = some stop)
    (accepted : ∀ name ∈ names, turn name = .down → tree.accepts name = true)
    (free : ∀ location, Passes start names location → tree.NoFile location) :
    (makeAlong start names tree).1 = true := by
  induction names generalizing start tree with
  | nil => rfl
  | cons name rest ih =>
      obtain ⟨next, stepped, leads⟩ := Option.bind_eq_some_iff.mp leads
      obtain ⟨first, later⟩ := List.forall_mem_cons.mp accepted
      have ahead (location : Location) (passes : Passes next rest location) :
          tree.NoFile location := free location (passes.cons stepped)
      unfold makeAlong
      unfold step? at stepped
      cases taken : turn name with
      | stay =>
          rw [taken] at stepped
          cases stepped
          exact ih leads later ahead
      | up =>
          rw [taken] at stepped
          dsimp only at stepped ⊢
          split at stepped
          · cases stepped
          · rename_i inside
            cases stepped
            rw [if_neg inside]
            exact ih leads later ahead
      | down =>
          rw [taken] at stepped
          cases stepped
          dsimp only
          rw [if_pos (first taken)]
          split
          · exact ih leads later ahead
          · -- A file on the way would be one at a location that the way passes.
            rename_i content found
            exact (ahead _ (passes_start _ rest) content found).elim
          · rename_i empty
            obtain ⟨keeps, grown⟩ := grown_put_directory empty
            refine ih leads (fun name member down => ?_) fun location passes =>
              (grown location).noFile (ahead location passes)
            rw [keeps.accepts]
            exact later name member down

/-- A way that never goes up stays below where it begins. -/
theorem prefix_of_resolve (level : ".." ∉ names) (leads : resolve start names = some stop) :
    start <+: stop := by
  induction names generalizing start with
  | nil =>
      cases leads
      exact List.prefix_refl _
  | cons name rest ih =>
      obtain ⟨next, stepped, leads⟩ := Option.bind_eq_some_iff.mp leads
      have later := ih (fun member => level (List.mem_cons_of_mem _ member)) leads
      unfold step? turn at stepped
      split at stepped
      · cases stepped
        exact later
      · rename_i up
        split at up
        · cases up
        · split at up
          · rename_i dots
            exact (level (dots ▸ List.mem_cons_self)).elim
          · cases up
      · cases stepped
        exact (List.prefix_append start [name]).trans later

/-- A way that does not go up passes only what leads down to its end. -/
theorem prefix_of_passes (level : ".." ∉ names) (leads : resolve start names = some stop)
    (passes : Passes start names location) : location <+: stop := by
  obtain ⟨front, ⟨rest, rfl⟩, reached⟩ := passes
  rw [resolve_append, reached] at leads
  exact prefix_of_resolve (fun member => level (List.mem_append_right _ member)) leads

/-- A way that goes on by one name passes one location more. -/
theorem passes_concat {name : String} (passes : Passes start (names ++ [name]) location) :
    Passes start names location ∨ resolve start (names ++ [name]) = some location := by
  obtain ⟨front, before, reached⟩ := passes
  rcases List.prefix_concat_iff.mp before with rfl | before
  · exact .inr reached
  · exact .inl ⟨front, before, reached⟩

/-- A file that has been created is there, and nothing else has changed. -/
theorem of_created {path : Path} {content : ByteArray}
    (creating : create path content tree = (.created, after)) :
    ∃ location, tree.locate path = some location ∧ Keeps tree after ∧
      after.occupant? location = some (.file content) ∧
      ∀ other, other ≠ location → after.occupant? other = tree.occupant? other := by
  cases located : tree.locate path with
  | none =>
      rw [create, located] at creating
      cases creating
  | some location =>
      cases found : tree.occupant? location with
      | some occupant =>
          rw [create_occupied located (found ▸ rfl)] at creating
          cases creating
      | none =>
          obtain ⟨after', made, keeps, holds⟩ := of_create located found content
          cases made.symm.trans creating
          refine ⟨location, rfl, keeps, ?_, fun other apart => ?_⟩
          · rw [holds, if_pos rfl]
          · rw [holds, if_neg apart]

theorem accepts_of_nameLimit (same : after.nameLimit = tree.nameLimit) (name : String) :
    after.accepts name = tree.accepts name := by
  rw [accepts, accepts, same]

theorem admits_of_pathLimit (same : after.pathLimit = tree.pathLimit) (path : Path) :
    after.admits path = tree.admits path := by
  rw [admits, admits, same]

end FileTree

theorem Path.mem_names_of_mem_openNames {path : Path} {name : String}
    (member : name ∈ path.openNames) : name ∈ path.names := by
  unfold Path.openNames at member
  split at member
  · exact List.dropLast_subset _ member
  · exact member

namespace DirectoryStore

variable {store : DirectoryStore} {base : Location} {articleId fileName : String}
  {content : ByteArray} {tree after : FileTree}

/-! ## What keeps an image -/

/-- An image is where it belongs, the way there is open, and no file stands where directories are
made on the way to its directory. -/
structure Kept (store : DirectoryStore) (base : Location) (articleId fileName : String)
    (content : ByteArray) (tree : FileTree) : Prop where
  rooted : destination store.root = some base
  article : checkName .articleId articleId = .ok ()
  named : checkName .fileName fileName = .ok ()
  admitted : tree.admits (store.imageDirectory articleId) = true
  imageAdmitted : tree.admits ((store.imageDirectory articleId).child fileName) = true
  accepted : ∀ name ∈ ((store.imageDirectory articleId).child fileName).names,
    turn name = .down → tree.accepts name = true
  free : ∀ location, store.OnWay location → tree.NoFile location
  opened : tree.Open (base ++ [articleId, "images"])
  file : tree.occupant? (base ++ [articleId, "images", fileName]) = some (.file content)

/-- The names of the directory of images. -/
theorem names_imageDirectory (step : IsStep articleId) :
    (store.imageDirectory articleId).names = store.root.openNames ++ [articleId] ++ ["images"] := by
  have images : IsStep "images" := ⟨by decide, rfl⟩
  rw [imageDirectory, Path.names_child images.noSlash, articleDirectory,
    FileTree.openNames_child step, Path.names_child step.noSlash]

theorem names_image (step : IsStep fileName) :
    ((store.imageDirectory articleId).child fileName).names =
      (store.imageDirectory articleId).names ++ [fileName] := by
  have images : IsStep "images" := ⟨by decide, rfl⟩
  rw [Path.names_child step.noSlash, imageDirectory, FileTree.openNames_child images]

/-- Where the images of an article are. -/
theorem destination_imageDirectory (step : IsStep articleId)
    (rooted : destination store.root = some base) :
    destination (store.imageDirectory articleId) = some (base ++ [articleId, "images"]) := by
  have images : IsStep "images" := ⟨by decide, rfl⟩
  rw [imageDirectory, FileTree.destination_child images, articleDirectory,
    FileTree.destination_child step, rooted]
  simp

/-- Where an image is. -/
theorem destination_image (step : IsStep articleId) (step' : IsStep fileName)
    (rooted : destination store.root = some base) :
    destination ((store.imageDirectory articleId).child fileName) =
      some (base ++ [articleId, "images", fileName]) := by
  rw [FileTree.destination_child step', destination_imageDirectory step rooted]
  simp

namespace Kept

variable (kept : Kept store base articleId fileName content tree)
include kept

theorem steps : IsStep articleId ∧ IsStep fileName :=
  ⟨(plain_of_checkName kept.article).step, (plain_of_checkName kept.named).step⟩

/-- An image is kept by changes that are confined to a region away from it. -/
theorem of_confined {region : Location → Prop}
    (confined : Confined region store.OnWay tree after)
    (apart : ∀ above, above <+: base ++ [articleId, "images", fileName] → ¬region above) :
    Kept store base articleId fileName content after where
  rooted := kept.rooted
  article := kept.article
  named := kept.named
  admitted := (FileTree.admits_of_pathLimit confined.pathLimit _).trans kept.admitted
  imageAdmitted := (FileTree.admits_of_pathLimit confined.pathLimit _).trans kept.imageAdmitted
  accepted name member down :=
    (FileTree.accepts_of_nameLimit confined.nameLimit name).trans (kept.accepted name member down)
  free location on := confined.way location on (kept.free location on)
  opened above before := by
    have longer : base ++ [articleId, "images"] <+: base ++ [articleId, "images", fileName] :=
      ⟨[fileName], by simp⟩
    have grown := confined.outside above (apart above (before.trans longer))
    exact grown.directory (kept.opened above before)
  file := by
    have grown := confined.outside _ (apart _ (List.prefix_refl _))
    exact (grown.file_iff content).mpr kept.file

/-- No file is on the way to the directory of the image. -/
theorem free_imageDirectory {location : Location}
    (passes : Passes [] (store.imageDirectory articleId).names location) :
    tree.NoFile location := by
  have steps := kept.steps
  have rooted := FileTree.resolve_openNames store.root
  rw [kept.rooted] at rooted
  have article : resolve [] (store.root.openNames ++ [articleId]) = some (base ++ [articleId]) := by
    rw [FileTree.resolve_append, rooted, Option.bind_some, FileTree.resolve_cons,
      FileTree.step?, steps.1.down]
    rfl
  have images := destination_imageDirectory steps.1 kept.rooted
  rw [FileTree.destination, names_imageDirectory steps.1] at images
  rw [names_imageDirectory steps.1] at passes
  rcases FileTree.passes_concat passes with passes | leads
  · rcases FileTree.passes_concat passes with passes | leads
    · exact kept.free location passes
    · cases article.symm.trans leads
      exact .of_isDirectory (kept.opened _ ⟨["images"], by simp⟩)
  · cases images.symm.trans leads
    exact .of_isDirectory kept.opened.here

/-- The names on the way to an image that is kept are accepted. -/
theorem accepted_imageDirectory : ∀ name ∈ (store.imageDirectory articleId).names,
    turn name = .down → tree.accepts name = true := by
  intro name member
  refine kept.accepted name ?_
  rw [names_image kept.steps.2]
  exact List.mem_append_left _ member

/-- The image is reached from its directory. -/
theorem locate_image
    (walked : tree.walk [] (store.imageDirectory articleId).names =
      some (base ++ [articleId, "images"])) :
    tree.locate ((store.imageDirectory articleId).child fileName) =
      some (base ++ [articleId, "images", fileName]) := by
  have steps := kept.steps
  have names := @names_image store articleId fileName steps.2
  have accepted : tree.accepts fileName = true := by
    refine kept.accepted fileName ?_ steps.2.down
    rw [names]
    exact List.mem_append_right _ (List.mem_singleton_self _)
  have last : tree.walk (base ++ [articleId, "images"]) [fileName] =
      some (base ++ [articleId, "images", fileName]) := by
    refine FileTree.walk_cons_iff.mpr ⟨kept.opened.here, fun _ => accepted,
      base ++ [articleId, "images", fileName], ?_, rfl⟩
    rw [FileTree.step?, steps.2.down]
    simp
  rw [FileTree.locate, if_pos kept.imageAdmitted, names, FileTree.walk_append, walked]
  exact last

/-- The path of the image leads to it, unless the root of the store goes through directories that it
leaves again. -/
theorem read_image (level : ".." ∉ store.root.names) :
    tree.read ((store.imageDirectory articleId).child fileName) = some content := by
  have steps := kept.steps
  have leads := destination_imageDirectory steps.1 kept.rooted
  have level : ".." ∉ (store.imageDirectory articleId).names := by
    have inRoot : ".." ∉ store.root.openNames :=
      fun member => level (Path.mem_names_of_mem_openNames member)
    have apart : articleId ≠ ".." := by
      rintro rfl
      cases steps.1.down
    rw [names_imageDirectory steps.1]
    simp [inRoot, apart.symm]
  have walked := FileTree.walk_of_passes leads kept.accepted_imageDirectory fun location passes =>
    kept.opened location (FileTree.prefix_of_passes level leads passes)
  rw [FileTree.read, FileTree.find?, kept.locate_image walked, Option.bind_some, kept.file]

/-- Staging the image again is refused and changes nothing but directories. -/
theorem stage_again (other : ByteArray) :
    ∃ after, (store.stage articleId fileName other : StateM FileTree _).run tree =
        (.error (.alreadyExists fileName), after) ∧
      Kept store base articleId fileName content after := by
  have steps := kept.steps
  have leads := destination_imageDirectory steps.1 kept.rooted
  obtain ⟨made, between, making⟩ :
      ∃ made between, FileTree.makeDirectories (store.imageDirectory articleId) tree =
        (made, between) := ⟨_, _, rfl⟩
  have done := FileTree.makeAlong_succeeds leads kept.accepted_imageDirectory
    fun location passes => kept.free_imageDirectory passes
  have done : (FileTree.makeDirectories (store.imageDirectory articleId) tree).1 = true := by
    rw [FileTree.makeDirectories, if_pos kept.admitted]
    exact done
  rw [making] at done
  cases done
  obtain ⟨keeps, grown, reached⟩ := FileTree.of_makeDirectories making
  obtain ⟨location, located, _⟩ := reached rfl
  cases FileTree.location_of_locate leads located
  have confined : Confined (fun _ => False) store.OnWay tree between := .of_grown keeps grown
  have kept' := kept.of_confined confined fun _ _ => id
  rw [FileTree.locate, if_pos kept'.admitted] at located
  have occupied := FileTree.create_occupied (kept'.locate_image located)
    (by rw [kept'.file]; rfl) other
  refine ⟨between, ?_, kept'⟩
  unfold stage
  rw [kept.article, kept.named]
  dsimp only
  rw [run_bind_eq (x := FileAccess.makeDirectories _) making, if_pos rfl,
    run_bind_eq (x := FileAccess.create _ _) occupied]
  rfl

end Kept

/-- A path that leads somewhere is admitted and walked. -/
theorem admits_of_locate {path : Path} {location : Location}
    (located : tree.locate path = some location) :
    tree.admits path = true ∧ tree.walk [] path.names = some location := by
  unfold FileTree.locate at located
  split at located
  · rename_i admitted
    exact ⟨admitted, located⟩
  · cases located

/-- An image that has just been created in its directory is kept. -/
theorem kept_of_created {between : FileTree} (article : checkName .articleId articleId = .ok ())
    (named : checkName .fileName fileName = .ok ())
    (making : FileTree.makeDirectories (store.imageDirectory articleId) tree = (true, between))
    (creating : FileTree.create ((store.imageDirectory articleId).child fileName) content between =
      (.created, after)) : ∃ base, Kept store base articleId fileName content after := by
  have step := (plain_of_checkName article).step
  have step' := (plain_of_checkName named).step
  obtain ⟨_, _, reached⟩ := FileTree.of_makeDirectories making
  obtain ⟨directory, located, opened⟩ := reached rfl
  obtain ⟨image, located', keeps, arrived, _⟩ := FileTree.of_created creating
  have inside : FileTree.Inside (store.Pictured articleId fileName) store.OnWay
      ((store.imageDirectory articleId).child fileName) := inside_image step step'
  obtain ⟨base, rooted, rfl⟩ := inside.leads image (FileTree.destination_of_locate located')
  cases FileTree.location_of_locate (destination_imageDirectory step rooted) located
  obtain ⟨admitted, _⟩ := admits_of_locate located
  obtain ⟨imageAdmitted, walked⟩ := admits_of_locate located'
  refine ⟨base, rooted, article, named, ?_, ?_, fun name member down => ?_,
    fun location on => ?_, opened.keeps keeps, arrived⟩
  · exact (FileTree.admits_of_pathLimit keeps.pathLimit _).trans admitted
  · exact (FileTree.admits_of_pathLimit keeps.pathLimit _).trans imageAdmitted
  · exact (keeps.accepts name).trans (FileTree.accepts_of_walk walked name member down)
  · exact .of_isDirectory (keeps.directory _ (inside.across between _ located' location on))

/-- A run that stages an image makes its directory and creates its file. -/
theorem of_stage {reference : String}
    (run : (store.stage articleId fileName content : StateM FileTree _).run tree =
      (.ok reference, after)) :
    checkName .articleId articleId = .ok () ∧ checkName .fileName fileName = .ok () ∧
      reference = imageReference fileName ∧
      ∃ between,
        FileTree.makeDirectories (store.imageDirectory articleId) tree = (true, between) ∧
        FileTree.create ((store.imageDirectory articleId).child fileName) content between =
          (.created, after) := by
  unfold stage at run
  cases article : checkName .articleId articleId with
  | error e =>
      rw [article] at run
      cases run
  | ok _ =>
      cases named : checkName .fileName fileName with
      | error e =>
          rw [article, named] at run
          cases run
      | ok _ =>
          rw [article, named] at run
          obtain ⟨made, between, making, run⟩ := of_run_bind run
          cases made with
          | false => cases run
          | true =>
              obtain ⟨creation, last, creating, run⟩ := of_run_bind run
              cases creation with
              | occupied => cases run
              | refused => cases run
              | created =>
                  cases run
                  exact ⟨rfl, rfl, rfl, between, making, creating⟩

/-- An image that has been staged is kept. -/
theorem kept_of_stage {reference : String}
    (run : (store.stage articleId fileName content : StateM FileTree _).run tree =
      (.ok reference, after)) : ∃ base, Kept store base articleId fileName content after := by
  obtain ⟨article, named, -, between, making, creating⟩ := of_stage run
  exact kept_of_created article named making creating

/-! ## Requests to a directory -/

/-- Where a request brings or takes files. -/
def region (store : DirectoryStore) : Request → Location → Prop
  | .put articleId _ _ => store.Inner articleId
  | .commit articleId _ => store.Inner articleId
  | .stage articleId fileName _ => store.Pictured articleId fileName

/-- A request keeps to its region. -/
theorem confines_request (store : DirectoryStore) (request : Request) :
    Confines (store.region request) store.OnWay (request.onDirectory store) := by
  cases request with
  | put articleId kind content => exact (confines_put kind content).bind fun _ => .pure _
  | commit articleId bundle => exact (confines_commit bundle).bind fun _ => .pure _
  | stage articleId fileName content =>
      exact (confines_stage fileName content).bind fun _ => .pure _

namespace Kept

variable (kept : Kept store base articleId fileName content tree)
include kept

/-- Artifacts stay out of the directory of images. -/
theorem apart_inner {other : String} {above : Location}
    (before : above <+: base ++ [articleId, "images", fileName]) : ¬store.Inner other above := by
  rintro ⟨base', name, rest, rooted, apart, rfl⟩
  cases kept.rooted.symm.trans rooted
  obtain ⟨_, before⟩ := List.cons_prefix_cons.mp ((List.prefix_append_right_inj base).mp before)
  exact apart (List.cons_prefix_cons.mp before).1

/-- Every image has a place of its own. -/
theorem apart_pictured {other name : String} {above : Location}
    (differs : (other, name) ≠ (articleId, fileName))
    (before : above <+: base ++ [articleId, "images", fileName]) :
    ¬store.Pictured other name above := by
  rintro ⟨base', rooted, rfl⟩
  cases kept.rooted.symm.trans rooted
  have same := ((List.prefix_append_right_inj base).mp before).eq_of_length rfl
  cases same
  exact differs rfl

/-- Staging an image under a name that is taken is refused, and the image is kept. -/
theorem run_stage_again (other : ByteArray) :
    ∃ after, ((Request.stage articleId fileName other).onDirectory store).run tree =
        (.error (.alreadyExists fileName), after) ∧
      Kept store base articleId fileName content after := by
  obtain ⟨after, run, kept'⟩ := kept.stage_again other
  refine ⟨after, ?_, kept'⟩
  rw [Request.onDirectory, run_bind_eq run]
  rfl

theorem step (request : Request) :
    Kept store base articleId fileName content ((request.onDirectory store).run tree).2 := by
  have confined := store.confines_request request tree
  cases request with
  | put other kind data => exact kept.of_confined confined fun above => kept.apart_inner
  | commit other bundle => exact kept.of_confined confined fun above => kept.apart_inner
  | stage other name data =>
      by_cases same : (other, name) = (articleId, fileName)
      · cases same
        obtain ⟨after, run, kept'⟩ := kept.run_stage_again data
        rw [run]
        exact kept'
      · exact kept.of_confined confined fun above => kept.apart_pictured same

end Kept

/-- An image that is kept is guarded in a directory. -/
theorem guards_kept (store : DirectoryStore) :
    Request.Guards (Request.onDirectory store) fun articleId fileName content tree =>
      ∃ base, Kept store base articleId fileName content tree where
  begins := by
    intro articleId fileName content tree reference after run
    obtain ⟨result, between, staged, run⟩ := of_run_bind run
    cases result with
    | error e => cases run
    | ok reference =>
        cases run
        exact kept_of_stage staged
  step request := fun ⟨base, kept⟩ => ⟨base, kept.step request⟩
  taken other := fun ⟨base, kept⟩ => by
    obtain ⟨after, run, _⟩ := kept.run_stage_again other
    rw [run]

/-- An image is in its place, and its path leads to it unless the root of the store goes through
directories that it leaves again. -/
def HasImage (store : DirectoryStore) (articleId fileName : String) (content : ByteArray)
    (tree : FileTree) : Prop :=
  (∃ location, destination ((store.imageDirectory articleId).child fileName) = some location ∧
    tree.occupant? location = some (.file content)) ∧
  (".." ∉ store.root.names →
    tree.read ((store.imageDirectory articleId).child fileName) = some content)

theorem Kept.hasImage (kept : Kept store base articleId fileName content tree) :
    store.HasImage articleId fileName content tree :=
  ⟨⟨_, destination_image kept.steps.1 kept.steps.2 kept.rooted, kept.file⟩, kept.read_image⟩

/-- Outside of the directory of an article no file has come, gone or changed. -/
def Spares (store : DirectoryStore) (articleId : String) (before after : FileTree) : Prop :=
  ∀ location, (∀ directory, destination (store.articleDirectory articleId) = some directory →
    ¬directory <+: location) → Grown location before after

/-- The region of a request is in the directory of its article. -/
theorem below_of_region {request : Request} (step : IsStep request.articleId)
    {location : Location} (within : store.region request location) :
    ∃ directory, destination (store.articleDirectory request.articleId) = some directory ∧
      directory <+: location := by
  have leads {base : Location} (rooted : destination store.root = some base) :
      destination (store.articleDirectory request.articleId) =
        some (base ++ [request.articleId]) := by
    rw [articleDirectory, FileTree.destination_child step, rooted]
    rfl
  cases request with
  | put articleId kind content =>
      obtain ⟨base, name, rest, rooted, _, rfl⟩ := within
      exact ⟨_, leads rooted, ⟨name :: rest, by simp [Request.articleId]⟩⟩
  | commit articleId bundle =>
      obtain ⟨base, name, rest, rooted, _, rfl⟩ := within
      exact ⟨_, leads rooted, ⟨name :: rest, by simp [Request.articleId]⟩⟩
  | stage articleId fileName content =>
      obtain ⟨base, rooted, rfl⟩ := within
      exact ⟨_, leads rooted, ⟨["images", fileName], by simp [Request.articleId]⟩⟩

theorem step_of_check {request : Request} (good : request.check = .ok ()) :
    IsStep request.articleId := by
  cases request with
  | put articleId kind content => exact (plain_of_checkName good).step
  | commit articleId bundle => exact (plain_of_checkName good).step
  | stage articleId fileName content =>
      exact (plain_of_checkName (Request.names_of_check_stage good).1).step

/-- A request spares what is outside of its article's directory. -/
theorem spares_request (store : DirectoryStore) (request : Request) (tree : FileTree) :
    store.Spares request.articleId tree ((request.onDirectory store).run tree).2 := by
  intro location outside
  cases checked : request.check with
  | error e =>
      rw [(Request.of_check_error checked tree {}).1]
      exact .refl location tree
  | ok _ =>
      refine (store.confines_request request tree).outside location fun within => ?_
      obtain ⟨directory, leads, below⟩ := below_of_region (step_of_check checked) within
      exact outside directory leads below

end DirectoryStore

/-! ## Requests to memory -/

namespace MemoryStore

variable {articleId fileName : String} {content : ByteArray} {memory : MemoryStore}

/-- What is stored for other articles is the same. -/
structure Spares (articleId : String) (before after : MemoryStore) : Prop where
  artifacts : ∀ other kind, other ≠ articleId →
    Table.get? after.artifacts (other, kind) = Table.get? before.artifacts (other, kind)
  images : ∀ other fileName, other ≠ articleId →
    after.image? other fileName = before.image? other fileName

theorem Spares.refl (articleId : String) (memory : MemoryStore) : Spares articleId memory memory :=
  ⟨fun _ _ _ => rfl, fun _ _ _ => rfl⟩

/-- Putting an artifact spares other articles and all images. -/
theorem of_put (articleId : String) (kind : ArtifactKind) (content : ByteArray)
    (memory : MemoryStore) :
    Spares articleId memory (put articleId kind content memory).2 ∧
      (put articleId kind content memory).2.images = memory.images := by
  unfold put
  split
  · exact ⟨.refl articleId memory, rfl⟩
  · refine ⟨⟨fun other kind' differs => ?_, fun _ _ _ => rfl⟩, rfl⟩
    refine (Table.get?_put memory.artifacts (articleId, kind) (other, kind') content).trans ?_
    rw [if_neg fun same => differs (Prod.ext_iff.mp same).1]

/-- A commit spares other articles and all images. -/
theorem of_commit (articleId : String) (bundle : Bundle) (memory : MemoryStore) :
    Spares articleId memory (commit articleId bundle memory).2 ∧
      (commit articleId bundle memory).2.images = memory.images := by
  unfold commit
  split
  · exact ⟨.refl articleId memory, rfl⟩
  · refine ⟨⟨fun other kind differs => ?_, fun _ _ _ => rfl⟩, rfl⟩
    rw [get?_insert_bundle, if_neg differs]

/-- What a store that takes an image found, and what it holds then. -/
theorem of_stage (articleId fileName : String) (content : ByteArray) (memory : MemoryStore) :
    (∃ e, stage articleId fileName content memory = (.error e, memory)) ∨
    checkName .articleId articleId = .ok () ∧ checkName .fileName fileName = .ok () ∧
      memory.image? articleId fileName = none ∧
      stage articleId fileName content memory = (.ok (imageReference fileName),
        { memory with images := Table.put memory.images (articleId, fileName) content }) := by
  cases article : checkName .articleId articleId with
  | error e =>
      refine .inl ⟨e, ?_⟩
      rw [stage, checkStage, article]
      rfl
  | ok _ =>
      cases named : checkName .fileName fileName with
      | error e =>
          refine .inl ⟨e, ?_⟩
          rw [stage, checkStage, article, named]
          rfl
      | ok _ =>
          cases image : memory.image? articleId fileName with
          | some taken => exact .inl ⟨_, stage_of_image? article named image content⟩
          | none => exact .inr ⟨rfl, rfl, rfl, stage_of_free article named image content⟩

/-- Staging an image spares other articles. -/
theorem spares_stage (articleId fileName : String) (content : ByteArray) (memory : MemoryStore) :
    Spares articleId memory (stage articleId fileName content memory).2 := by
  rcases of_stage articleId fileName content memory with ⟨e, refused⟩ | ⟨_, _, _, stored⟩
  · rw [refused]
    exact .refl articleId memory
  · rw [stored]
    refine ⟨fun _ _ _ => rfl, fun other name differs => ?_⟩
    refine (Table.get?_put memory.images (articleId, fileName) (other, name) content).trans ?_
    rw [if_neg fun same => differs (Prod.ext_iff.mp same).1]
    rfl

/-- An image is in a store, under a name that the store takes. -/
structure Kept (articleId fileName : String) (content : ByteArray) (memory : MemoryStore) :
    Prop where
  article : checkName .articleId articleId = .ok ()
  named : checkName .fileName fileName = .ok ()
  image : memory.image? articleId fileName = some content

namespace Kept

variable (kept : Kept articleId fileName content memory)
include kept

theorem of_images {after : MemoryStore} (same : after.images = memory.images) :
    Kept articleId fileName content after := by
  refine ⟨kept.article, kept.named, ?_⟩
  rw [image?, same]
  exact kept.image

/-- Staging an image keeps the other ones. -/
theorem stage (other name : String) (data : ByteArray) :
    Kept articleId fileName content (MemoryStore.stage other name data memory).2 := by
  rcases of_stage other name data memory with ⟨e, refused⟩ | ⟨_, _, free, stored⟩
  · rw [refused]
    exact kept
  · rw [stored]
    refine ⟨kept.article, kept.named, ?_⟩
    refine (Table.get?_put memory.images (other, name) (articleId, fileName) data).trans ?_
    rw [if_neg]
    · exact kept.image
    · intro same
      cases same
      cases free.symm.trans kept.image

end Kept

/-- The state behind a request to memory. -/
theorem run_onMemory (request : Request) (memory : MemoryStore) :
    (request.onMemory.run memory).2 =
      match request with
      | .put articleId kind content => (put articleId kind content memory).2
      | .commit articleId bundle => (commit articleId bundle memory).2
      | .stage articleId fileName content => (stage articleId fileName content memory).2 := by
  cases request <;> rfl

/-- An image that is kept is guarded in memory. -/
theorem guards_kept : Request.Guards Request.onMemory Kept where
  begins := by
    intro articleId fileName content memory reference after run
    rcases of_stage articleId fileName content memory with ⟨e, refused⟩ |
      ⟨article, named, _, stored⟩
    · rw [Request.onMemory, Request.run_modifyGet refused] at run
      cases run
    · rw [Request.onMemory, Request.run_modifyGet stored] at run
      cases run
      refine ⟨article, named, ?_⟩
      refine (Table.get?_put memory.images (articleId, fileName) _ content).trans ?_
      rw [if_pos rfl]
  step := by
    intro articleId fileName content memory request kept
    rw [run_onMemory]
    cases request with
    | put other kind data => exact kept.of_images (of_put other kind data memory).2
    | commit other bundle => exact kept.of_images (of_commit other bundle memory).2
    | stage other name data => exact kept.stage other name data
  taken := by
    intro articleId fileName content memory other kept
    have refused := stage_of_image? kept.article kept.named kept.image other
    rw [Request.onMemory, Request.run_modifyGet refused]
    rfl

/-- A request spares what memory has for other articles. -/
theorem spares_request (request : Request) (memory : MemoryStore) :
    Spares request.articleId memory (request.onMemory.run memory).2 := by
  rw [run_onMemory]
  cases request with
  | put articleId kind content => exact (of_put articleId kind content memory).1
  | commit articleId bundle => exact (of_commit articleId bundle memory).1
  | stage articleId fileName content => exact spares_stage articleId fileName content memory

end MemoryStore

/-- **Staged images stay.** In a directory with any files in it and in any store in memory, every
image that is staged is there right away and after all later requests, and its name stays taken. A
request for an article spares what belongs to others, and a request with a name that is refused
changes nothing. -/
theorem DirectoryStore.staged_images_stay (store : DirectoryStore) (tree : FileTree)
    (memory : MemoryStore) (requests : List Request) :
    Request.KeepsImages store.HasImage
      (Request.events (Request.onDirectory store) requests tree) ∧
    Request.KeepsImages
      (fun articleId fileName content memory => memory.image? articleId fileName = some content)
      (Request.events Request.onMemory requests memory) ∧
    ∀ request : Request,
      store.Spares request.articleId tree ((request.onDirectory store).run tree).2 ∧
      MemoryStore.Spares request.articleId memory (request.onMemory.run memory).2 ∧
      ∀ e, request.check = .error e →
        (request.onDirectory store).run tree = (.error e, tree) ∧
        request.onMemory.run memory = (.error e, memory) := by
  refine ⟨?_, ?_, fun request => ⟨store.spares_request request tree,
    MemoryStore.spares_request request memory, fun e bad =>
      Request.of_check_error bad tree memory⟩⟩
  · have keeps := (guards_kept store).keepsImages requests tree
    exact keeps.imp fun _ _ _ _ ⟨_, kept⟩ => kept.hasImage
  · have keeps := MemoryStore.guards_kept.keepsImages requests memory
    exact keeps.imp fun _ _ _ _ kept => kept.image

/-- A root that goes through the staging area of an article and leaves it again stops leading
anywhere when the area is cleared. The image is still in its place. -/
example :
    let store : DirectoryStore := ⟨.ofText "t/a/.staging/../..", none⟩
    let requests : List Request :=
      [.stage "a" "f.png" "1".toUTF8, .commit "a" ⟨"a", "", "", "", ⟨0, 0, 0, 0, 0, 0⟩⟩]
    let trees := (Request.trace (Request.onDirectory store) requests {}).map Prod.snd
    trees.map (·.read ((store.imageDirectory "a").child "f.png")) = [some "1".toUTF8, none] ∧
      trees.map (·.read (.ofText "t/a/images/f.png")) = [some "1".toUTF8, some "1".toUTF8] := by
  decide +kernel

end ScrollStory
