import ScrollStory.Proofs.Storage.Refinement

/-!
# Bundles that are put one by one

A sink without a staging area stores a bundle by putting its artifacts one after another and stops
at the first that is refused. What has been put before stays, so that a commit that fails leaves
everything as it was just if that had been stored with the same contents before
(`ScrollStory.ArtifactSink.commit_ofPut`).
-/

namespace ScrollStory

namespace ArtifactSink

/-- What a sink holds: the contents of its artifacts by article and kind. -/
abbrev Holdings := String → ArtifactKind → Option ByteArray

/-- What has been added to some holdings: the artifacts of an article, and nothing else. -/
structure Adds (articleId : String) (artifacts : List (ArtifactKind × String))
    (before after : Holdings) : Prop where
  stored : ∀ artifact ∈ artifacts, after articleId artifact.1 = some artifact.2.toUTF8
  others : ∀ id kind, (id = articleId → kind ∉ artifacts.map Prod.fst) →
    after id kind = before id kind

namespace Adds

variable {articleId : String} {artifacts : List (ArtifactKind × String)}
  {before between after : Holdings}

theorem nil (articleId : String) (holdings : Holdings) : Adds articleId [] holdings holdings :=
  ⟨List.forall_mem_nil _, fun _ _ _ => rfl⟩

theorem cons {kind : ArtifactKind} {content : String}
    (first : Adds articleId [(kind, content)] before between)
    (rest : Adds articleId artifacts between after) (fresh : kind ∉ artifacts.map Prod.fst) :
    Adds articleId ((kind, content) :: artifacts) before after := by
  constructor
  · intro artifact member
    rcases List.mem_cons.mp member with rfl | later
    · rw [rest.others articleId kind fun _ => fresh]
      exact first.stored _ List.mem_cons_self
    · exact rest.stored artifact later
  · intro id other far
    rw [rest.others id other fun same later => far same (List.mem_cons_of_mem _ later)]
    refine first.others id other fun same here => far same ?_
    rw [List.mem_singleton.mp here]
    exact List.mem_cons_self

/-- Nothing is changed just if all that is added has been there before. -/
theorem eq_iff (adds : Adds articleId artifacts before after) :
    after = before ↔
      ∀ artifact ∈ artifacts, before articleId artifact.1 = some artifact.2.toUTF8 := by
  constructor
  · rintro rfl
    exact adds.stored
  · intro same
    funext id kind
    by_cases added : id = articleId ∧ kind ∈ artifacts.map Prod.fst
    · obtain ⟨rfl, listed⟩ := added
      obtain ⟨artifact, member, rfl⟩ := List.mem_map.mp listed
      rw [adds.stored artifact member, same artifact member]
    · exact adds.others id kind fun here listed => added ⟨here, listed⟩

end Adds

/-! ## Putting in turn -/

variable {σ : Type}

/-- Artifacts that are put in turn, each of them accepted. -/
inductive Accepted (put : ArtifactKind → ByteArray → StateM σ (Except Error ArtifactLocation)) :
    σ → List (ArtifactKind × String) → List ArtifactLocation → σ → Prop
  | nil (state : σ) : Accepted put state [] [] state
  | cons {before between after : σ} {kind : ArtifactKind} {content : String}
      {location : ArtifactLocation} {artifacts : List (ArtifactKind × String)}
      {locations : List ArtifactLocation}
      (first : (put kind content.toUTF8).run before = (.ok location, between))
      (rest : Accepted put between artifacts locations after) :
      Accepted put before ((kind, content) :: artifacts) (location :: locations) after

variable {put : ArtifactKind → ByteArray → StateM σ (Except Error ArtifactLocation)}

/-- If putting artifacts in turn succeeds, each of them is accepted. -/
theorem accepted_of_putAll {artifacts : List (ArtifactKind × String)} {before after : σ}
    {locations : List ArtifactLocation}
    (run : (putAll put artifacts).run before = (.ok locations, after)) :
    Accepted put before artifacts locations after := by
  induction artifacts generalizing before locations with
  | nil =>
      cases run
      exact .nil _
  | cons artifact artifacts ih =>
      obtain ⟨answer, between, first, run⟩ := of_run_bind run
      cases answer with
      | error e => cases run
      | ok location =>
          obtain ⟨answers, last, later, run⟩ := of_run_bind run
          cases answers with
          | error e => cases run
          | ok others =>
              cases run
              exact .cons first (ih later)

/-- Artifacts that are put in turn up to one that is refused: those done before it, and the state in
which it is refused. -/
structure StopsAfter (put : ArtifactKind → ByteArray → StateM σ (Except Error ArtifactLocation))
    (artifacts : List (ArtifactKind × String)) (before : σ) (e : Error) (after : σ)
    (done : List (ArtifactKind × String)) (between : σ) : Prop where
  accepted : ∃ locations, Accepted put before done locations between
  refused : ∃ kind content, done ++ [(kind, content)] <+: artifacts ∧
    (put kind content.toUTF8).run between = (.error e, after)

/-- If putting artifacts in turn fails, it stops after those that were accepted. -/
theorem stopsAfter_of_putAll {artifacts : List (ArtifactKind × String)} {before after : σ}
    {e : Error} (run : (putAll put artifacts).run before = (.error e, after)) :
    ∃ done between, StopsAfter put artifacts before e after done between := by
  induction artifacts generalizing before with
  | nil => cases run
  | cons artifact artifacts ih =>
      obtain ⟨answer, between, first, run⟩ := of_run_bind run
      cases answer with
      | error fault =>
          cases run
          have start : [artifact] <+: artifact :: artifacts :=
            List.prefix_append [artifact] artifacts
          exact ⟨[], before, ⟨[], .nil before⟩, artifact.1, artifact.2, start, first⟩
      | ok location =>
          obtain ⟨answers, last, later, run⟩ := of_run_bind run
          cases answers with
          | ok others => cases run
          | error fault =>
              cases run
              obtain ⟨done, between, ⟨locations, accepted⟩, kind, content, within, stopped⟩ :=
                ih later
              exact ⟨artifact :: done, between, ⟨location :: locations, .cons first accepted⟩, kind,
                content, (List.prefix_cons_inj artifact).mpr within, stopped⟩

/-! ## Honest sinks -/

/-- Putting is honest, for a view of what a sink holds: an artifact that is accepted is stored, one
that is refused is not, and nothing else is changed. -/
structure Honest (view : σ → Holdings)
    (put : String → ArtifactKind → ByteArray → StateM σ (Except Error ArtifactLocation)) :
    Prop where
  stored : ∀ {articleId kind content before location after},
    (put articleId kind content).run before = (.ok location, after) →
      view after articleId kind = some content
  others : ∀ {articleId kind content before location after},
    (put articleId kind content).run before = (.ok location, after) →
      ∀ id other, (id = articleId → other ≠ kind) → view after id other = view before id other
  refused : ∀ {articleId kind content before e after},
    (put articleId kind content).run before = (.error e, after) → view after = view before

variable {view : σ → Holdings}
  {put : String → ArtifactKind → ByteArray → StateM σ (Except Error ArtifactLocation)}
  {articleId : String} {before after : σ}

/-- Artifacts that are accepted are added to what the sink holds. -/
theorem Accepted.adds (honest : Honest view put) {artifacts : List (ArtifactKind × String)}
    {locations : List ArtifactLocation}
    (accepted : Accepted (put articleId) before artifacts locations after)
    (nodup : (artifacts.map Prod.fst).Nodup) :
    Adds articleId artifacts (view before) (view after) := by
  induction accepted with
  | nil state => exact .nil articleId (view state)
  | cons first _ ih =>
      obtain ⟨fresh, nodup⟩ := List.nodup_cons.mp nodup
      refine .cons ⟨?_, fun id other far => ?_⟩ (ih nodup) fresh
      · exact List.forall_mem_singleton.mpr (honest.stored first)
      · exact honest.others first id other fun same => by simpa using far same

/-- **Bundles put one by one.** An honest sink that stores a bundle by putting its artifacts one by
one stores all three of them and changes nothing else if no put is refused. If the name is refused,
nothing is changed, and if a put is, the artifacts put before it have been stored. So a commit that
fails changes nothing just if those were there before with the same contents. -/
theorem commit_ofPut (honest : Honest view put) (name articleId : String) (bundle : Bundle)
    (before : σ) :
    ∃ result after, ((ofPut name put).commit articleId bundle).run before = (result, after) ∧
      (∀ locations, result = .ok locations →
        Accepted (put articleId) before bundle.artifacts locations after ∧
          (∀ kind, view after articleId kind = some (bundle.get kind).toUTF8) ∧
          ∀ id, id ≠ articleId → ∀ kind, view after id kind = view before id kind) ∧
      ∀ e, result = .error e →
        (checkName .articleId articleId = .error e ∧ after = before) ∨
          ∃ done between,
            StopsAfter (put articleId) bundle.artifacts before e after done between ∧
            Adds articleId done (view before) (view after) ∧
            (view after = view before ↔
              ∀ artifact ∈ done, view before articleId artifact.1 = some artifact.2.toUTF8) := by
  have nodup : (bundle.artifacts.map Prod.fst).Nodup := DirectoryStore.nodup_kinds
  cases checked : checkName .articleId articleId with
  | error e =>
      have run : ((ofPut name put).commit articleId bundle).run before = (.error e, before) := by
        simp only [ofPut, checked]
        rfl
      refine ⟨_, _, run, by simp, fun fault same => .inl ?_⟩
      cases same
      exact ⟨rfl, rfl⟩
  | ok _ =>
      have commit : (ofPut name put).commit articleId bundle =
          putAll (put articleId) bundle.artifacts := by
        simp only [ofPut, checked]
      rw [commit]
      rcases ran : (putAll (put articleId) bundle.artifacts).run before with ⟨result, after⟩
      refine ⟨result, after, rfl, fun locations done => ?_, fun e failed => .inr ?_⟩
      · subst done
        have accepted := accepted_of_putAll ran
        have adds := accepted.adds honest nodup
        refine ⟨accepted, fun kind => ?_, fun id other kind => ?_⟩
        · exact adds.stored _ (List.mem_map_of_mem kind.mem_all)
        · exact adds.others id kind fun same => (other same).elim
      · subst failed
        obtain ⟨done, between, stops⟩ := stopsAfter_of_putAll ran
        obtain ⟨⟨locations, accepted⟩, kind, content, within, stopped⟩ := id stops
        -- What has been put are the first artifacts of the bundle, so none of them was put twice.
        have early : done <+: bundle.artifacts := (List.prefix_append _ _).trans within
        have adds := accepted.adds honest (nodup.sublist (early.map Prod.fst).sublist)
        rw [← honest.refused stopped] at adds
        exact ⟨done, between, stops, adds, adds.eq_iff⟩

end ArtifactSink

/-! ## A store in memory -/

namespace MemoryStore

/-- The artifacts of a store. -/
def holdings (store : MemoryStore) : ArtifactSink.Holdings :=
  fun articleId kind => Table.get? store.artifacts (articleId, kind)

/-- Putting one artifact into a store inserts it, unless it is refused. -/
theorem run_put (articleId : String) (kind : ArtifactKind) (content : ByteArray)
    (store : MemoryStore) :
    (∃ e, (sink.put articleId kind content).run store = (.error e, store)) ∨
      (sink.put articleId kind content).run store =
        (.ok (location articleId kind), store.insert articleId kind content) := by
  change (∃ e, put articleId kind content store = _) ∨ put articleId kind content store = _
  unfold put
  cases store.checkPut articleId kind with
  | error e => exact .inl ⟨e, rfl⟩
  | ok _ => exact .inr rfl

/-- Putting into a store in memory is honest. -/
theorem honest_put : ArtifactSink.Honest holdings sink.put := by
  constructor
  · intro articleId kind content before place after run
    rcases run_put articleId kind content before with ⟨e, refused⟩ | inserted
    · cases refused.symm.trans run
    · cases inserted.symm.trans run
      exact (Table.get?_put _ _ _ _).trans (if_pos rfl)
  · intro articleId kind content before place after run id other far
    rcases run_put articleId kind content before with ⟨e, refused⟩ | inserted
    · cases refused.symm.trans run
    · cases inserted.symm.trans run
      refine (Table.get?_put _ _ _ _).trans (if_neg fun same => ?_)
      exact far (Prod.mk.inj same).1 (Prod.mk.inj same).2
  · intro articleId kind content before e after run
    rcases run_put articleId kind content before with ⟨fault, refused⟩ | inserted
    · cases refused.symm.trans run
      rfl
    · cases inserted.symm.trans run

end MemoryStore

namespace ArtifactSink

/-- A bundle of three short artifacts. -/
def sample : Bundle :=
  ⟨"a1", "<html>", "css", "js", ⟨0, 0, 0, 0, 0, 0⟩⟩

/-- A store that refuses programs keeps what has been put before. -/
theorem commit_ofPut_noProgram :
    Honest MemoryStore.holdings MemoryStore.sink.put ∧
      ∃ e after done between, ((ofPut "put-only" MemoryStore.sink.put).commit "a1" sample).run
          { refused := some .program } = (.error e, after) ∧
        StopsAfter (MemoryStore.sink.put "a1") sample.artifacts { refused := some .program } e
          after done between ∧
        Adds "a1" done (MemoryStore.holdings { refused := some .program })
          (MemoryStore.holdings after) := by
  obtain ⟨result, after, run, _, fails⟩ := commit_ofPut MemoryStore.honest_put "put-only" "a1"
    sample { refused := some .program }
  have refused : ((ofPut "put-only" MemoryStore.sink.put).commit "a1" sample).run
      { refused := some .program } = (.error _, _) := rfl
  cases refused.symm.trans run
  rcases fails _ rfl with ⟨unsafeName, _⟩ | ⟨done, between, stops, adds, _⟩
  · cases unsafeName
  · exact ⟨MemoryStore.honest_put, _, _, done, between, run, stops, adds⟩

/-- An honest sink whose commit of a bundle fails at the stylesheet, when the document has been
stored that was not there before. -/
theorem commit_ofPut_fails_stylesheet :
    Honest MemoryStore.holdings MemoryStore.sink.put ∧
      ∃ after, ((ofPut "put-only" MemoryStore.sink.put).commit "a1" sample).run
          { refused := some .stylesheet } =
            (.error (.storage (.unavailable "css/styles.css")), after) ∧
        MemoryStore.holdings { refused := some .stylesheet } "a1" .html = none ∧
        MemoryStore.holdings after "a1" .html = some "<html>".toUTF8 :=
  ⟨MemoryStore.honest_put, _, rfl, rfl, rfl⟩

end ArtifactSink

end ScrollStory
