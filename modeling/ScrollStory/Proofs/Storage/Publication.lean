import ScrollStory.Compiler
import ScrollStory.Proofs.Artifact.Stages
import ScrollStory.Proofs.Plan.Elements
import ScrollStory.Proofs.Storage.Refinement

/-!
# Nothing is stored of an article that does not compile

Committing an edition to a store in memory works just if the edition has a plan and the store
refuses no kind of artifacts. Then the three artifacts of the edition are stored, and else nothing
is (`ScrollStory.Compiler.commit_stores_iff`). Neither the document and the stylesheet nor the name
check of the store can stand in the way of an edition that has a plan.
-/

namespace ScrollStory

/-! ## Names of articles -/

/-- A plain name is safe. -/
theorem PlainName.isSafeName {s : String} (name : PlainName s) : isSafeName s = true := by
  have apart {special : Char} (far : ¬(special.isAlphanum ∨ special = '_' ∨ special = '-')) :
      special ∉ s.toList := fun member => far (name.characters special member)
  have point : '.' ∉ s.toList := apart (by decide)
  have characters : s.toList.all (fun c => c != '/' && c != '\\' && c != '\x00') = true := by
    refine List.all_eq_true.mpr fun c member => ?_
    have slash : c ≠ '/' := by
      rintro rfl
      exact apart (by decide) member
    have backslash : c ≠ '\\' := by
      rintro rfl
      exact apart (by decide) member
    have zero : c ≠ '\x00' := by
      rintro rfl
      exact apart (by decide) member
    simp [slash, backslash, zero]
  have staging : stagingName.toList.isPrefixOf s.toList = false := by
    rw [Bool.eq_false_iff]
    intro start
    exact point ((List.isPrefixOf_iff_prefix.mp start).subset (by decide))
  have one : s ≠ "." := by
    rintro rfl
    exact point (by decide)
  have two : s ≠ ".." := by
    rintro rfl
    exact point (by decide)
  simp [ScrollStory.isSafeName, name.nonempty, one, two, characters, staging]

/-! ## Editions with a plan -/

namespace Edition

variable {edition : Edition}

/-- A bundle holds the artifacts that an edition gives one by one. -/
structure BundleOf (edition : Edition) (bundle : Bundle) : Prop where
  html : edition.html = .ok bundle.html
  stylesheet : edition.stylesheet = .ok bundle.stylesheet
  program : edition.program = .ok bundle.program

/-- An edition with a plan has a bundle. -/
theorem bundle_of_plan {plan : Plan} (planned : edition.plan = .ok plan) :
    ∃ bundle, edition.bundle = .ok bundle ∧ edition.BundleOf bundle := by
  have planned : edition.article.compile edition.compile = .ok plan := planned
  obtain ⟨html, css, written, styled, made⟩ := Article.exists_artifacts planned edition.render
  refine ⟨⟨edition.article.id, html, css, plan.program edition.render, .of edition.article plan⟩,
    ?_, written, styled, ?_⟩
  · rw [bundle, Article.render, planned]
    exact made
  · rw [program, Article.program, planned]
    rfl

/-- An edition without a plan has no bundle, for the same reason. -/
theorem bundle_of_no_plan {e : Error} (planned : edition.plan = .error e) :
    edition.bundle = .error e := by
  have planned : edition.article.compile edition.compile = .error e := planned
  rw [bundle, Article.render, planned]
  rfl

/-- What has been stored of an edition: its three artifacts and nothing else. -/
structure Stored (edition : Edition) (before after : MemoryStore)
    (locations : List ArtifactLocation) : Prop where
  html : ∃ text, edition.html = .ok text ∧
    Table.get? after.artifacts (edition.article.id, .html) = some text.toUTF8
  stylesheet : ∃ text, edition.stylesheet = .ok text ∧
    Table.get? after.artifacts (edition.article.id, .stylesheet) = some text.toUTF8
  program : ∃ text, edition.program = .ok text ∧
    Table.get? after.artifacts (edition.article.id, .program) = some text.toUTF8
  locations : locations = [ArtifactKind.html, .stylesheet, .program].map fun kind =>
    ⟨kind, "memory://" ++ edition.article.id ++ "/" ++ kind.relativePath⟩
  others : ∀ articleId kind, articleId ≠ edition.article.id →
    Table.get? after.artifacts (articleId, kind) = Table.get? before.artifacts (articleId, kind)
  images : after.images = before.images
  refused : after.refused = before.refused

/-- An edition without a bundle leaves a store as it is. -/
theorem run_commit_of_error {e : Error} (failed : edition.bundle = .error e)
    (store : MemoryStore) :
    (edition.commit MemoryStore.sink).run store = (.error e, store) := by
  rw [commit, failed]
  rfl

/-- An edition with a bundle is committed as this bundle. -/
theorem run_commit_of_ok {bundle : Bundle} (made : edition.bundle = .ok bundle)
    (store : MemoryStore) :
    (edition.commit MemoryStore.sink).run store =
      MemoryStore.commit edition.article.id bundle store := by
  rw [commit, made]
  rfl

end Edition

namespace MemoryStore

variable {store : MemoryStore} {articleId : String}

/-- A store that refuses an artifact stays as it is. -/
theorem commit_of_refused {kind : ArtifactKind} (refused : store.refused = some kind)
    (checked : checkName .articleId articleId = .ok ()) (bundle : Bundle) :
    ∃ e, commit articleId bundle store = (.error e, store) := by
  have check : ∃ e, store.checkCommit articleId = .error e := by
    rw [checkCommit, checked]
    cases kind <;> simp [ArtifactKind.all, checkKind, refused, bind, Except.bind]
  obtain ⟨e, check⟩ := check
  exact ⟨e, by rw [commit, check]⟩

end MemoryStore

namespace Edition

variable {edition : Edition} {store : MemoryStore}

/-- A bundle is stored for an article with a safe identifier if nothing is refused. -/
theorem stored_of_bundle {bundle : Bundle} (made : edition.bundle = .ok bundle)
    (holds : edition.BundleOf bundle) (safe : isSafeName edition.article.id = true)
    (willing : store.refused = none) :
    ∃ after locations, (edition.commit MemoryStore.sink).run store = (.ok locations, after) ∧
      edition.Stored store after locations := by
  have committed := MemoryStore.commit_of_willing
    (DirectoryStore.checkName_of_safe safe .articleId) willing bundle
  have entries := store.get?_insert_bundle edition.article.id bundle
  refine ⟨_, _, (run_commit_of_ok made store).trans committed, ?_, ?_, ?_, rfl, ?_, rfl, rfl⟩
  · exact ⟨bundle.html, holds.html, (entries _ _).trans (if_pos rfl)⟩
  · exact ⟨bundle.stylesheet, holds.stylesheet, (entries _ _).trans (if_pos rfl)⟩
  · exact ⟨bundle.program, holds.program, (entries _ _).trans (if_pos rfl)⟩
  · exact fun articleId kind other => (entries _ _).trans (if_neg other)

end Edition

namespace Compiler

variable {compiler : Compiler} {edition : Edition}

/-- An edition that a compiler gives, of bytes, of a string, or of an article built in code. -/
def Gives (compiler : Compiler) (edition : Edition) : Prop :=
  (∃ bytes, compiler.parseBytes bytes = .ok edition) ∨
    (∃ text, compiler.parseText text = .ok edition) ∨
    ∃ article, compiler.load article = .ok edition

/-- An edition that a compiler gives is of an article that its parser accepts. -/
theorem accept_of_gives (given : compiler.Gives edition) :
    ∃ read, compiler.parse.accept read = .ok edition.article := by
  rcases given with ⟨bytes, parsed⟩ | ⟨text, parsed⟩ | ⟨built, loaded⟩
  · obtain ⟨article, accepted, done⟩ := of_bind_ok parsed
    cases done
    exact ⟨_, accepted⟩
  · obtain ⟨article, accepted, done⟩ := of_bind_ok parsed
    cases done
    exact ⟨_, accepted⟩
  · obtain ⟨article, accepted, done⟩ := of_bind_ok loaded
    cases done
    exact ⟨.ok built, accepted⟩

/-- **Commits to memory.** Committing an edition that a compiler gives works just if it has a plan
and the store refuses no kind of artifacts. If it works, the three artifacts of the edition are
stored and nothing else is changed, and if not, nothing is. The name of the article is always one
that stores take, and an edition that has a plan has a document and a stylesheet. -/
theorem commit_stores_iff (given : compiler.Gives edition) (store : MemoryStore) :
    ∃ result after, (edition.commit MemoryStore.sink).run store = (result, after) ∧
      ((∃ locations, result = .ok locations) ↔
        (∃ plan, edition.plan = .ok plan) ∧ store.refused = none) ∧
      (∀ e, result = .error e → after = store) ∧
      (∀ locations, result = .ok locations → edition.Stored store after locations) ∧
      isSafeName edition.article.id = true ∧
      ((∃ plan, edition.plan = .ok plan) →
        (∃ text, edition.html = .ok text) ∧ ∃ text, edition.stylesheet = .ok text) := by
  obtain ⟨read, accepted⟩ := accept_of_gives given
  have safe := (Article.wellFormed_of_accept accepted).id.isSafeName
  cases planned : edition.plan with
  | error e =>
      have run := Edition.run_commit_of_error (Edition.bundle_of_no_plan planned) store
      exact ⟨_, _, run, by simp, fun _ _ => rfl, by simp, safe, by simp⟩
  | ok plan =>
      obtain ⟨bundle, made, holds⟩ := Edition.bundle_of_plan planned
      have parts : (∃ text, edition.html = .ok text) ∧ ∃ text, edition.stylesheet = .ok text :=
        ⟨⟨_, holds.html⟩, _, holds.stylesheet⟩
      cases refused : store.refused with
      | some kind =>
          obtain ⟨e, failed⟩ := MemoryStore.commit_of_refused refused
            (DirectoryStore.checkName_of_safe safe .articleId) bundle
          have run := (Edition.run_commit_of_ok made store).trans failed
          exact ⟨_, _, run, by simp, fun _ _ => rfl, by simp, safe, fun _ => parts⟩
      | none =>
          obtain ⟨after, locations, run, stored⟩ :=
            Edition.stored_of_bundle made holds safe refused
          refine ⟨_, _, run, by simp, by simp, ?_, safe, fun _ => parts⟩
          intro others same
          cases same
          exact stored

/-- The edition of the text of an article with two pages is stored. -/
theorem commit_stores_iff_twoPages :
    ∃ edition after locations,
      parseText {} ((Article.twoPages "a" "b").toJson.text .compact) = .ok edition ∧
        (edition.commit MemoryStore.sink).run {} = (.ok locations, after) ∧
        edition.Stored {} after locations := by
  have canonical : (Article.twoPages "a" "b").Canonical := by
    unfold Article.Canonical Template.Canonical
    decide
  have parsed : parseText {} ((Article.twoPages "a" "b").toJson.text .compact) =
      .ok (Compiler.edition {} (Article.twoPages "a" "b").stamp) := by
    rw [parseText, ParseSettings.parseText,
      Article.ofText_text .compact canonical (Article.inRange_twoPages _ _)]
    rfl
  have planned : (Compiler.edition {} (Article.twoPages "a" "b").stamp).plan = .ok _ := rfl
  obtain ⟨result, after, run, works, _, stored, _⟩ :=
    commit_stores_iff (.inr (.inl ⟨_, parsed⟩)) {}
  obtain ⟨locations, rfl⟩ := works.mpr ⟨⟨_, planned⟩, rfl⟩
  exact ⟨_, after, locations, parsed, run, stored locations rfl⟩

end Compiler

end ScrollStory
