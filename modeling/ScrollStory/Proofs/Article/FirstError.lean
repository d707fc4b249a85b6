import ScrollStory.Proofs.Article.Paths
import ScrollStory.Proofs.Article.Valid
import ScrollStory.Proofs.Article.Warnings

/-!
# The first error of an article

Validation stops at the first error. Its path leads to a part of the article that is there, and what
comes behind its page has no say: any other article that begins with the same pages is refused with
the same error, and the pages in front of it are accepted by themselves
(`ScrollStory.Article.stops_at_first_error`).
-/

namespace ScrollStory

/-! ## Places on a page -/

/-- A place on page `i` of an article. The parts on the way to it are there, and its field is not
that of an indexed part. -/
inductive Place.On (page : Page) (i : Nat) : Place → Prop where
  | page {field : String} (plain : '[' ∉ field.toList) : On page i (.page i field)
  | frame {j : Nat} {frame : Frame} {field : String} (inPage : page.frames[j]? = some frame)
      (plain : '[' ∉ field.toList) : On page i (.frame i j field)
  | component {j : Nat} {frame : Frame} {k : Nat} {field : String}
      (inPage : page.frames[j]? = some frame) (inFrame : k < frame.components.length)
      (plain : '[' ∉ field.toList) : On page i (.component i j k field)

/-- The frames and components that a path names are those of a page. -/
structure Page.Contains (page : Page) (path : String) : Prop where
  frames : ∀ j, Place.Names path "frames" j → ∃ frame, page.frames[j]? = some frame ∧
    ∀ k, Place.Names path "components" k → k < frame.components.length
  components : ∀ k, Place.Names path "components" k → ∃ j, Place.Names path "frames" j

namespace Place.On

variable {place : Place} {page : Page} {i : Nat}

theorem page?_eq (on : place.On page i) : place.page? = some i := by
  cases on <;> rfl

theorem plain_field (on : place.On page i) : '[' ∉ place.field.toList := by
  cases on <;> assumption

/-- The frames and components that the path of a place on a page names are those of the page. -/
theorem contains (on : place.On page i) : page.Contains place.path := by
  have frames (j : Nat) : Names place.path "frames" j ↔ ("frames", j) ∈ place.inner :=
    names_path_iff on.page?_eq on.plain_field (by decide) (by decide)
  have components (k : Nat) : Names place.path "components" k ↔ ("components", k) ∈ place.inner :=
    names_path_iff on.page?_eq on.plain_field (by decide) (by decide)
  constructor
  · intro j named
    rw [frames] at named
    simp only [components]
    cases on with
    | page => cases named
    | frame inPage =>
        obtain ⟨-, rfl⟩ := Prod.mk.inj (List.mem_singleton.mp named)
        exact ⟨_, inPage, fun k member => by simp [inner] at member⟩
    | component inPage inFrame =>
        simp only [inner, List.mem_cons, Prod.mk.injEq, List.not_mem_nil, or_false] at named ⊢
        obtain ⟨-, rfl⟩ | ⟨other, -⟩ := named
        · refine ⟨_, inPage, fun k member => ?_⟩
          obtain ⟨other, -⟩ | ⟨-, rfl⟩ := member
          · exact absurd other (by decide)
          · exact inFrame
        · exact absurd other (by decide)
  · intro k named
    rw [components] at named
    simp only [frames]
    cases on with
    | page => cases named
    | frame inPage => exact ⟨_, List.mem_cons_self⟩
    | component inPage inFrame => exact ⟨_, List.mem_cons_self⟩

end Place.On

/-! ## Where findings are -/

namespace Finding

/-- Some findings are at places with a property. -/
def At (p : Place → Prop) (findings : List Finding) : Prop :=
  ∀ finding ∈ findings, p finding.place

variable {p : Place → Prop}

theorem at_append {findings others : List Finding} :
    At p (findings ++ others) ↔ At p findings ∧ At p others :=
  List.forall_mem_append

theorem at_ensure {place : Place} (here : p place) (kept : Bool) (problem : Problem) :
    At p (ensure kept place problem) := by
  intro finding member
  rw [(mem_ensure.mp member).2]
  exact here

/-- Findings that are collected item by item are at certain places if those of every item are. -/
theorem at_mapIdx {α : Type} {part : Nat → α → List Finding} {as : List α}
    (each : ∀ i a, as[i]? = some a → At p (part i a)) : At p (as.mapIdx part).flatten := by
  intro finding member
  obtain ⟨findings, listed, inside⟩ := List.mem_flatten.mp member
  obtain ⟨i, within, rfl⟩ := List.mem_mapIdx.mp listed
  exact each i _ (List.getElem?_eq_getElem within) finding inside

end Finding

open Finding (At Clean at_append at_ensure at_mapIdx clean_append)

/-- Every finding in a component is at one of the component's fields. -/
theorem Component.at_findings {p : Place → Prop} {place : String → Place}
    (here : ∀ field, '[' ∉ field.toList → p (place field)) (c : Component) :
    At p (c.findings place) := by
  have own := at_append.mpr ⟨at_ensure (here "id" (by decide)) (isIdentifier c.id)
    (.badIdentifier c.id), at_ensure (here "animation.transition" (by decide))
    (!Text.isBlankString c.animation.transition) .blankTransition⟩
  unfold findings
  cases c.type with
  | text =>
      exact at_append.mpr ⟨own, at_append.mpr ⟨at_ensure (here "" (by decide)) _ _,
        at_ensure (here "" (by decide)) _ _⟩⟩
  | image =>
      exact at_append.mpr ⟨own, at_append.mpr ⟨at_ensure (here "image.data" (by decide)) _ _,
        at_ensure (here "" (by decide)) _ _⟩⟩

namespace Page

variable (page : Page) (i : Nat)

/-- Every finding of a page's own rules is on that page. -/
theorem at_ownFindings : At (Place.On page i) (page.ownFindings i) := by
  have plain : ∀ field ∈ ["heightTop", "widthLeft", "heightBottom", "widthRight"],
      '[' ∉ ("layout." ++ field).toList := by decide
  have sizes : ∀ given ∈ page.layout.givenSizes, '[' ∉ ("layout." ++ given.1).toList := by
    intro given member
    obtain ⟨⟨field, size⟩, listed, present⟩ := List.mem_filterMap.mp member
    obtain ⟨value, -, rfl⟩ := Option.map_eq_some_iff.mp present
    exact plain field (List.mem_map_of_mem (f := Prod.fst) listed)
  refine at_append.mpr ⟨at_append.mpr ⟨at_ensure (.page (by decide)) _ _,
    at_ensure (.page (by decide)) _ _⟩, fun finding member => ?_⟩
  obtain ⟨given, listed, inside⟩ := List.mem_flatMap.mp member
  exact at_ensure (.page (sizes given listed)) _ _ finding inside

/-- What is found about a page is at places on it. -/
theorem at_findings (earlier : List Page) : At (Place.On page i) (page.findings earlier i) := by
  refine at_append.mpr ⟨at_append.mpr ⟨page.at_ownFindings i,
    at_ensure (.page (by decide)) _ _⟩, at_mapIdx fun j frame inPage => ?_⟩
  refine at_append.mpr ⟨at_ensure (.frame inPage (by decide)) _ _,
    at_mapIdx fun k c inFrame => ?_⟩
  have within := (List.getElem?_eq_some_iff.mp inFrame).1
  have here (field : String) (plain : '[' ∉ field.toList) :
      Place.On page i (.component i j k field) := .component inPage within plain
  exact at_append.mpr ⟨at_append.mpr ⟨c.at_findings here, at_ensure (here "id" (by decide)) _ _⟩,
    at_ensure (here "id" (by decide)) _ _⟩

end Page

/-! ## Pages one after another -/

namespace Article

/-- The findings about an article by itself, its pages apart. -/
def ownFindings (article : Article) (requirePages : Bool) : List Finding :=
  Finding.ensure (isIdentifier article.id) (.article "articleId") (.badIdentifier article.id) ++
  Finding.ensure (!(requirePages && article.pages.isEmpty)) (.article "pages") .noPages

/-- The findings about some pages of an article, from the first one on. -/
def pageFindings (pages : List Page) : List Finding :=
  (pages.mapIdx fun i page => page.findings (pages.take i) i).flatten

/-- The findings in an article are those of its own rules, and behind them those of its pages. -/
theorem findings_eq (article : Article) (requirePages : Bool) :
    article.findings requirePages =
      article.ownFindings requirePages ++ pageFindings article.pages :=
  rfl

/-- One page more adds its own findings. -/
theorem pageFindings_concat (pages : List Page) (page : Page) :
    pageFindings (pages ++ [page]) = pageFindings pages ++ page.findings pages pages.length := by
  have earlier : (pages.mapIdx fun i other => other.findings ((pages ++ [page]).take i) i) =
      pages.mapIdx fun i other => other.findings (pages.take i) i := by
    refine List.ext_getElem (by simp) fun i inside _ => ?_
    rw [List.length_mapIdx] at inside
    rw [List.getElem_mapIdx, List.getElem_mapIdx, List.take_append_of_le_length inside.le]
  rw [pageFindings, List.mapIdx_concat, earlier, List.flatten_concat, List.take_left]
  rfl

/-- More pages leave the findings about the earlier ones as they are. -/
theorem pageFindings_prefix (pages later : List Page) :
    pageFindings pages <+: pageFindings (pages ++ later) := by
  induction later using List.reverseRecOn with
  | nil => rw [List.append_nil]
  | append_singleton later page ih =>
      rw [← List.append_assoc, pageFindings_concat]
      exact ih.trans (List.prefix_append _ _)

/-- The first error about some pages is on one of them, and there is none on the pages before. -/
theorem exists_page_of_find? {convention : Convention} {pages : List Page} {finding : Finding}
    (found : (pageFindings pages).find? (Finding.isError convention) = some finding) :
    ∃ (i : Nat) (page : Page), pages[i]? = some page ∧
      Clean convention (pageFindings (pages.take i)) ∧
      (page.findings (pages.take i) i).find? (Finding.isError convention) = some finding := by
  induction pages using List.reverseRecOn with
  | nil => cases found
  | append_singleton pages page ih =>
      rw [pageFindings_concat, List.find?_append, Option.or_eq_some_iff] at found
      rcases found with found | ⟨none, found⟩
      · obtain ⟨i, earlier, at_i, clean, found⟩ := ih found
        have within := (List.getElem?_eq_some_iff.mp at_i).1
        refine ⟨i, earlier, by rw [List.getElem?_append_left within, at_i], ?_⟩
        rw [List.take_append_of_le_length within.le]
        exact ⟨clean, found⟩
      · refine ⟨pages.length, page, List.getElem?_concat_length, ?_⟩
        rw [List.take_left]
        exact ⟨fun finding member => Bool.eq_false_iff.mpr (List.find?_eq_none.mp none _ member),
          found⟩

variable {settings : ParseSettings} {article : Article}

/-- The first error on a page is that of the article if there is none before the page. -/
theorem firstError?_of_page
    (own : Clean settings.convention (article.ownFindings settings.requirePages)) {i : Nat}
    {page : Page} (at_i : article.pages[i]? = some page)
    (clean : Clean settings.convention (pageFindings (article.pages.take i))) {finding : Finding}
    (found : (page.findings (article.pages.take i) i).find?
      (Finding.isError settings.convention) = some finding) :
    article.firstError? settings = some finding := by
  have within := (List.getElem?_eq_some_iff.mp at_i).1
  have pages : pageFindings (article.pages.take (i + 1)) =
      pageFindings (article.pages.take i) ++ page.findings (article.pages.take i) i := by
    rw [List.take_add_one, at_i, Option.toList_some, pageFindings_concat,
      List.length_take_of_le within.le]
  have before {findings : List Finding} (clean : Clean settings.convention findings) :
      findings.find? (Finding.isError settings.convention) = none :=
    List.find?_eq_none.mpr fun finding member => Bool.eq_false_iff.mp (clean finding member)
  have first : (pageFindings (article.pages.take (i + 1))).find?
      (Finding.isError settings.convention) = some finding := by
    rw [pages, List.find?_append, before clean, Option.none_or, found]
  have whole : pageFindings (article.pages.take (i + 1)) <+: pageFindings article.pages := by
    conv => rhs; rw [← List.take_append_drop (i + 1) article.pages]
    exact pageFindings_prefix _ _
  rw [firstError?, findings_eq, List.find?_append, before own, Option.none_or]
  exact whole.find?_eq_some first

/-- An error with a path that begins with a page is the first one on this page. -/
theorem exists_page_of_firstError? {finding : Finding} {i : Nat}
    (first : article.firstError? settings = some finding)
    (starts : (Place.indexed "pages" i).toList <+: finding.place.path.toList) :
    Clean settings.convention (article.ownFindings settings.requirePages) ∧
      ∃ page, article.pages[i]? = some page ∧ finding.place.On page i ∧
        Clean settings.convention (pageFindings (article.pages.take i)) ∧
        (page.findings (article.pages.take i) i).find?
          (Finding.isError settings.convention) = some finding := by
  rw [firstError?, findings_eq, List.find?_append, Option.or_eq_some_iff] at first
  rcases first with found | ⟨none, found⟩
  · have own : At (fun place => place.page? = Option.none ∧ '[' ∉ place.field.toList)
        (article.ownFindings settings.requirePages) :=
      at_append.mpr ⟨at_ensure ⟨rfl, by decide⟩ _ _, at_ensure ⟨rfl, by decide⟩ _ _⟩
    obtain ⟨none, plain⟩ := own finding (List.mem_of_find?_eq_some found)
    rw [Place.page?_of_prefix plain starts] at none
    cases none
  · obtain ⟨other, page, at_i, clean, found⟩ := exists_page_of_find? found
    have on := page.at_findings other _ finding (List.mem_of_find?_eq_some found)
    have onPage := Place.page?_of_prefix on.plain_field starts
    obtain rfl := Option.some.inj (on.page?_eq.symm.trans onPage)
    exact ⟨fun finding member => Bool.eq_false_iff.mpr (List.find?_eq_none.mp none _ member),
      page, at_i, on, clean, found⟩

/-- The rules for an article by itself hold of any other one with its identifier and with a page. -/
theorem clean_ownFindings_of_id {other : Article} {convention : Convention} {requirePages : Bool}
    (own : Clean convention (article.ownFindings requirePages)) (same : other.id = article.id)
    (some : requirePages = false ∨ other.pages ≠ []) :
    Clean convention (other.ownFindings requirePages) := by
  obtain ⟨named, -⟩ := clean_append.mp own
  refine clean_append.mpr ⟨same ▸ named, ?_⟩
  have kept : (!(requirePages && other.pages.isEmpty)) = true := by
    rcases some with rfl | some
    · rfl
    · simp [some]
  rw [kept]
  exact List.forall_mem_nil _

/-- Validation fails with an error just if it is that of the first finding that counts as one. -/
theorem validate_eq_error_iff {e : Error} :
    article.validate settings = .error e ↔
      ∃ finding, article.firstError? settings = some finding ∧ finding.error = e := by
  rw [validate]
  cases article.firstError? settings <;> simp

/-! ## Stopping at the first error -/

/-- Validation stops on page `i` with an error at a path. The path leads into the page; the pages
behind it, the title and the pages of other articles make no difference; and nothing is wrong with
the pages before it. -/
structure StopsAt (article : Article) (settings : ParseSettings) (path detail : String) (i : Nat) :
    Prop where
  page : ∃ page, article.pages[i]? = some page ∧ page.Contains path
  later : ∀ other : Article, other.id = article.id →
    other.pages.take (i + 1) = article.pages.take (i + 1) →
      other.validate settings = .error (.schema path detail)
  earlier : 0 < i ∨ settings.requirePages = false →
    ∃ accepted, Article.validate settings { article with pages := article.pages.take i } =
      .ok accepted

/-- **Validation stops at the first error.** If an article is refused with a path that begins with a
page, the path leads to a part of this page that is there. Every article with the same identifier
and the same pages up to this one is refused with the same path and the same message, whatever
pages follow, and the pages before it are accepted, if there are any or none are needed. -/
theorem stops_at_first_error {path detail : String} {i : Nat}
    (refused : article.validate settings = .error (.schema path detail))
    (onPage : (Place.indexed "pages" i).toList <+: path.toList) :
    article.StopsAt settings path detail i := by
  obtain ⟨finding, first, same⟩ := validate_eq_error_iff.mp refused
  obtain ⟨rfl, rfl⟩ := Error.schema.inj same
  obtain ⟨own, page, at_i, on, clean, found⟩ := exists_page_of_firstError? first onPage
  refine ⟨⟨page, at_i, on.contains⟩, fun other named agree => ?_, fun some => ?_⟩
  · have there : other.pages[i]? = some page := by
      have same := congrArg (·[i]?) agree
      simpa only [List.getElem?_take_of_lt (Nat.lt_succ_self i), at_i] using same
    have before : other.pages.take i = article.pages.take i := by
      have same := congrArg (List.take i) agree
      simpa only [List.take_take, Nat.min_eq_left (Nat.le_succ i)] using same
    have pages : other.pages ≠ [] := by
      intro none
      rw [none] at there
      cases there
    refine validate_eq_error_iff.mpr ⟨finding, ?_, rfl⟩
    exact firstError?_of_page (clean_ownFindings_of_id own named (.inr pages)) there
      (before ▸ clean) (before ▸ found)
  · have within := (List.getElem?_eq_some_iff.mp at_i).1
    have pages : settings.requirePages = false ∨ article.pages.take i ≠ [] := by
      refine some.symm.imp_right fun positive none => ?_
      have length := List.length_take_of_le within.le
      rw [none] at length
      exact absurd positive (length ▸ Nat.lt_irrefl 0)
    have valid : firstError? settings { article with pages := article.pages.take i } = none := by
      rw [firstError?_eq_none_iff, findings_eq]
      exact clean_append.mpr ⟨clean_ownFindings_of_id own rfl pages, clean⟩
    exact ⟨_, by rw [validate, valid]⟩

/-- Two pages whose texts share their identifier. -/
def sharedId : Article :=
  { onePage "a" "one" with pages := (onePage "a" "one").pages ++ (onePage "b" "one").pages }

/-- The text of the second page is refused, whatever follows this page. -/
theorem stops_at_first_error_sharedId :
    sharedId.validate {} =
        .error (.schema "pages[1].frames[0].components[0].id" "duplicate component id 'one'") ∧
      (Place.indexed "pages" 1).toList <+: "pages[1].frames[0].components[0].id".toList ∧
      sharedId.StopsAt {} "pages[1].frames[0].components[0].id"
        "duplicate component id 'one'" 1 := by
  have refused : sharedId.validate {} =
      .error (.schema "pages[1].frames[0].components[0].id" "duplicate component id 'one'") := rfl
  have onPage : (Place.indexed "pages" 1).toList <+:
      "pages[1].frames[0].components[0].id".toList := by decide
  exact ⟨refused, onPage, stops_at_first_error refused onPage⟩

end Article

end ScrollStory
