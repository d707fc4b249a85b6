import Mathlib.Tactic.Tauto
import ScrollStory.Proofs.Article.Stamp
import ScrollStory.Proofs.Article.Valid

/-!
# Well-formed articles

What an article has to be like to be accepted, said without the checks and their order: every part
keeps the rules for itself, and no two pages and no two components of the whole article share an
identifier. The checks accept just the well-formed articles, and change nothing in them but the
membership of the components (`ScrollStory.Article.validate_iff`).
-/

namespace ScrollStory

/-! ## Well-formed parts -/

/-- A name of ASCII letters, digits, underscores and hyphens that begins with no hyphen. -/
structure PlainName (s : String) : Prop where
  nonempty : s ≠ ""
  characters : ∀ c ∈ s.toList, c.isAlphanum ∨ c = '_' ∨ c = '-'
  start : s.toList.head? ≠ some '-'

/-- A string with a character that is not white space. -/
def NotBlank (s : String) : Prop := ∃ c ∈ s.toList, Text.isBlank c = false

/-- What validation asks of a component by itself. -/
structure Component.WellFormed (c : Component) : Prop where
  id : PlainName c.id
  transition : NotBlank c.animation.transition
  text : c.type = .text → c.contentHtml.isSome ∧ c.image = none
  image : c.type = .image →
    (∃ image ∈ c.image, ∃ data ∈ image.data, NotBlank data) ∧ c.contentHtml = none

/-- What validation asks of a page by itself. -/
structure Page.WellFormed (page : Page) (convention : Convention) : Prop where
  id : PlainName page.id
  step : page.stepPercent ≠ some 0
  sizes : ∀ size ∈ [page.layout.heightTop, page.layout.widthLeft, page.layout.heightBottom,
    page.layout.widthRight], ∀ value ∈ size, isCssLength value = true
  frames : ∀ frame ∈ page.frames, PlainName frame.id
  components : ∀ c ∈ page.components, c.WellFormed
  convention : convention = .enforce → ∀ c ∈ page.components, followsConvention page.id c.id = true

/-- What validation asks of an article. -/
structure Article.WellFormed (article : Article) (settings : ParseSettings) : Prop where
  id : PlainName article.id
  some : settings.requirePages = true → article.pages ≠ []
  pages : ∀ page ∈ article.pages, page.WellFormed settings.convention
  pageIds : (article.pages.map Page.id).Nodup
  componentIds : (article.components.map Component.id).Nodup

/-! ## The checks on strings -/

/-- The characters of words are ASCII letters and digits, and underscores. -/
theorem isWordChar_iff (c : Char) :
    Identifier.isWordChar c = true ↔ c.isAlphanum ∨ c = '_' := by
  have upper : (decide ('A' ≤ c) && decide (c ≤ 'Z')) = c.isUpper :=
    (Bool.decide_and ('A' ≤ c) (c ≤ 'Z')).symm
  rw [Identifier.isWordChar, upper, Bool.or_eq_true, decide_eq_true_eq]
  exact Iff.rfl

/-- Identifiers are not empty, have only characters of words and hyphens, and do not begin with a
hyphen. -/
theorem accepts_iff (cs : List Char) :
    Identifier.accepts cs = true ↔
      cs ≠ [] ∧ (∀ c ∈ cs, c.isAlphanum ∨ c = '_' ∨ c = '-') ∧ cs.head? ≠ some '-' := by
  have hyphen : Identifier.isWordChar '-' = false := rfl
  cases cs with
  | nil => simp [Identifier.accepts]
  | cons first rest =>
      have start : Identifier.isWordChar first = true → first ≠ '-' := by
        rintro word rfl
        exact Bool.false_ne_true (hyphen.symm.trans word)
      simp only [isWordChar_iff] at start
      simp only [Identifier.accepts, Bool.and_eq_true, isWordChar_iff, List.all_eq_true,
        Bool.or_eq_true, decide_eq_true_eq, List.forall_mem_cons, ne_eq, List.cons_ne_nil,
        not_false_eq_true, List.head?_cons, Option.some.injEq, true_and, or_assoc]
      tauto

/-- The identifiers are the plain names. -/
theorem isIdentifier_iff (s : String) : isIdentifier s = true ↔ PlainName s := by
  have empty : s.toList ≠ [] ↔ s ≠ "" := by simp
  rw [isIdentifier, accepts_iff, empty]
  exact ⟨fun ⟨a, b, c⟩ => ⟨a, b, c⟩, fun ⟨a, b, c⟩ => ⟨a, b, c⟩⟩

theorem isBlankString_iff (s : String) : (!Text.isBlankString s) = true ↔ NotBlank s := by
  simp [Text.isBlankString, NotBlank]

/-- A component has an image's data if they are given and not blank. -/
theorem hasImageData_iff (c : Component) :
    c.hasImageData = true ↔ ∃ image ∈ c.image, ∃ data ∈ image.data, NotBlank data := by
  unfold Component.hasImageData
  cases c.image with
  | none => simp
  | some image =>
      cases given : image.data with
      | none => simp [given]
      | some data => simp only [Option.bind_some, given, isBlankString_iff]; simp [given]

/-! ## The findings -/

namespace Finding

variable {convention : Convention}

/-- There is no error about a rule just if the rule is kept or its break is no error. -/
theorem clean_ensure {kept : Bool} {place : Place} {problem : Problem} :
    Clean convention (ensure kept place problem) ↔
      (isError convention ⟨place, problem⟩ = true → kept = true) := by
  cases kept <;> simp [Clean, ensure]

/-- Findings that are collected item by item are free of errors just if those of every item are. -/
theorem clean_mapIdx_iff {α : Type} {part : Nat → α → List Finding} {as : List α} :
    Clean convention (as.mapIdx part).flatten ↔
      ∀ i a, as[i]? = some a → Clean convention (part i a) := by
  refine ⟨fun clean i a member => clean_mapIdx clean member, fun clean finding member => ?_⟩
  obtain ⟨findings, listed, inside⟩ := List.mem_flatten.mp member
  obtain ⟨i, within, rfl⟩ := List.mem_mapIdx.mp listed
  exact clean i _ (List.getElem?_eq_getElem within) finding inside

theorem clean_flatMap {α : Type} {part : α → List Finding} {as : List α} :
    Clean convention (as.flatMap part) ↔ ∀ a ∈ as, Clean convention (part a) := by
  simp only [Clean, List.mem_flatMap]
  exact ⟨fun clean a member finding inside => clean finding ⟨a, member, inside⟩,
    fun clean finding ⟨a, member, inside⟩ => clean a member finding inside⟩

end Finding

open Finding (Clean clean_append clean_ensure clean_mapIdx_iff isError)

variable {convention : Convention}

/-- The rules find nothing in a component just if it is well formed. -/
theorem Component.clean_findings {place : String → Place} {c : Component} :
    Clean convention (c.findings place) ↔ c.WellFormed := by
  unfold findings
  cases type : c.type with
  | text =>
      simp only [clean_append, clean_ensure, isError, true_imp_iff, isIdentifier_iff,
        isBlankString_iff, Option.isNone_iff_eq_none]
      exact ⟨fun ⟨⟨id, transition⟩, text⟩ => ⟨id, transition, fun _ => text, by simp [type]⟩,
        fun well => ⟨⟨well.id, well.transition⟩, well.text type⟩⟩
  | image =>
      simp only [clean_append, clean_ensure, isError, true_imp_iff, isIdentifier_iff,
        isBlankString_iff, hasImageData_iff, Option.isNone_iff_eq_none]
      exact ⟨fun ⟨⟨id, transition⟩, image⟩ => ⟨id, transition, by simp [type], fun _ => image⟩,
        fun well => ⟨⟨well.id, well.transition⟩, well.image type⟩⟩

/-- The sizes that are given have a property just if every size has it, given or not. -/
theorem forall_filterMap_fields (p : String → Prop) (entries : List (String × Option String)) :
    (∀ given ∈ entries.filterMap fun (field, size) => size.map (field, ·), p given.2) ↔
      ∀ size ∈ entries.map Prod.snd, ∀ value ∈ size, p value := by
  induction entries with
  | nil => simp
  | cons entry entries ih =>
      obtain ⟨field, size⟩ := entry
      cases size <;> simp_all

/-- The sizes that are given are lengths just if every size that is there is one. -/
theorem Layout.forall_givenSizes (layout : Layout) :
    (∀ given ∈ layout.givenSizes, isCssLength given.2 = true) ↔
      ∀ size ∈ [layout.heightTop, layout.widthLeft, layout.heightBottom, layout.widthRight],
        ∀ value ∈ size, isCssLength value = true :=
  forall_filterMap_fields (isCssLength · = true) _

/-! ## Fresh identifiers -/

/-- What stands before a part and the part itself are the beginning of the whole. -/
theorem prefix_take_flatMap {α β : Type} (view : β → List α) {parts : List β} {i : Nat} {part : β}
    (member : parts[i]? = some part) :
    (parts.take i).flatMap view ++ view part <+: parts.flatMap view := by
  have next : parts.take (i + 1) = parts.take i ++ [part] := by
    rw [List.take_add_one, member]
    rfl
  have split := congrArg (List.flatMap view) (List.take_append_drop (i + 1) parts)
  rw [List.flatMap_append, next, List.flatMap_append, List.flatMap_singleton] at split
  exact ⟨_, split⟩

theorem prefix_take {α : Type} {as : List α} {i : Nat} {a : α} (member : as[i]? = some a) :
    as.take i ++ [a] <+: as := by
  simpa using prefix_take_flatMap (fun a => [a]) member

/-- Where no key is there twice, that of an item is not among the earlier ones. -/
theorem not_mem_of_concat {α β : Type} {view : α → β} {seen all : List α} {a : α}
    (unique : (all.map view).Nodup) (before : seen ++ [a] <+: all) : view a ∉ seen.map view := by
  have nodup := unique.sublist (before.map view).sublist
  rw [List.map_append, List.nodup_append_comm] at nodup
  exact (List.nodup_cons.mp nodup).1

/-- The identifiers of a page and of its components are not among those before them. -/
structure Page.Fresh (page : Page) (earlier : List Page) : Prop where
  id : page.id ∉ earlier.map Page.id
  components : ∀ j frame k c, page.frames[j]? = some frame → frame.components[k]? = some c →
    c.id ∉ (earlier.flatMap components ++ (page.frames.take j).flatMap Frame.components ++
      frame.components.take k).map Component.id

/-- A page of an article without repeated identifiers repeats none of the earlier pages. -/
theorem Article.fresh_of_nodup {article : Article}
    (pageIds : (article.pages.map Page.id).Nodup)
    (componentIds : (article.components.map Component.id).Nodup) {i : Nat} {page : Page}
    (member : article.pages[i]? = some page) : page.Fresh (article.pages.take i) := by
  refine ⟨not_mem_of_concat pageIds (prefix_take member), ?_⟩
  intro j frame k c inPage inFrame
  have pages := prefix_take_flatMap Page.components member
  have frames := prefix_take_flatMap Frame.components inPage
  apply not_mem_of_concat componentIds
  rw [List.append_assoc, List.append_assoc]
  refine ((List.prefix_append_right_inj _).mpr ?_).trans pages
  exact ((List.prefix_append_right_inj _).mpr (prefix_take inFrame)).trans frames

/-! ## The checks on articles -/

/-- The components of a page are those at a place in one of its frames. -/
theorem mem_components_iff {page : Page} {c : Component} :
    c ∈ page.components ↔
      ∃ (j : Nat) (frame : Frame) (k : Nat),
        page.frames[j]? = some frame ∧ frame.components[k]? = some c := by
  simp only [Page.components, List.mem_flatMap]
  constructor
  · rintro ⟨frame, inPage, inFrame⟩
    obtain ⟨j, at_j⟩ := List.mem_iff_getElem?.mp inPage
    obtain ⟨k, at_k⟩ := List.mem_iff_getElem?.mp inFrame
    exact ⟨j, frame, k, at_j, at_k⟩
  · rintro ⟨j, frame, k, at_j, at_k⟩
    exact ⟨frame, List.mem_of_getElem? at_j, List.mem_of_getElem? at_k⟩

/-- The rules find nothing in a page just if it is well formed and repeats no earlier identifier. -/
theorem Page.clean_findings {page : Page} {earlier : List Page} {i : Nat} :
    Clean convention (page.findings earlier i) ↔
      page.WellFormed convention ∧ page.Fresh earlier := by
  simp only [findings, ownFindings, frameFindings, componentFindings, clean_append, clean_ensure,
    Finding.clean_flatMap, clean_mapIdx_iff, Component.clean_findings, isError, true_imp_iff,
    decide_eq_true_eq, isIdentifier_iff, Bool.not_eq_true', List.contains_eq_mem,
    decide_eq_false_iff_not]
  constructor
  · rintro ⟨⟨⟨⟨id, step⟩, sizes⟩, fresh⟩, frames⟩
    refine ⟨⟨id, step, page.layout.forall_givenSizes.mp sizes, ?_, ?_, ?_⟩, fresh, ?_⟩
    · intro frame member
      obtain ⟨j, at_j⟩ := List.mem_iff_getElem?.mp member
      exact (frames j frame at_j).1
    · intro c member
      obtain ⟨j, frame, k, inPage, inFrame⟩ := mem_components_iff.mp member
      exact ((frames j frame inPage).2 k c inFrame).1.1
    · intro enforced c member
      obtain ⟨j, frame, k, inPage, inFrame⟩ := mem_components_iff.mp member
      exact ((frames j frame inPage).2 k c inFrame).2 enforced
    · intro j frame k c inPage inFrame
      exact ((frames j frame inPage).2 k c inFrame).1.2
  · rintro ⟨well, fresh⟩
    have sizes := page.layout.forall_givenSizes.mpr well.sizes
    refine ⟨⟨⟨⟨well.id, well.step⟩, sizes⟩, fresh.id⟩, fun j frame inPage => ?_⟩
    refine ⟨well.frames frame (List.mem_of_getElem? inPage), fun k c inFrame => ?_⟩
    have member := mem_components_iff.mpr ⟨j, frame, k, inPage, inFrame⟩
    exact ⟨⟨well.components c member, fresh.components j frame k c inPage inFrame⟩,
      fun enforced => well.convention enforced c member⟩

/-! ## Stamped articles -/

/-- The components of a stamped page are those of the page but for their membership. -/
theorem Page.of_mem_components_stampAt {page : Page} {i : Nat} {c : Component}
    (member : c ∈ (page.stampAt i).components) :
    ∃ origin ∈ page.components, ∃ membership, c = { origin with membership := membership } := by
  obtain ⟨frame, inPage, inFrame⟩ := List.mem_flatMap.mp member
  obtain ⟨j, within, rfl⟩ := List.mem_mapIdx.mp inPage
  obtain ⟨origin, inside, rfl⟩ := List.mem_map.mp inFrame
  exact ⟨origin, List.mem_flatMap.mpr ⟨_, List.getElem_mem within, inside⟩, _, rfl⟩

/-- Stamping a page keeps it well formed. -/
theorem Page.wellFormed_stampAt {page : Page} (well : page.WellFormed convention) (i : Nat) :
    (page.stampAt i).WellFormed convention := by
  refine ⟨well.id, well.step, well.sizes, ?_, ?_, ?_⟩
  · intro frame member
    obtain ⟨j, within, rfl⟩ := List.mem_mapIdx.mp member
    exact well.frames page.frames[j] (List.getElem_mem within)
  · intro c member
    obtain ⟨origin, inside, _, rfl⟩ := of_mem_components_stampAt member
    obtain ⟨id, transition, text, image⟩ := well.components origin inside
    exact ⟨id, transition, text, image⟩
  · intro enforced c member
    obtain ⟨origin, inside, _, rfl⟩ := of_mem_components_stampAt member
    exact well.convention enforced origin inside

/-! ## Accepted articles -/

namespace Article

variable {settings : ParseSettings} {article : Article}

/-- There is no first error just if no finding is an error. -/
theorem firstError?_eq_none_iff :
    article.firstError? settings = none ↔
      Clean settings.convention (article.findings settings.requirePages) := by
  simp only [firstError?, List.find?_eq_none, Bool.not_eq_true]
  rfl

/-- Validation finds no error in an article just if it is well formed. -/
theorem wellFormed_iff : article.firstError? settings = none ↔ article.WellFormed settings := by
  constructor
  · intro valid
    have pageIds := nodup_pageIds valid
    have componentIds := nodup_componentIds valid
    rw [firstError?_eq_none_iff] at valid
    simp only [findings, clean_append, clean_ensure, clean_mapIdx_iff, Page.clean_findings, isError,
      true_imp_iff, isIdentifier_iff] at valid
    obtain ⟨⟨id, some⟩, pages⟩ := valid
    refine ⟨id, ?_, fun page member => ?_, pageIds, componentIds⟩
    · intro required none
      simp [required, none] at some
    · obtain ⟨i, at_i⟩ := List.mem_iff_getElem?.mp member
      exact (pages i page at_i).1
  · intro well
    rw [firstError?_eq_none_iff]
    simp only [findings, clean_append, clean_ensure, clean_mapIdx_iff, Page.clean_findings, isError,
      true_imp_iff, isIdentifier_iff]
    refine ⟨⟨well.id, ?_⟩, fun i page member => ?_⟩
    · have := well.some
      cases required : settings.requirePages <;> simp_all
    · exact ⟨well.pages page (List.mem_of_getElem? member),
        fresh_of_nodup well.pageIds well.componentIds member⟩

/-- Stamping keeps an article well-formed, so what is accepted is well-formed too. -/
theorem wellFormed_of_accept {read : Except Json.Fault Article} {accepted : Article}
    (done : settings.accept read = .ok accepted) : accepted.WellFormed settings := by
  obtain ⟨article, _, valid, rfl⟩ := of_accept done
  have well := wellFormed_iff.mp valid
  refine ⟨well.id, ?_, ?_, ?_, ?_⟩
  · intro required none
    refine well.some required ?_
    simpa [stamp_eq] using none
  · intro page member
    obtain ⟨i, within, rfl⟩ := List.mem_mapIdx.mp member
    exact Page.wellFormed_stampAt (well.pages _ (List.getElem_mem within)) i
  · rw [pageIds_stamp]
    exact well.pageIds
  · have same := componentIds_stamp article
    unfold componentIds at same
    rw [same]
    exact well.componentIds

/-- **Validation accepts the well-formed articles.** An article is accepted just if it is
well-formed, and what is accepted is the article with its components stamped and nothing else
changed. -/
theorem validate_iff (settings : ParseSettings) (article : Article) :
    ((∃ accepted, article.validate settings = .ok accepted) ↔ article.WellFormed settings) ∧
      ∀ accepted, article.validate settings = .ok accepted ↔
        article.WellFormed settings ∧ accepted.StampOf article := by
  have exact (accepted : Article) : article.validate settings = .ok accepted ↔
      article.WellFormed settings ∧ accepted.StampOf article := by
    rw [← wellFormed_iff, stampOf_iff, validate]
    cases article.firstError? settings with
    | none => simp [eq_comm]
    | some finding => simp
  refine ⟨⟨?_, fun well => ⟨article.stamp, ?_⟩⟩, exact⟩
  · rintro ⟨accepted, done⟩
    exact ((exact accepted).mp done).1
  · exact (exact _).mpr ⟨well, stampOf_stamp article⟩

end Article

end ScrollStory
