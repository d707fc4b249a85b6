import Mathlib.Data.List.TakeWhile
import ScrollStory.Proofs.Article.Convention
import ScrollStory.Proofs.Article.Spots

/-!
# Warnings about the convention

Whether the convention on identifiers is ignored, warned about or enforced makes no other difference
to a validation: the findings are the same, in the order of the document, and only a component off
the convention is judged differently. The warnings are one for every such component that is reached
before the first error, and if they are errors the first of them decides
(`ScrollStory.Article.conventions_agree`).
-/

namespace ScrollStory

/-! ## The order of the document -/

/-- Places come one after the other as the first indices do in which their paths differ. -/
theorem lt_of_prefixes {path xs ys : List Nat} {a b : Nat} (less : a < b)
    (first : path ++ [a] <+: xs) (second : path ++ [b] <+: ys) : xs < ys := by
  obtain ⟨xs, rfl⟩ := first
  obtain ⟨ys, rfl⟩ := second
  induction path with
  | nil => exact List.cons_lt_cons_iff.mpr (.inl less)
  | cons c path ih => exact List.cons_lt_cons_iff.mpr (.inr ⟨rfl, ih⟩)

/-- What a place is in comes before the place. -/
theorem lt_of_prefix {path ys : List Nat} {b : Nat} (second : path ++ [b] <+: ys) : path < ys := by
  obtain ⟨ys, rfl⟩ := second
  induction path with
  | nil => exact List.nil_lt_cons b ys
  | cons c path ih => exact List.cons_lt_cons_iff.mpr (.inr ⟨rfl, ih⟩)

/-- The indices that lead to the part of an article with a place. They sort the parts in the order
of the document: a part comes before its own parts. -/
def Place.indices : Place → List Nat
  | article _ => []
  | page i _ => [i]
  | frame i j _ => [i, j]
  | component i j k _ => [i, j, k]

namespace Finding

/-- Whether a finding is about the convention. -/
def isOff (finding : Finding) : Bool := finding.warning?.isSome

/-- Findings about earlier parts come first, and of those about one part the convention comes
last. -/
def InOrder (earlier later : Finding) : Prop :=
  earlier.place.indices < later.place.indices ∨
    earlier.place.indices = later.place.indices ∧ (earlier.isOff = true → later.isOff = true)

/-- A part comes before the part with an error, if there is one. -/
def ComesFirst (indices : List Nat) (error? : Option Finding) : Prop :=
  ∀ error ∈ error?, indices < error.place.indices

instance (indices : List Nat) (error? : Option Finding) : Decidable (ComesFirst indices error?) :=
  inferInstanceAs (Decidable (∀ error ∈ error?, indices < error.place.indices))

/-- Some findings are in order, and all of them about a part or about parts of it. -/
structure Ordered (path : List Nat) (findings : List Finding) : Prop where
  pairwise : findings.Pairwise InOrder
  inside : ∀ finding ∈ findings, path <+: finding.place.indices

/-- Some findings are about one part and not about the convention. -/
def Own (path : List Nat) (findings : List Finding) : Prop :=
  ∀ finding ∈ findings, finding.place.indices = path ∧ finding.isOff = false

variable {path : List Nat} {findings others : List Finding}

theorem own_append : Own path (findings ++ others) ↔ Own path findings ∧ Own path others :=
  List.forall_mem_append

/-- A rule finds its problem just if it is not kept. -/
theorem mem_ensure {kept : Bool} {place : Place} {problem : Problem} {finding : Finding} :
    finding ∈ ensure kept place problem ↔ kept = false ∧ finding = ⟨place, problem⟩ := by
  cases kept <;> simp [ensure]

/-- A rule other than the convention finds a problem of the part's own. -/
theorem own_ensure {kept : Bool} {place : Place} {problem : Problem}
    (rule : isOff ⟨place, problem⟩ = false) : Own place.indices (ensure kept place problem) := by
  intro finding member
  obtain ⟨-, rfl⟩ := mem_ensure.mp member
  exact ⟨rfl, rule⟩

/-- Findings of a part's own are in order, as they are all at one place. -/
theorem Own.ordered (own : Own path findings) : Ordered path findings := by
  refine ⟨List.pairwise_of_forall_mem_list fun earlier first later second => .inr ⟨?_, ?_⟩, ?_⟩
  · rw [(own earlier first).1, (own later second).1]
  · rw [(own earlier first).2]
    exact fun off => absurd off Bool.false_ne_true
  · intro finding member
    exact (own finding member).1 ▸ List.prefix_rfl

theorem Own.filter_isOff (own : Own path findings) : findings.filter isOff = [] :=
  List.filter_eq_nil_iff.mpr fun finding member => by rw [(own finding member).2]; simp

/-- The findings about a part and then those about its parts, one after another. -/
theorem Own.ordered_parts {α : Type} {part : Nat → α → List Finding} (own : Own path findings)
    (parts : ∀ i a, Ordered (path ++ [i]) (part i a)) (as : List α) :
    Ordered path (findings ++ (as.mapIdx part).flatten) := by
  have within {finding : Finding} (member : finding ∈ (as.mapIdx part).flatten) :
      ∃ i, path ++ [i] <+: finding.place.indices := by
    obtain ⟨_, listed, inside⟩ := List.mem_flatten.mp member
    obtain ⟨i, _, rfl⟩ := List.mem_mapIdx.mp listed
    exact ⟨i, (parts i _).inside finding inside⟩
  constructor
  · refine List.pairwise_append.mpr ⟨own.ordered.pairwise, List.pairwise_flatten.mpr ⟨?_, ?_⟩, ?_⟩
    · intro list listed
      obtain ⟨i, _, rfl⟩ := List.mem_mapIdx.mp listed
      exact (parts i _).pairwise
    · rw [List.mapIdx_eq_zipIdx_map, List.pairwise_map]
      exact (pairwise_zipIdx as).imp fun less x first y second =>
        .inl (lt_of_prefixes less ((parts _ _).inside x first) ((parts _ _).inside y second))
    · intro x first y second
      obtain ⟨i, second⟩ := within second
      exact .inl ((own x first).1 ▸ lt_of_prefix second)
  · intro finding member
    rcases List.mem_append.mp member with member | member
    · exact own.ordered.inside finding member
    · obtain ⟨i, inside⟩ := within member
      exact (List.prefix_append path [i]).trans inside

/-- Of the findings about a part and its parts, those about the convention are in its parts. -/
theorem Own.filter_isOff_parts {α : Type} {part : Nat → α → List Finding}
    (own : Own path findings) (as : List α) :
    (findings ++ (as.mapIdx part).flatten).filter isOff =
      as.zipIdx.flatMap fun item => (part item.2 item.1).filter isOff := by
  rw [List.filter_append, own.filter_isOff, List.nil_append, List.mapIdx_eq_zipIdx_map,
    List.filter_flatten, List.map_map, List.flatMap_def]
  rfl

end Finding

open Finding (Own Ordered own_append own_ensure isOff)

/-! ## The findings of an article -/

/-- What the rules for components find is the component's own. -/
theorem Component.own_findings (c : Component) (i j k : Nat) :
    Own [i, j, k] (c.findings (.component i j k)) := by
  unfold findings
  refine own_append.mpr ⟨own_append.mpr ⟨own_ensure rfl, own_ensure rfl⟩, ?_⟩
  cases c.type with
  | text => exact own_append.mpr ⟨own_ensure rfl, own_ensure rfl⟩
  | image => exact own_append.mpr ⟨own_ensure rfl, own_ensure rfl⟩

namespace Page

variable (page : Page) (i j k : Nat)

/-- What is found of a component apart from the convention is the component's own. -/
theorem own_componentRules (earlier : List Component) (c : Component) :
    Own [i, j, k] (c.findings (.component i j k) ++
      Finding.ensure (!(earlier.map Component.id).contains c.id) (.component i j k "id")
        (.duplicateComponent c.id)) :=
  own_append.mpr ⟨c.own_findings i j k, own_ensure rfl⟩

/-- The findings in a component are in order: those of its own, then that of the convention. -/
theorem ordered_componentFindings (earlier : List Component) (c : Component) :
    Ordered [i, j, k] (page.componentFindings earlier i j k c) := by
  have own := own_componentRules i j k earlier c
  have off : ∀ finding ∈ page.conventionFindings i j k c,
      finding = ⟨.component i j k "id", .offConvention c.id page.id⟩ :=
    fun finding member => (Finding.mem_ensure.mp member).2
  rw [componentFindings_eq]
  constructor
  · refine List.pairwise_append.mpr ⟨own.ordered.pairwise, ?_, ?_⟩
    · refine List.pairwise_of_forall_mem_list fun x first y second => .inr ?_
      rw [off x first, off y second]
      exact ⟨rfl, fun off => off⟩
    · intro x first y second
      rw [off y second]
      exact .inr ⟨(own x first).1, fun _ => rfl⟩
  · intro finding member
    rcases List.mem_append.mp member with member | member
    · exact own.ordered.inside finding member
    · rw [off finding member]
      exact List.prefix_rfl

theorem own_frameRules (frame : Frame) :
    Own [i, j] (Finding.ensure (isIdentifier frame.id) (.frame i j "id")
      (.badIdentifier frame.id)) :=
  own_ensure rfl

/-- The findings in a frame are in the order of the document. -/
theorem ordered_frameFindings (earlier : List Component) (frame : Frame) :
    Ordered [i, j] (page.frameFindings earlier i j frame) :=
  (own_frameRules i j frame).ordered_parts
    (fun k c => page.ordered_componentFindings i j k (earlier ++ frame.components.take k) c) _

/-- What the rules for pages find is the page's own. -/
theorem own_pageRules (earlier : List Page) :
    Own [i] (page.ownFindings i ++
      Finding.ensure (!(earlier.map Page.id).contains page.id) (.page i "id")
        (.duplicatePage page.id)) := by
  refine own_append.mpr ⟨own_append.mpr ⟨own_append.mpr ⟨own_ensure rfl, own_ensure rfl⟩, ?_⟩,
    own_ensure rfl⟩
  intro finding member
  obtain ⟨⟨field, size⟩, _, inside⟩ := List.mem_flatMap.mp member
  exact own_ensure rfl finding inside

theorem ordered_findings (earlier : List Page) : Ordered [i] (page.findings earlier i) :=
  (page.own_pageRules i earlier).ordered_parts
    (fun j frame => page.ordered_frameFindings i j _ frame) _

end Page

namespace Article

/-- What the rules for articles find is the article's own. -/
theorem own_articleRules (article : Article) (requirePages : Bool) :
    Own [] (Finding.ensure (isIdentifier article.id) (.article "articleId")
        (.badIdentifier article.id) ++
      Finding.ensure (!(requirePages && article.pages.isEmpty)) (.article "pages") .noPages) :=
  own_append.mpr ⟨own_ensure rfl, own_ensure rfl⟩

/-- Findings come in the order of the document. -/
theorem ordered_findings (article : Article) (requirePages : Bool) :
    Ordered [] (article.findings requirePages) :=
  (article.own_articleRules requirePages).ordered_parts
    (fun i page => page.ordered_findings i (article.pages.take i)) _

end Article

/-! ## Components off the convention -/

/-- A component of an article with its page and the way to it. -/
structure ArticleSpot extends Spot where
  /-- The index of the page. -/
  i : Nat
  page : Page

namespace ArticleSpot

/-- The indices of a spot lead to its page and on it to its component. -/
structure InArticle (spot : ArticleSpot) (article : Article) : Prop where
  page : article.pages[spot.i]? = some spot.page
  onPage : spot.OnPage spot.page

/-- The indices that lead to the component in the article. -/
def indices (spot : ArticleSpot) : List Nat := [spot.i, spot.j, spot.k]

/-- One spot comes before another one in the document. -/
def Before (earlier later : ArticleSpot) : Prop := earlier.indices < later.indices

/-- Whether the identifier of the component does not follow the convention on its page. -/
def isOff (spot : ArticleSpot) : Bool := !followsConvention spot.page.id spot.component.id

/-- The finding about a component off the convention. -/
def finding (spot : ArticleSpot) : Finding :=
  ⟨.component spot.i spot.j spot.k "id", .offConvention spot.component.id spot.page.id⟩

/-- The warning about a component off the convention. -/
def note (spot : ArticleSpot) : Note := .offConvention spot.component.id spot.page.id

/-- A component is reached before the first error if the part with the error comes behind it in the
document. In its own part every other rule comes before the convention. -/
def Reached (spot : ArticleSpot) (error? : Option Finding) : Prop :=
  Finding.ComesFirst spot.indices error?

instance (spot : ArticleSpot) (error? : Option Finding) : Decidable (spot.Reached error?) :=
  inferInstanceAs (Decidable (Finding.ComesFirst _ error?))

end ArticleSpot

namespace Page

variable (page : Page) (i j k : Nat)

/-- Of the findings in a component, only that of the convention is about the convention. -/
theorem filter_isOff_componentFindings (earlier : List Component) (c : Component) :
    (page.componentFindings earlier i j k c).filter isOff = page.conventionFindings i j k c := by
  have own := own_componentRules i j k earlier c
  have off : (page.conventionFindings i j k c).filter isOff = page.conventionFindings i j k c := by
    refine List.filter_eq_self.mpr fun finding member => ?_
    rw [(Finding.mem_ensure.mp member).2]
    rfl
  rw [componentFindings_eq, List.filter_append, own.filter_isOff, off, List.nil_append]

/-- The findings about the convention in a frame are those of its components, in their order. -/
theorem filter_isOff_frameFindings (earlier : List Component) (frame : Frame) :
    (page.frameFindings earlier i j frame).filter isOff =
      frame.components.zipIdx.flatMap fun item => page.conventionFindings i j item.2 item.1 := by
  rw [frameFindings, (own_frameRules i j frame).filter_isOff_parts]
  simp only [filter_isOff_componentFindings]

/-- The findings about the convention in a page are those of its spots, in their order. -/
theorem filter_isOff_findings (earlier : List Page) :
    (page.findings earlier i).filter isOff =
      page.spots.flatMap fun spot => page.conventionFindings i spot.j spot.k spot.component := by
  rw [findings, (page.own_pageRules i earlier).filter_isOff_parts]
  simp only [filter_isOff_frameFindings, spots, List.flatMap_assoc, List.flatMap_map]

end Page

namespace Article

/-- The components of an article with their pages, in the order of the document. -/
def spots (article : Article) : List ArticleSpot :=
  article.pages.zipIdx.flatMap fun (page, i) => page.spots.map fun spot => ⟨spot, i, page⟩

/-- The spots of an article are just those at which one of its components stands. -/
theorem mem_spots {article : Article} {spot : ArticleSpot} :
    spot ∈ article.spots ↔ spot.InArticle article := by
  simp only [spots, List.mem_flatMap, List.mem_map, Prod.exists, List.mem_zipIdx_iff_getElem?,
    Page.mem_spots]
  constructor
  · rintro ⟨page, i, inArticle, spot, onPage, rfl⟩
    exact ⟨inArticle, onPage⟩
  · rintro ⟨inArticle, onPage⟩
    exact ⟨_, _, inArticle, _, onPage, rfl⟩

/-- The spots of an article are listed in the order of the document. -/
theorem pairwise_spots (article : Article) : article.spots.Pairwise ArticleSpot.Before := by
  refine List.pairwise_flatMap.mpr ⟨fun (page, i) _ => ?_, ?_⟩
  · refine List.pairwise_map.mpr (page.pairwise_spots.imp fun before => ?_)
    refine List.cons_lt_cons_iff.mpr (.inr ⟨rfl, List.cons_lt_cons_iff.mpr ?_⟩)
    exact before.imp_right fun ⟨frame, earlier⟩ =>
      ⟨frame, List.cons_lt_cons_iff.mpr (.inl earlier)⟩
  · refine (pairwise_zipIdx article.pages).imp fun earlier spot member later member' => ?_
    obtain ⟨_, _, rfl⟩ := List.mem_map.mp member
    obtain ⟨_, _, rfl⟩ := List.mem_map.mp member'
    exact List.cons_lt_cons_iff.mpr (.inl earlier)

/-- The components off the convention that are reached before the first error. -/
def warned (article : Article) (requirePages : Bool) : List ArticleSpot :=
  article.spots.filter fun spot =>
    spot.isOff && spot.Reached (article.firstError? ⟨.warn, requirePages⟩)

/-- The warnings that a validation logs. -/
def logged (article : Article) (settings : ParseSettings) : List Note :=
  (article.validateNotes settings).filter (·.level = .warn)

/-- A validation warns about some components, one after another: those off the convention that are
reached before the first error. -/
structure WarnsAbout (article : Article) (requirePages : Bool) (warned : List ArticleSpot) :
    Prop where
  ordered : warned.Pairwise ArticleSpot.Before
  reached : ∀ spot, spot ∈ warned ↔ spot.InArticle article ∧
    followsConvention spot.page.id spot.component.id = false ∧
      spot.Reached (article.firstError? ⟨.warn, requirePages⟩)
  logged : article.logged ⟨.warn, requirePages⟩ = warned.map ArticleSpot.note

/-- The findings about the convention in an article are those of the spots that do not follow it, in
the order of the document. -/
theorem filter_isOff_findings (article : Article) (requirePages : Bool) :
    (article.findings requirePages).filter isOff =
      (article.spots.filter ArticleSpot.isOff).map ArticleSpot.finding := by
  have each (spots : List ArticleSpot) :
      (spots.flatMap fun spot =>
        spot.page.conventionFindings spot.i spot.j spot.k spot.component) =
          (spots.filter ArticleSpot.isOff).map ArticleSpot.finding := by
    induction spots with
    | nil => rfl
    | cons spot spots ih =>
        rw [List.flatMap_cons, ih, List.filter_cons, Page.conventionFindings, ArticleSpot.isOff]
        cases followsConvention spot.page.id spot.component.id <;> rfl
  rw [← each, findings, (article.own_articleRules requirePages).filter_isOff_parts]
  simp only [Page.filter_isOff_findings, spots, List.flatMap_assoc, List.flatMap_map]

end Article

/-! ## The first error -/

namespace Finding

/-- Unless the convention is enforced, just the findings about other rules are errors. -/
theorem isError_of_lenient {convention : Convention} (lenient : convention ≠ .enforce) :
    isError convention = fun finding => !finding.isOff := by
  funext ⟨place, problem⟩
  cases problem <;> simp [isError, isOff, warning?, lenient]

/-- Every finding is an error if the convention is enforced. -/
theorem isError_enforce (finding : Finding) : isError .enforce finding = true := by
  obtain ⟨place, problem⟩ := finding
  cases problem <;> rfl

/-- Of findings in order, those about the convention that come before the first other one are about
earlier parts. -/
theorem takeWhile_isOff {findings : List Finding} (ordered : findings.Pairwise InOrder) :
    findings.takeWhile isOff = (findings.filter isOff).filter fun finding =>
      ComesFirst finding.place.indices (findings.find? (!·.isOff)) := by
  cases found : findings.find? (!·.isOff) with
  | none =>
      have off : ∀ finding ∈ findings, finding.isOff = true := by
        simpa using List.find?_eq_none.mp found
      rw [List.filter_eq_self.mpr off, List.takeWhile_eq_self_iff.mpr off]
      exact (List.filter_eq_self.mpr (by simp [ComesFirst])).symm
  | some error =>
      obtain ⟨rule, before, after, rfl, off⟩ := List.find?_eq_some_iff_append.mp found
      obtain ⟨-, behind, across⟩ := List.pairwise_append.mp ordered
      have off : ∀ finding ∈ before, finding.isOff = true := by simpa using off
      have rule : error.isOff = false := by simpa using rule
      -- In one part, what breaks the convention is found last, so it is not before the error.
      have first (finding : Finding) (member : finding ∈ before) :
          finding.place.indices < error.place.indices := by
        rcases across finding member error List.mem_cons_self with earlier | ⟨_, last⟩
        · exact earlier
        · rw [rule] at last
          exact absurd (last (off finding member)) Bool.false_ne_true
      have second (finding : Finding) (member : finding ∈ after) :
          ¬finding.place.indices < error.place.indices := by
        rcases (List.pairwise_cons.mp behind).1 finding member with later | ⟨same, _⟩
        · exact List.lt_asymm later
        · rw [same]
          exact List.lt_irrefl _
      have kept : before.filter (fun finding =>
          ComesFirst finding.place.indices (some error)) = before :=
        List.filter_eq_self.mpr fun finding member => by
          simpa [ComesFirst] using first finding member
      have dropped : (after.filter isOff).filter (fun finding =>
          ComesFirst finding.place.indices (some error)) = [] :=
        List.filter_eq_nil_iff.mpr fun finding member => by
          simpa [ComesFirst] using second finding (List.mem_filter.mp member).1
      rw [List.takeWhile_append_of_pos off, List.takeWhile_cons_of_neg (by simp [rule]),
        List.filter_append, List.filter_cons_of_neg (by simp [rule]), List.filter_append,
        List.filter_eq_self.mpr off, kept, dropped]

end Finding

namespace Article

variable (article : Article) (requirePages : Bool)

/-- Unless the convention is enforced, the first error is the first finding about another rule. -/
theorem firstError?_lenient {convention : Convention} (lenient : convention ≠ .enforce) :
    article.firstError? ⟨convention, requirePages⟩ =
      (article.findings requirePages).find? (!·.isOff) := by
  rw [firstError?, Finding.isError_of_lenient lenient]

/-- The findings before the first error are those about the components to warn about. -/
theorem takeWhile_isOff_findings :
    (article.findings requirePages).takeWhile isOff =
      (article.warned requirePages).map ArticleSpot.finding := by
  rw [Finding.takeWhile_isOff (article.ordered_findings requirePages).pairwise,
    filter_isOff_findings, List.filter_map, List.filter_filter, warned,
    firstError?_lenient article requirePages (by decide)]
  congr 1
  exact List.filter_congr fun spot _ => Bool.and_comm _ _

/-- The warnings are about the spots before the first error that do not follow the convention. -/
theorem warnings_eq :
    article.warnings ⟨.warn, requirePages⟩ =
      (article.warned requirePages).map ArticleSpot.note := by
  have lenient : (fun finding : Finding => !finding.isError .warn) = isOff := by
    rw [Finding.isError_of_lenient (by decide)]
    simp
  have warns : ParseSettings.convention ⟨.warn, requirePages⟩ ≠ .ignore := nofun
  rw [warnings, if_neg warns, lenient, takeWhile_isOff_findings, List.filterMap_map]
  exact congrFun List.filterMap_eq_map _

/-- What is logged are the notes on the spots that are warned about, in the order of the document.
-/
theorem logged_eq :
    article.logged ⟨.warn, requirePages⟩ =
      (article.warned requirePages).map ArticleSpot.note := by
  have kept : ((article.warned requirePages).map ArticleSpot.note).filter (·.level = .warn) =
      (article.warned requirePages).map ArticleSpot.note := by
    refine List.filter_eq_self.mpr fun note member => ?_
    obtain ⟨spot, _, rfl⟩ := List.mem_map.mp member
    rfl
  rw [logged, validateNotes, List.filter_append, warnings_eq, kept]
  split <;> exact List.append_nil _

/-- The spots that are warned about are those before the first error that do not follow the
convention. -/
theorem warnsAbout_warned : article.WarnsAbout requirePages (article.warned requirePages) := by
  refine ⟨article.pairwise_spots.filter _, fun spot => ?_, article.logged_eq requirePages⟩
  rw [warned, List.mem_filter, mem_spots, Bool.and_eq_true, ArticleSpot.isOff, Bool.not_eq_true',
    decide_eq_true_eq]

/-- If breaks of the convention are errors, the first component to warn about has the first one. -/
theorem validate_enforce :
    article.validate ⟨.enforce, requirePages⟩ =
      match article.warned requirePages with
      | [] => article.validate ⟨.warn, requirePages⟩
      | spot :: _ => .error spot.finding.error := by
  have off := takeWhile_isOff_findings article requirePages
  have strict : article.firstError? ⟨.enforce, requirePages⟩ =
      (article.findings requirePages).head? := by
    rw [firstError?, funext Finding.isError_enforce]
    cases article.findings requirePages <;> rfl
  have lenient : article.firstError? ⟨.warn, requirePages⟩ =
      (article.findings requirePages).find? (!·.isOff) :=
    article.firstError?_lenient requirePages (by decide)
  cases findings : article.findings requirePages with
  | nil =>
      rw [findings] at off strict lenient
      rw [List.map_eq_nil_iff.mp off.symm, validate, validate, strict, lenient]
      rfl
  | cons finding findings' =>
      rw [findings] at off strict lenient
      cases rule : finding.isOff with
      | true =>
          rw [List.takeWhile_cons_of_pos rule] at off
          obtain ⟨spot, _, warned, rfl, -⟩ := List.map_eq_cons_iff.mp off.symm
          rw [warned, validate, strict]
          rfl
      | false =>
          rw [List.takeWhile_cons_of_neg (by simp [rule])] at off
          rw [List.find?_cons_of_pos (by simp [rule])] at lenient
          rw [List.map_eq_nil_iff.mp off.symm, validate, validate, strict, lenient]
          rfl

/-- Ignoring the convention and warning about it make no difference to what is accepted. -/
theorem validate_ignore :
    article.validate ⟨.ignore, requirePages⟩ = article.validate ⟨.warn, requirePages⟩ := by
  have ignored := article.firstError?_lenient requirePages (show Convention.ignore ≠ _ by decide)
  have warned := article.firstError?_lenient requirePages (show Convention.warn ≠ _ by decide)
  rw [validate, validate, ignored, warned]

/-- **The ways to treat the convention agree.** It makes no difference to the result whether the
convention is ignored or warned about. The warnings are one for every component off the convention
that is reached before the first error, in the order of the document. If the convention is enforced,
an article is accepted if it is accepted without a warning; the first component to warn about is
then the error, at its identifier, and without one the result stays what it is. -/
theorem conventions_agree :
    article.validate ⟨.ignore, requirePages⟩ = article.validate ⟨.warn, requirePages⟩ ∧
    ((∃ accepted, article.validate ⟨.enforce, requirePages⟩ = .ok accepted) ↔
      (∃ accepted, article.validate ⟨.warn, requirePages⟩ = .ok accepted) ∧
        article.logged ⟨.warn, requirePages⟩ = []) ∧
    ∃ warned, article.WarnsAbout requirePages warned ∧
      article.validate ⟨.enforce, requirePages⟩ =
        match warned with
        | [] => article.validate ⟨.warn, requirePages⟩
        | spot :: _ => .error (.schema (Place.component spot.i spot.j spot.k "id").path
            (Problem.offConvention spot.component.id spot.page.id).message) := by
  have enforced := article.validate_enforce requirePages
  refine ⟨article.validate_ignore requirePages, ?_, _, article.warnsAbout_warned requirePages,
    enforced⟩
  rw [logged_eq, List.map_eq_nil_iff, enforced]
  cases article.warned requirePages with
  | nil => exact (and_iff_left rfl).symm
  | cons spot spots => exact ⟨nofun, nofun⟩

end Article

end ScrollStory
