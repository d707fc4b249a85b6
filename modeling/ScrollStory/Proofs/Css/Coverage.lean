import ScrollStory.Proofs.Artifact.Stages
import ScrollStory.Proofs.Css.Selectors
import ScrollStory.Proofs.Html.Classes
import ScrollStory.Proofs.Plan.Elements

/-!
# Stylesheets and documents cover the same slots

The rules of the pages of an accepted article are calm, as sizes are the only values that are copied
into them, so their text is read as just these rules. They have a rule for the components in a slot
just if the document has an element around the slot, and the elements of the components carry the
class that the rule is about (`ScrollStory.Article.rules_cover_slots`).
-/

namespace ScrollStory

open CssLength (isSpace mem_strip mem_written)

open Css (Calm CalmAll FlatRule Rule Selector readRules?)

open Html (Mark Node ReadsAs)

namespace Css

/-! ## Calm declarations -/

/-- A text that is accepted as a size has no marks. -/
theorem calm_of_isCssLength {s : String} (accepted : isCssLength s = true) : Calm s := by
  have apart : ∀ mark ∈ marks, Text.isBlank mark = false ∧ Text.isDecimalDigit mark = false ∧
      mark ∉ '0' :: '.' :: CssLength.units.flatten :=
    forall_mem_of_all (by decide)
  intro mark listed member
  obtain ⟨blank, digit, other⟩ := apart mark listed
  have written := (CssLength.isCssLength_iff s).mp accepted
  rcases mem_strip (p := Text.isBlank) member with space | inside
  · rw [blank] at space
    cases space
  · rcases mem_written written inside with numeral | character
    · rw [digit] at numeral
      cases numeral
    · exact other character

theorem calm_columnComponent (c : Component) (pinnable : Bool) :
    CalmAll (columnComponent c pinnable) := by
  unfold columnComponent
  split <;> cases pinnable <;> decide

theorem calm_rowComponent (c : Component) (slot : Slot) (pinnable : Bool) :
    CalmAll (rowComponent c slot pinnable) := by
  unfold rowComponent
  split
  · cases pinnable <;> decide
  · cases pinnable <;> cases slot <;> decide

/-- The declarations for the component of a single slot are calm. -/
theorem calm_onlySlotRules (pageId : String) (slot : Slot) (c : Component) (pinnable : Bool) :
    ∀ rule ∈ onlySlotRules pageId slot c pinnable, CalmAll rule.declarations := by
  unfold onlySlotRules
  dsimp only
  split
  · simp only [List.forall_mem_singleton]
    decide
  · split
    all_goals
      simp only [List.forall_mem_cons]
      decide

/-- A calm text stays calm without the white space around it. -/
theorem calm_bare {s : String} (calm : Calm s) : Calm (bare s.toList) := by
  intro mark listed member
  rw [bare, String.toList_ofList] at member
  have stripped := (List.dropWhile_sublist isSpace).subset (List.mem_reverse.mp member)
  exact calm mark listed ((List.dropWhile_sublist isSpace).subset (List.mem_reverse.mp stripped))

/-- The declarations of a calm rule are calm as they are read. -/
theorem Rule.IsCalm.flat {rule : Rule} (calm : rule.IsCalm) : CalmAll rule.flat.declarations := by
  intro read member
  obtain ⟨declaration, listed, rfl⟩ := List.mem_map.mp member
  obtain ⟨property, value⟩ := calm.declarations declaration listed
  exact ⟨calm_bare property, calm_bare value⟩

end Css

namespace Page

variable {page : Page} {convention : Convention}

/-- The sizes of a well-formed page bring no marks into the rules of its layout. -/
theorem calm_layoutRules (well : page.WellFormed convention) {rules : List Rule}
    (known : Css.layoutRules? page = some rules) : ∀ rule ∈ rules, CalmAll rule.declarations := by
  obtain ⟨left, right, top, bottom⟩ := well.copied_sizes
  have left := Css.calm_of_isCssLength left
  have right := Css.calm_of_isCssLength right
  have top := Css.calm_of_isCssLength top
  have bottom := Css.calm_of_isCssLength bottom
  unfold Css.layoutRules? at known
  split at known
  · cases known
    simp only [List.forall_mem_cons]
    refine ⟨by decide, ?_, ?_, List.forall_mem_nil _⟩
    all_goals simp +decide [Css.columnRule, CalmAll, left, right]
  · cases known
    simp only [List.forall_mem_cons]
    refine ⟨by decide, ?_, ?_, List.forall_mem_nil _⟩
    all_goals simp +decide [CalmAll, top, bottom]
  · cases known
    simp only [List.forall_mem_cons]
    exact ⟨by decide, by decide, List.forall_mem_nil _⟩
  · cases known

/-- The rules of a well-formed page are calm. -/
theorem calm_placedRules (well : page.WellFormed convention) :
    ∀ rule ∈ page.placedRules, rule.IsCalm := by
  intro rule member
  refine ⟨Selector.calm_text well.id (pageId?_placedRules member), ?_⟩
  cases known : page.layout.template.slots? with
  | none =>
      rw [placedRules_eq_nil known] at member
      cases member
  | some slots =>
      obtain ⟨layout, given, _, rules⟩ := placedRules_eq_append known
      rw [rules] at member
      rcases List.mem_append.mp member with inLayout | inGroup
      · exact calm_layoutRules well given rule inLayout
      · obtain ⟨group, _, inside⟩ := List.mem_flatMap.mp inGroup
        exact Css.forall_groupRules Css.calm_columnComponent Css.calm_rowComponent
          Css.calm_onlySlotRules page group rule inside

/-! ## The text of a page's rules -/

/-- The part of the stylesheet for a page whose components are placed. -/
def placedCss (page : Page) : String :=
  if page.placedRules.isEmpty then "" else Css.rulesText page.placedRules ++ "\n"

theorem css_of_placed (placed : page.Placed) : page.css = .ok page.placedCss := by
  rw [css, rules_of_placed placed]
  rfl

/-- The rules of a page as they are read. -/
def flatRules (page : Page) : List FlatRule := page.placedRules.map Rule.flat

/-- The text for a well-formed page is read as the rules of the page. -/
theorem reads_placedCss (well : page.WellFormed convention) :
    Css.Reads page.placedCss.toList page.flatRules := by
  unfold placedCss flatRules
  split
  · rename_i none
    rw [List.isEmpty_iff.mp none]
    exact .blank (List.forall_mem_nil _)
  · have line : ∀ c ∈ "\n".toList, isSpace c = true := List.forall_mem_singleton.mpr rfl
    rw [String.toList_append, ← List.append_nil (page.placedRules.map Rule.flat)]
    exact (Css.reads_rulesText (calm_placedRules well)).append (.blank line)

end Page

/-! ## Rules by their selectors -/

namespace Css

/-- Rules are counted by the texts of their selectors if these have no white space around them. -/
theorem countP_flat {rules : List Rule} {selector : Selector}
    (bares : ∀ rule ∈ rules, bare rule.selector.text.toList = rule.selector.text)
    (told : ∀ rule ∈ rules, rule.selector.text = selector.text ↔ rule.selector = selector) :
    (rules.map Rule.flat).countP (·.selector = selector.text) =
      (rules.map Rule.selector).count selector := by
  rw [List.count, List.countP_map, List.countP_map]
  refine List.countP_congr fun rule member => ?_
  simp [Rule.flat, bares rule member, told rule member]

end Css

namespace Page

variable {page : Page} {convention : Convention} {slots : List Slot}

theorem text_wrapper (page : Page) (slot : Slot) :
    "#" ++ page.slotDomId slot = (Selector.wrapper page.id slot).text := by
  have hash : "#page-" = "#" ++ "page-" := by decide
  simp only [slotDomId, domId, Selector.text, hash, String.append_assoc]

theorem text_components (page : Page) (slot : Slot) :
    "." ++ page.slotClass slot = (Selector.components page.id slot).text := by
  have dot : ".page-" = "." ++ "page-" := by decide
  simp only [slotClass, slotDomId, domId, Selector.text, dot, String.append_assoc]

/-- No white space stands around the selectors of a well-formed page. -/
theorem bare_placedRules (well : page.WellFormed convention) :
    ∀ rule ∈ page.placedRules, Css.bare rule.selector.text.toList = rule.selector.text :=
  fun _ member => Selector.bare_text well.id (pageId?_placedRules member)

/-- Among the rules of a page there is one for the element around each slot of its template. -/
theorem countP_wrapper (well : page.WellFormed convention)
    (known : page.layout.template.slots? = some slots) (slot : Slot) :
    page.flatRules.countP (·.selector = "#" ++ page.slotDomId slot) =
      if slot ∈ slots then 1 else 0 := by
  rw [text_wrapper, flatRules, Css.countP_flat (bare_placedRules well), count_wrapper known]
  exact fun rule member => Selector.text_eq_wrapper (pageId?_placedRules member)

/-- Of the identifiers of a page, those of elements around slots are of slots that are occupied. -/
theorem slotDomId_mem_iff {slot : Slot} :
    page.slotDomId slot ∈ page.domIds ↔ slot ∈ page.groups.map Group.slot := by
  have page_ne : page.slotDomId slot ≠ page.domId :=
    fun same => ne_slotName page.id slot (domId_eq_slotDomId.mp same.symm)
  have component_ne : page.slotDomId slot ∉ page.componentDomIds := by
    intro member
    obtain ⟨entry, _, same⟩ := List.mem_map.mp member
    rw [slotDomId_eq] at same
    exact entry.component.domId_ne _ same
  have injective : Function.Injective page.slotDomId := fun _ _ same => (slotDomId_inj same).2
  rw [page.perm_domIds.mem_iff, List.mem_cons, List.mem_append,
    ← List.mem_map_of_injective injective, List.map_map]
  constructor
  · intro member
    exact (member.resolve_left page_ne).resolve_right component_ne
  · exact fun listed => .inr (.inl listed)

end Page

namespace Article

variable {settings : ParseSettings} {article : Article}

/-- The selectors of a page are counted in those of all pages, as no other page has its identifier.
-/
theorem count_of_pageId? (unique : (article.pages.map Page.id).Nodup) {page : Page}
    (inside : page ∈ article.pages) {selector : Selector}
    (own : selector.pageId? = some page.id) :
    (article.pages.flatMap fun other => other.placedRules.map Rule.selector).count selector =
      (page.placedRules.map Rule.selector).count selector := by
  have keyed : ∀ other ∈ article.pages, ∀ selector ∈ other.placedRules.map Rule.selector,
      selector.pageId? = some other.id := by
    intro other _ selector listed
    obtain ⟨rule, member, rfl⟩ := List.mem_map.mp listed
    exact Page.pageId?_placedRules member
  have distinct : (article.pages.map fun page => some page.id).Nodup := by
    rw [← Function.comp_def, ← List.map_map]
    exact unique.map fun _ _ => Option.some.inj
  rw [← filter_flatMap_key Selector.pageId? keyed distinct inside]
  refine (List.count_filter ?_).symm
  exact decide_eq_true own

/-- The rules of all pages have one for the components in a slot just if there is an element around
the slot. -/
theorem countP_components (well : article.WellFormed settings) {page : Page}
    (inside : page ∈ article.pages) {slots : List Slot}
    (known : page.layout.template.slots? = some slots) (slot : Slot) :
    (article.pages.flatMap Page.flatRules).countP (·.selector = "." ++ page.slotClass slot) =
      if page.slotDomId slot ∈ page.domIds then 1 else 0 := by
  have rules : article.pages.flatMap Page.flatRules =
      (article.pages.flatMap Page.placedRules).map Rule.flat := by
    rw [List.map_flatMap]
    rfl
  have bares : ∀ rule ∈ article.pages.flatMap Page.placedRules,
      Css.bare rule.selector.text.toList = rule.selector.text := by
    intro rule member
    obtain ⟨other, listed, member⟩ := List.mem_flatMap.mp member
    exact Page.bare_placedRules (well.pages other listed) rule member
  have told : ∀ rule ∈ article.pages.flatMap Page.placedRules,
      rule.selector.text = (Selector.components page.id slot).text ↔
        rule.selector = .components page.id slot := by
    intro rule member
    obtain ⟨other, _, member⟩ := List.mem_flatMap.mp member
    exact Selector.text_eq_components (Page.pageId?_placedRules member)
  have counted := count_of_pageId? well.pageIds inside
    (show (Selector.components page.id slot).pageId? = some page.id from rfl)
  rw [rules, Page.text_components, Css.countP_flat bares told, List.map_flatMap, counted,
    Page.count_components known]
  simp only [Page.slotDomId_mem_iff]

/-- The rules of a well-formed article are calm as they are read. -/
theorem calm_flatRules (well : article.WellFormed settings) :
    ∀ rule ∈ article.pages.flatMap Page.flatRules, CalmAll rule.declarations := by
  intro read member
  obtain ⟨page, inside, inPage⟩ := List.mem_flatMap.mp member
  obtain ⟨rule, listed, rfl⟩ := List.mem_map.mp inPage
  exact (Page.calm_placedRules (well.pages page inside) rule listed).flat

/-- The text for the pages of a well-formed article is read as the rules of all pages. -/
theorem reads_pages (well : article.WellFormed settings) :
    Css.Reads (String.join (article.pages.map Page.placedCss)).toList
      (article.pages.flatMap Page.flatRules) :=
  .join fun page inside => Page.reads_placedCss (well.pages page inside)

theorem pagesCss_of_placed (placed : ∀ page ∈ article.pages, page.Placed) :
    article.pagesCss = .ok (String.join (article.pages.map Page.placedCss)) := by
  have each := mapM_of_ok fun page inside => Page.css_of_placed (placed page inside)
  rw [pagesCss, each]
  rfl

/-- The components of an article that has a stylesheet are placed. -/
theorem placed_of_stylesheet {render : RenderSettings} {css : String}
    (styled : article.stylesheet render = .ok css) : ∀ page ∈ article.pages, page.Placed := by
  have none := failure?_eq_none.mpr ⟨css, styled⟩
  rw [failure?_stylesheet, placeFault?, List.findSome?_eq_none_iff] at none
  exact fun page inside => Page.placed_iff_failure?.mpr (none page inside)

/-- The last of some parts stands at their end, also if parts without text are left out. Of the last
part, what comes before depends only on whether it has a text. -/
theorem exists_front_intercalate (separator : String) (parts : List String) (empty : Bool) :
    ∃ front, ∀ last : String, last.isEmpty = empty →
      separator.intercalate ((parts ++ [last]).filter (!·.isEmpty)) = front ++ last := by
  cases empty with
  | true =>
      refine ⟨separator.intercalate (parts.filter (!·.isEmpty)), fun last empty => ?_⟩
      have left : [last].filter (!·.isEmpty) = [] := by simp [empty]
      rw [List.filter_append, left, List.append_nil, String.isEmpty_iff.mp empty,
        String.append_empty]
  | false =>
      have kept (last : String) (shown : last.isEmpty = false) :
          (parts ++ [last]).filter (!·.isEmpty) = parts.filter (!·.isEmpty) ++ [last] := by
        simp [shown]
      by_cases none : parts.filter (!·.isEmpty) = []
      · refine ⟨"", fun last shown => ?_⟩
        rw [kept last shown, none, List.nil_append, String.intercalate_singleton,
          String.empty_append]
      · refine ⟨separator.intercalate (parts.filter (!·.isEmpty)) ++ separator,
          fun last shown => ?_⟩
        rw [kept last shown, String.intercalate_append_of_ne_nil none (List.cons_ne_nil _ _),
          String.intercalate_singleton]

/-- What comes before the text of the pages in a stylesheet, if that text is blank or if it is not.
-/
theorem exists_front_stylesheet (render : RenderSettings) (empty : Bool) :
    ∃ front, ∀ (article : Article) (text : String), article.pagesCss = .ok text →
      (Text.trim text).isEmpty = empty →
        article.stylesheet render = .ok (front ++ Text.trim text) := by
  obtain ⟨front, ends⟩ := exists_front_intercalate "\n\n" [Text.trim render.baseStylesheet,
    Text.trim ((render.scrollerClass.map Css.scrollerText).getD "")] empty
  refine ⟨front, fun article text made blank => ?_⟩
  rw [stylesheet, made, ← ends _ blank]
  rfl

/-- The text of the pages stands at the end of the stylesheet. -/
theorem exists_front {render : RenderSettings} {css : String}
    (styled : article.stylesheet render = .ok css) :
    ∃ text front, article.pagesCss = .ok text ∧ css = front ++ Text.trim text := by
  obtain ⟨text, made, -⟩ := of_bind_ok styled
  obtain ⟨front, ends⟩ := exists_front_stylesheet render (Text.trim text).isEmpty
  exact ⟨text, front, made, Except.ok.inj (styled.symm.trans (ends article text made rfl))⟩

end Article

/-! ## Slots that are covered -/

/-- What a page has in its document and in the stylesheet, in its own part of that and in the rules
of all pages. The elements of the nodes are those that are read off the page's text, in which the
contents of its texts are trusted. -/
structure Page.Covered (page : Page) (nodes : List Node) (part rules : List FlatRule) : Prop where
  text : Mark.text (Node.marksAll nodes) = Node.renderAll nodes
  trusted : Mark.trustedTexts (Node.marksAll nodes) = page.trustedTexts
  read : ReadsAs (Node.marksAll nodes) nodes
  unknown : page.layout.template.slots? = none → part = []
  wrappers : ∀ slots, page.layout.template.slots? = some slots → ∀ slot,
    part.countP (·.selector = "#" ++ page.slotDomId slot) = if slot ∈ slots then 1 else 0
  components : ∀ slots, page.layout.template.slots? = some slots → ∀ slot,
    rules.countP (·.selector = "." ++ page.slotClass slot) =
      if page.slotDomId slot ∈ Node.idsAll nodes then 1 else 0
  elements : ∀ c ∈ page.components, ∃ attributes ∈ Node.attributeListsAll nodes,
    ("id", c.domId) ∈ attributes
  classes : ∀ attributes ∈ Node.attributeListsAll nodes, ∀ id, ("id", "comp-" ++ id) ∈ attributes →
    ∃ c ∈ page.components, c.id = id ∧ (∀ other ∈ page.components, other.id = id → other = c) ∧
      HasClass (page.slotClass c.slot) attributes

/-- A stylesheet ends with the rules of the pages. They can be read back, and they cover the pages.
-/
structure Article.Covered (article : Article) (render : RenderSettings) (css : String)
    (parts : List (List FlatRule)) : Prop where
  text : ∃ text front, article.pagesCss = .ok text ∧ css = front ++ Text.trim text ∧
    readRules? text = some parts.flatten
  values : ∀ rule ∈ parts.flatten, ∀ declaration ∈ rule.declarations,
    ∀ mark ∈ ['{', '}', ';'], mark ∉ declaration.2.toList
  pages : List.Forall₂ (fun page part =>
    (∃ text, page.css = .ok text ∧ readRules? text = some part) ∧
      ∃ nodes, page.nodes render = .ok nodes ∧ page.html render = .ok (Node.renderAll nodes) ∧
        page.Covered nodes part parts.flatten) article.pages parts

namespace Article

variable {settings : ParseSettings} {article : Article}

/-- The rules of a well-formed article cover each of its pages. -/
theorem covered_page (well : article.WellFormed settings) {page : Page}
    (inside : page ∈ article.pages) (render : RenderSettings) :
    page.Covered (page.sectionNodes render) page.flatRules
      (article.pages.flatMap Page.flatRules) where
  text := Node.text_marksAll _
  trusted := page.trustedTexts_sectionNodes render
  read := Html.readsAs_of_tidy (page.tidy_sectionNodes render)
  unknown template := by rw [Page.flatRules, Page.placedRules_eq_nil template, List.map_nil]
  wrappers _ template := Page.countP_wrapper (well.pages page inside) template
  components _ template slot := by
    rw [Page.ids_sectionNodes, countP_components well inside template]
  elements c member := page.exists_attributes render member
  classes attributes member id named := by
    obtain ⟨c, listed, same, carries⟩ :=
      Page.carries_class (well.pages page inside).id member named
    have ofArticle (other : Component) (listed : other ∈ page.components) :
        other ∈ article.components := List.mem_flatMap.mpr ⟨page, inside, listed⟩
    refine ⟨c, listed, same, fun other listed' same' => ?_, carries⟩
    exact List.inj_on_of_nodup_map well.componentIds (ofArticle other listed')
      (ofArticle c listed) (same'.trans same.symm)

/-- **Stylesheets and documents cover the same slots.** The text of the pages in the stylesheet of
an accepted article is read as rules without marks in their values, page by page. A page with a
template that is not known has no rules. Any other page has one rule for the element around each
slot of its template, and in the whole stylesheet there is one rule for the components in a slot of
the page if the document has an element around the slot, and none if it has not. The element of
every component carries the class of the page and of the component's slot. The elements are those
that are read off the text of the page. -/
theorem rules_cover_slots {read : Except Json.Fault Article}
    (accepted : settings.accept read = .ok article) {render : RenderSettings} {css : String}
    (styled : article.stylesheet render = .ok css) : ∃ parts, article.Covered render css parts := by
  have well := wellFormed_of_accept accepted
  have placed := placed_of_stylesheet styled
  obtain ⟨text, front, made, ends⟩ := exists_front styled
  rw [pagesCss_of_placed placed] at made
  cases made
  refine ⟨article.pages.map Page.flatRules, ?_, ?_, ?_⟩
  · exact ⟨_, front, pagesCss_of_placed placed, ends, (reads_pages well).readRules?_eq⟩
  · intro rule member declaration listed mark banned
    have known : ∀ mark ∈ ['{', '}', ';'], mark ∈ Css.marks := forall_mem_of_all (by decide)
    exact (calm_flatRules well rule member declaration listed).2 mark (known mark banned)
  · refine List.forall₂_map_right_iff.mpr (List.forall₂_same.mpr fun page inside => ⟨?_, ?_⟩)
    · exact ⟨_, Page.css_of_placed (placed page inside),
        (Page.reads_placedCss (well.pages page inside)).readRules?_eq⟩
    · have made := Page.nodes_of_placed (placed page inside) render
      refine ⟨_, made, ?_, covered_page well inside render⟩
      rw [Page.html, made]
      rfl

/-- An article with a page of columns, a page that is filled by an image, and a page with a template
that is not known. The second page goes by the identifier of the left slot of the first one. -/
def mixedPages : Article where
  id := "tale"
  pages := [
    { id := "a"
      pinnable := true
      layout := { template := .leftRight, widthLeft := some " 40%\n" }
      frames := [{ id := "f1", components := [.ofText "one" .left "fade" "1"] }] },
    { id := "a-left"
      pinnable := false
      layout := { template := .single }
      frames := [{
        id := "f1"
        components :=
          [.ofImage "two" .center "fade" { data := some "2.png", fullscreen := true }] }] },
    { id := "b"
      pinnable := true
      layout := { template := .other "grid" }
      frames := [{ id := "f1", components := [.ofText "three" .top "fade" "3"] }] }]

/-- Pages of columns, of one image and of a template that is not known are covered side by side. -/
theorem rules_cover_slots_mixedPages :
    ∃ css parts, ParseSettings.accept {} (.ok mixedPages) = .ok mixedPages.stamp ∧
      mixedPages.stamp.stylesheet {} = .ok css ∧ mixedPages.stamp.Covered {} css parts := by
  have accepted : ParseSettings.accept {} (.ok mixedPages) = .ok mixedPages.stamp := rfl
  have none : mixedPages.stamp.placeFault? = none := rfl
  obtain ⟨css, styled⟩ := failure?_eq_none.mp ((failure?_stylesheet _ {}).trans none)
  obtain ⟨parts, covered⟩ := rules_cover_slots accepted styled
  exact ⟨css, parts, accepted, styled, covered⟩

end Article

end ScrollStory
