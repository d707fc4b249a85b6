import ScrollStory.Proofs.Artifact.Stages
import ScrollStory.Proofs.Css.Coverage
import ScrollStory.Proofs.Plan.Visibility

/-!
# Pages in another order

When the pages of an article are put in another order, their plans, their sections of the document
and their parts of the stylesheet are put in that order too, and what stands around them stays. All
that may change is what is shown at first, and that only in the pages that are the first before or
after (`ScrollStory.Article.reorder_moves_visibility`).
-/

namespace ScrollStory

open Html (Node)

/-! ## Lists in another order -/

section

variable {α β : Type} {order : List Nat} {as : List α} {bs : List β}

/-- The items of a list in the order of some positions. -/
def arrange (order : List Nat) (as : List α) : List α := order.filterMap (as[·]?)

theorem map_arrange (f : α → β) (order : List Nat) (as : List α) :
    (arrange order as).map f = arrange order (as.map f) := by
  simp only [arrange, List.map_filterMap, List.getElem?_map]

/-- Items that are related pairwise still are when both lists are put in another order. -/
theorem forall₂_arrange {relation : α → β → Prop} (related : List.Forall₂ relation as bs)
    (order : List Nat) : List.Forall₂ relation (arrange order as) (arrange order bs) := by
  induction order with
  | nil => exact .nil
  | cons i order ih =>
      have lengths := related.length_eq
      rw [arrange, arrange, List.filterMap_cons, List.filterMap_cons]
      by_cases inside : i < as.length
      · rw [List.getElem?_eq_getElem inside, List.getElem?_eq_getElem (lengths ▸ inside)]
        exact .cons (related.get inside (lengths ▸ inside)) ih
      · rw [List.getElem?_eq_none (not_lt.mp inside),
          List.getElem?_eq_none (lengths ▸ not_lt.mp inside)]
        exact ih

/-- If all positions are in the list, every one of them contributes its item. -/
theorem map_some_arrange (inside : ∀ i ∈ order, i < as.length) :
    (arrange order as).map some = order.map (as[·]?) := by
  rw [arrange, List.map_filterMap_some_eq_filter_map_isSome, List.filter_eq_self]
  intro item listed
  obtain ⟨i, member, rfl⟩ := List.mem_map.mp listed
  rw [List.getElem?_eq_getElem (inside i member), Option.isSome_some]

/-- Items stay as they are in the order that they have. -/
theorem arrange_range (as : List α) : arrange (List.range as.length) as = as := by
  refine (List.map_injective_iff (f := some)).mpr (fun _ _ => Option.some.inj) ?_
  rw [map_some_arrange fun i => List.mem_range.mp]
  refine List.ext_getElem (by simp) fun i inside _ => ?_
  rw [List.length_map, List.length_range] at inside
  simp [inside]

/-- Putting items in another order neither adds nor loses any. -/
theorem perm_arrange (every : order.Perm (List.range as.length)) : (arrange order as).Perm as := by
  have moved := every.filterMap (as[·]?)
  exact moved.trans (List.Perm.of_eq (arrange_range as))

/-- A position holds the item from the position listed there. -/
theorem getElem?_arrange (every : order.Perm (List.range as.length)) {t i : Nat}
    (listed : order[t]? = some i) : (arrange order as)[t]? = as[i]? := by
  have inside : ∀ i ∈ order, i < as.length := fun i member =>
    List.mem_range.mp (every.mem_iff.mp member)
  have at_t := congrArg (·[t]?) (map_some_arrange inside)
  simp only [List.getElem?_map, listed, Option.map_some] at at_t
  obtain ⟨a, found, here⟩ := Option.map_eq_some_iff.mp at_t
  rw [found, here]

end

/-! ## Plans in another order -/

namespace Article

/-- An article with its pages in another order. -/
def reorder (article : Article) (order : List Nat) : Article :=
  { article with pages := arrange order article.pages }

variable {article : Article} {order : List Nat} {settings : CompileSettings} {plan moved : Plan}

/-- The pages of a reordered article have a property just if those of the article have it. -/
theorem forall_reorder_iff (every : order.Perm (List.range article.pages.length))
    {property : Page → Prop} :
    (∀ page ∈ (article.reorder order).pages, property page) ↔
      ∀ page ∈ article.pages, property page := by
  have same := perm_arrange every
  exact ⟨fun all page member => all page (same.mem_iff.mpr member),
    fun all page member => all page (same.mem_iff.mp member)⟩

/-- Whether a page has an error does not depend on the order, though the first one may. -/
theorem findSome?_reorder_eq_none_iff (every : order.Perm (List.range article.pages.length))
    {fault? : Page → Option Error} :
    (article.reorder order).pages.findSome? fault? = none ↔
      article.pages.findSome? fault? = none := by
  rw [List.findSome?_eq_none_iff, List.findSome?_eq_none_iff]
  exact forall_reorder_iff every

/-- A reordered article compiles just if the article does. -/
theorem exists_plan_reorder_iff (every : order.Perm (List.range article.pages.length)) :
    (∃ moved, (article.reorder order).compile settings = .ok moved) ↔
      ∃ plan, article.compile settings = .ok plan := by
  rw [← failure?_eq_none, ← failure?_eq_none, failure?_compile, failure?_compile]
  exact findSome?_reorder_eq_none_iff every

/-- What a plan says apart from its pages comes from the article and the settings. -/
theorem fields_of_compile (compiled : article.compile settings = .ok plan) :
    plan.articleId = article.id ∧ plan.traceCallbacks = settings.traceCallbacks := by
  obtain ⟨pages, _, compiled⟩ := of_bind_ok compiled
  cases compiled
  exact ⟨rfl, rfl⟩

/-- The plan of an article without what is shown at first has those of its pages. -/
theorem forall₂_withoutVisibility (compiled : article.compile settings = .ok plan) :
    List.Forall₂ (fun (page : Page) pagePlan => page.compile 1 settings = .ok pagePlan)
      article.pages (plan.pages.map PagePlan.withoutVisibility) := by
  rw [← List.zipIdx_map_fst 0 article.pages, List.forall₂_map_left_iff,
    List.forall₂_map_right_iff]
  refine (forall₂_of_compile compiled).imp fun item pagePlan made => ?_
  rw [← item.1.compile_withoutVisibility item.2, made]
  rfl

/-- How the plan of an article with its pages in another order is made of the plan of the article.
-/
structure Moved (article : Article) (order : List Nat) (plan moved : Plan) : Prop where
  articleId : moved.articleId = plan.articleId
  traceCallbacks : moved.traceCallbacks = plan.traceCallbacks
  pages : moved.pages.map PagePlan.withoutVisibility =
    arrange order (plan.pages.map PagePlan.withoutVisibility)
  each : ∀ (t i : Nat) (page : Page), order[t]? = some i → article.pages[i]? = some page →
    ∃ old new, plan.pages[i]? = some old ∧ moved.pages[t]? = some new ∧ page.Moved i t old new

/-- The plan of a reordered article is made of the plan of the article, page by page. -/
theorem moved_of_compile (every : order.Perm (List.range article.pages.length))
    (compiled : article.compile settings = .ok plan)
    (compiled' : (article.reorder order).compile settings = .ok moved) :
    article.Moved order plan moved := by
  obtain ⟨id, traced⟩ := fields_of_compile compiled
  obtain ⟨id', traced'⟩ := fields_of_compile compiled'
  refine ⟨id'.trans id.symm, traced'.trans traced.symm, ?_, fun t i page listed at_i => ?_⟩
  · have arranged := forall₂_arrange (forall₂_withoutVisibility compiled) order
    exact Except.ok.inj ((mapM_eq_ok_iff.mpr (forall₂_withoutVisibility compiled')).symm.trans
      (mapM_eq_ok_iff.mpr arranged))
  · have at_t : (article.reorder order).pages[t]? = some page :=
      (getElem?_arrange every listed).trans at_i
    obtain ⟨old, planned, made⟩ := of_compile compiled at_i
    obtain ⟨new, planned', made'⟩ := of_compile compiled' at_t
    exact ⟨old, new, planned, planned', Page.moved_of_compile made made'⟩

end Article

/-! ## Documents in another order -/

namespace Html

theorem Node.renderAll_flatMap {α : Type} (nodes : α → List Node) (as : List α) :
    Node.renderAll (as.flatMap nodes) = String.join (as.map fun a => Node.renderAll (nodes a)) := by
  induction as with
  | nil => rfl
  | cons a as ih =>
      rw [List.flatMap_cons, Node.renderAll_append, ih, List.map_cons, String.join_cons]

/-- A function that puts a fixed text before and behind the text of some nodes. -/
def Surrounds (context : List Node → List Node) : Prop :=
  ∃ front back, ∀ nodes,
    Node.renderAll (context nodes) = front ++ Node.renderAll nodes ++ back

namespace Surrounds

variable {outer inner : List Node → List Node}

/-- What is put around nodes that something has been put around is put around both. -/
theorem comp (outside : Surrounds outer) (inside : Surrounds inner) :
    Surrounds fun nodes => outer (inner nodes) := by
  obtain ⟨front, back, outside⟩ := outside
  obtain ⟨front', back', inside⟩ := inside
  refine ⟨front ++ front', back' ++ back, fun nodes => ?_⟩
  simp only [outside, inside, String.append_assoc]

theorem before (nodes : List Node) : Surrounds (nodes ++ ·) := by
  refine ⟨Node.renderAll nodes, "", fun inner => ?_⟩
  rw [Node.renderAll_append, String.append_empty]

theorem behind (nodes : List Node) : Surrounds (· ++ nodes) := by
  refine ⟨"", Node.renderAll nodes, fun inner => ?_⟩
  rw [Node.renderAll_append, String.empty_append]

theorem element (tag : String) (attributes : List (String × String)) :
    Surrounds fun nodes => [.element tag attributes nodes] := by
  refine ⟨"<" ++ tag ++ attributesText attributes ++ ">", "</" ++ tag ++ ">", fun nodes => ?_⟩
  simp only [Node.renderAll, Node.render, String.append_empty, String.append_assoc]

theorem block (width : Nat) (tag : String) (attributes : List (String × String)) :
    Surrounds (Node.block width tag attributes) :=
  (before [Node.indent width]).comp <| (behind [.space "\n"]).comp <|
    (element tag attributes).comp <| (behind [Node.indent width]).comp (before [.space "\n"])

end Surrounds

end Html

open Html (Surrounds)

namespace Article

variable {article : Article} {order : List Nat} {render : RenderSettings} {document : String}

/-- A document around the nodes of some pages. -/
def around (article : Article) (render : RenderSettings) (pages : List Node) : List Node :=
  Node.block 0 "html" [("lang", "en")] <|
    article.headNodes render ++
    Node.block 0 "body" []
      (scrollNodes pages render ++ render.libraryScripts.flatMap scriptNodes ++
        scriptNodes render.scriptHref)

/-- The element that scrolls is put around the pages. -/
theorem surrounds_scrollNodes (render : RenderSettings) :
    Surrounds (scrollNodes · render) := by
  unfold scrollNodes
  cases render.scrollerClass with
  | some name => exact .block 2 "div" [("class", name)]
  | none => exact ⟨"", "", fun nodes => by rw [String.append_empty, String.empty_append]⟩

/-- The rest of a document is put around the pages. -/
theorem surrounds_around (article : Article) (render : RenderSettings) :
    Surrounds (article.around render) := by
  have scripts := (Surrounds.behind (scriptNodes render.scriptHref)).comp
    ((Surrounds.behind (render.libraryScripts.flatMap scriptNodes)).comp
      (surrounds_scrollNodes render))
  exact (Surrounds.block 0 "html" [("lang", "en")]).comp
    ((Surrounds.before (article.headNodes render)).comp
      ((Surrounds.block 0 "body" []).comp scripts))

/-- The document of an article whose components are placed. -/
theorem html_of_placed (placed : ∀ page ∈ article.pages, page.Placed) (render : RenderSettings) :
    article.html render = .ok ("<!DOCTYPE html>\n" ++ Node.renderAll (article.around render
      (article.pages.flatMap fun page => page.sectionNodes render))) := by
  rw [html, nodes_eq_ok_iff.mpr ⟨placed, rfl⟩]
  rfl

/-- The sections of an article whose components are placed are those of its pages. -/
theorem sections_of_placed (placed : ∀ page ∈ article.pages, page.Placed)
    (render : RenderSettings) :
    List.Forall₂ (fun (page : Page) text => page.html render = .ok text) article.pages
      (article.pages.map fun page => Node.renderAll (page.sectionNodes render)) :=
  List.forall₂_map_right_iff.mpr (List.forall₂_same.mpr fun page member =>
    Page.html_of_placed (placed page member) render)

/-- The sections of a document stand in the order of the pages, between texts that do not depend on
the order. -/
theorem html_reorder (every : order.Perm (List.range article.pages.length))
    (written : article.html render = .ok document) :
    ∃ front sections back,
      List.Forall₂ (fun (page : Page) text => page.html render = .ok text) article.pages
        sections ∧
      document = front ++ String.join sections ++ back ∧
      (article.reorder order).html render =
        .ok (front ++ String.join (arrange order sections) ++ back) := by
  have placed := placed_of_html written
  obtain ⟨front, back, surrounds⟩ := article.surrounds_around render
  refine ⟨"<!DOCTYPE html>\n" ++ front, article.pages.map fun page =>
    Node.renderAll (page.sectionNodes render), back, sections_of_placed placed render, ?_, ?_⟩
  · rw [html_of_placed placed, surrounds, Node.renderAll_flatMap] at written
    rw [← Except.ok.inj written]
    simp only [String.append_assoc]
  · rw [html_of_placed ((forall_reorder_iff every).mpr placed), ← map_arrange]
    have again := surrounds ((arrange order article.pages).flatMap fun page =>
      page.sectionNodes render)
    rw [Node.renderAll_flatMap] at again
    simp only [String.append_assoc] at again ⊢
    rw [← again]
    rfl

/-- A reordered article has a document just if the article has one. -/
theorem exists_html_reorder_iff (every : order.Perm (List.range article.pages.length))
    (render : RenderSettings) :
    (∃ document, (article.reorder order).html render = .ok document) ↔
      ∃ document, article.html render = .ok document := by
  rw [← failure?_eq_none, ← failure?_eq_none, failure?_html, failure?_html]
  exact findSome?_reorder_eq_none_iff every

end Article

/-! ## Stylesheets in another order -/

namespace Text

/-- Nothing is left of a text just if all of it is taken off. -/
theorem strip_eq_nil_iff {p : Char → Bool} {cs : List Char} :
    strip p cs = [] ↔ ∀ c ∈ cs, p c = true := by
  constructor
  · intro none c member
    refine (CssLength.mem_strip member).resolve_right ?_
    rw [none]
    exact List.not_mem_nil
  · intro all
    rw [strip, List.dropWhile_eq_nil_iff.mpr all]
    rfl

/-- Nothing is left of a text without the white space around it just if it is blank. -/
theorem isEmpty_trim (s : String) : (trim s).isEmpty = isBlankString s := by
  rw [Bool.eq_iff_iff, String.isEmpty_iff, ← String.toList_inj, trim, String.toList_ofList,
    isBlankString, List.all_eq_true]
  exact strip_eq_nil_iff

/-- Texts one after another are blank just if each of them is. -/
theorem isBlankString_join (texts : List String) :
    isBlankString (String.join texts) = texts.all isBlankString := by
  rw [isBlankString, String.toList_join, List.all_flatMap]
  rfl

end Text

namespace Article

variable {article : Article} {order : List Nat} {render : RenderSettings} {css : String}

/-- A reordered article has a stylesheet just if the article has one. -/
theorem exists_stylesheet_reorder_iff (every : order.Perm (List.range article.pages.length))
    (render : RenderSettings) :
    (∃ css, (article.reorder order).stylesheet render = .ok css) ↔
      ∃ css, article.stylesheet render = .ok css := by
  rw [← failure?_eq_none, ← failure?_eq_none, failure?_stylesheet, failure?_stylesheet]
  exact findSome?_reorder_eq_none_iff every

/-- The parts of a stylesheet for the pages stand in the order of these, behind a text that does not
depend on the order. -/
theorem stylesheet_reorder (every : order.Perm (List.range article.pages.length))
    (styled : article.stylesheet render = .ok css) :
    ∃ front parts,
      List.Forall₂ (fun (page : Page) text => page.css = .ok text) article.pages parts ∧
      css = front ++ Text.trim (String.join parts) ∧
      (article.reorder order).stylesheet render =
        .ok (front ++ Text.trim (String.join (arrange order parts))) := by
  have placed := placed_of_stylesheet styled
  have made := pagesCss_of_placed placed
  have made' := pagesCss_of_placed ((forall_reorder_iff every).mpr placed)
  rw [reorder, map_arrange] at made'
  -- A blank line stands before the parts unless they are blank, and no order decides that.
  have parts : (arrange order (article.pages.map Page.placedCss)).Perm
      (article.pages.map Page.placedCss) :=
    perm_arrange (by rwa [List.length_map])
  have blank :
      (Text.trim (String.join (arrange order (article.pages.map Page.placedCss)))).isEmpty =
        (Text.trim (String.join (article.pages.map Page.placedCss))).isEmpty := by
    rw [Text.isEmpty_trim, Text.isEmpty_trim, Text.isBlankString_join, Text.isBlankString_join]
    exact parts.all_eq
  obtain ⟨front, ends⟩ := exists_front_stylesheet render
    (Text.trim (String.join (article.pages.map Page.placedCss))).isEmpty
  refine ⟨front, article.pages.map Page.placedCss, ?_, ?_, ends _ _ made' blank⟩
  · exact List.forall₂_map_right_iff.mpr
      (List.forall₂_same.mpr fun page member => Page.css_of_placed (placed page member))
  · exact Except.ok.inj (styled.symm.trans (ends _ _ made rfl))

/-! ## Articles in another order -/

/-- **Putting pages in another order moves only what is shown at first.** An article has a plan, a
document or a stylesheet just if it has one with its pages in another order. The plans of its pages
are put in that order and stay the same but for what is shown at first; that may be different only
for components in the first frame of the page that was the first or is the first now. The sections
of the document and the parts of the stylesheet for the pages are put in that order, and what stands
around them stays the same. -/
theorem reorder_moves_visibility (every : order.Perm (List.range article.pages.length))
    (settings : CompileSettings) (render : RenderSettings) :
    ((∃ moved, (article.reorder order).compile settings = .ok moved) ↔
      ∃ plan, article.compile settings = .ok plan) ∧
    (∀ plan moved, article.compile settings = .ok plan →
      (article.reorder order).compile settings = .ok moved → article.Moved order plan moved) ∧
    ((∃ document, (article.reorder order).html render = .ok document) ↔
      ∃ document, article.html render = .ok document) ∧
    (∀ document, article.html render = .ok document → ∃ front sections back,
      List.Forall₂ (fun (page : Page) text => page.html render = .ok text) article.pages
        sections ∧
      document = front ++ String.join sections ++ back ∧
      (article.reorder order).html render =
        .ok (front ++ String.join (arrange order sections) ++ back)) ∧
    ((∃ css, (article.reorder order).stylesheet render = .ok css) ↔
      ∃ css, article.stylesheet render = .ok css) ∧
    ∀ css, article.stylesheet render = .ok css → ∃ front parts,
      List.Forall₂ (fun (page : Page) text => page.css = .ok text) article.pages parts ∧
      css = front ++ Text.trim (String.join parts) ∧
      (article.reorder order).stylesheet render =
        .ok (front ++ Text.trim (String.join (arrange order parts))) :=
  ⟨exists_plan_reorder_iff every, fun _ _ => moved_of_compile every,
    exists_html_reorder_iff every render, fun _ => html_reorder every,
    exists_stylesheet_reorder_iff every render, fun _ => stylesheet_reorder every⟩

/-- With its pages in the other order, the component of its second page is the one that is shown at
first. -/
theorem reorder_moves_visibility_twoPages :
    [1, 0].Perm (List.range (twoPages "a" "b").pages.length) ∧
      ∃ plan moved, (twoPages "a" "b").compile {} = .ok plan ∧
        ((twoPages "a" "b").reorder [1, 0]).compile {} = .ok moved ∧
        (twoPages "a" "b").Moved [1, 0] plan moved ∧
        (plan.binding? "two").map (·.script.initiallyVisible) = some false ∧
        (moved.binding? "two").map (·.script.initiallyVisible) = some true := by
  have every : [1, 0].Perm (List.range (twoPages "a" "b").pages.length) := by decide
  obtain ⟨_, moves, _⟩ := reorder_moves_visibility every {} {}
  exact ⟨every, _, _, rfl, rfl, moves _ _ rfl rfl, rfl, rfl⟩

end Article

end ScrollStory
