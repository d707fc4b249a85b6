import ScrollStory.Html.Document
import ScrollStory.Proofs.Plan.Grouping
import ScrollStory.Proofs.Plan.Steps

/-!
# The identifiers of a document

A document has an element for every page, one for every occupied slot, and one for every component,
and no other element carries an identifier (`ScrollStory.Article.nodes_of_placed`).
-/

namespace ScrollStory

open Html (Node)

/-! ## Identifiers of nodes -/

namespace Html

namespace Node

theorem idsAll_flatMap {α : Type} (nodes : α → List Node) (as : List α) :
    idsAll (as.flatMap nodes) = as.flatMap fun a => idsAll (nodes a) := by
  induction as with
  | nil => rfl
  | cons a as ih => rw [List.flatMap_cons, List.flatMap_cons, idsAll_append, ih]

theorem idsAll_line (width : Nat) (node : Node) : idsAll (line width node) = node.ids := by
  simp only [line, indent, idsAll, ids, List.nil_append, List.append_nil]

theorem idsAll_block (width : Nat) (tag : String) (attributes : List (String × String))
    (children : List Node) :
    idsAll (block width tag attributes children) = idsOf attributes ++ idsAll children := by
  simp only [block, idsAll_line, ids, idsAll_append, idsAll, indent, List.nil_append,
    List.append_nil, List.cons_append]

end Node

end Html

theorem idsOf_id (id : String) : Node.idsOf [("id", id)] = [id] := rfl

/-- The element of a component carries the identifier of the component and no other. -/
theorem Entry.ids_node (entry : Entry) (name : String) (settings : RenderSettings) :
    (entry.node name settings).ids = [entry.component.domId] := by
  unfold Entry.node
  split
  · unfold Component.imageNode
    cases entry.component.image.bind Image.caption with
    | none => rfl
    | some caption =>
        by_cases empty : caption.isEmpty = true
        · simp only [empty, ↓reduceIte]
          rfl
        · simp only [empty]
          rfl
  · rfl

/-- The identifiers of a group: that of its slot and those of its components. -/
theorem Group.ids_nodes (group : Group) (page : Page) (settings : RenderSettings) :
    Node.idsAll (group.nodes page settings) =
      page.slotDomId group.slot :: group.entries.map fun entry => entry.component.domId := by
  have entries (name : String) :
      Node.idsAll (group.entries.flatMap fun entry => Node.line 8 (entry.node name settings)) =
        group.entries.map fun entry => entry.component.domId := by
    rw [Node.idsAll_flatMap, List.map_eq_flatMap]
    simp only [Node.idsAll_line, Entry.ids_node]
  rw [nodes, Node.idsAll_block, entries, idsOf_id, List.singleton_append]

/-- The identifiers that a page brings into a document. -/
def Page.domIds (page : Page) : List String :=
  page.domId :: page.groups.flatMap fun group =>
    page.slotDomId group.slot :: group.entries.map fun entry => entry.component.domId

/-- Every component of a page stands in a slot of the page's template. -/
def Page.Placed (page : Page) : Prop :=
  ∀ c ∈ page.components, page.layout.template.accepts c.slot = true

/-- A page whose components are placed is grouped without an error. -/
theorem Page.group_of_placed {page : Page} (placed : page.Placed) :
    page.group = .ok page.groups := by
  have none : page.firstMisplaced? = none := by
    refine List.find?_eq_none.mpr fun c member => ?_
    rw [placed c member]
    exact Bool.false_ne_true
  rw [group, none]

/-- A page has groups just if its components are placed. -/
theorem Page.group_eq_ok_iff {page : Page} {groups : List Group} :
    page.group = .ok groups ↔ page.Placed ∧ groups = page.groups := by
  constructor
  · intro grouped
    unfold group at grouped
    split at grouped
    · cases grouped
    · rename_i none
      cases grouped
      refine ⟨fun c member => ?_, rfl⟩
      simpa using List.find?_eq_none.mp none c member
  · rintro ⟨placed, rfl⟩
    exact group_of_placed placed

/-- The lines of a page whose components are placed. -/
def Page.sectionNodes (page : Page) (settings : RenderSettings) : List Node :=
  Node.block 4 "section" [("id", page.domId)]
    (page.groups.flatMap fun group => group.nodes page settings)

/-- A page whose components are placed has the nodes of its section. -/
theorem Page.nodes_of_placed {page : Page} (placed : page.Placed) (settings : RenderSettings) :
    page.nodes settings = .ok (page.sectionNodes settings) := by
  rw [nodes, group_of_placed placed]
  rfl

/-- A page whose components are placed is written as its section. -/
theorem Page.html_of_placed {page : Page} (placed : page.Placed) (settings : RenderSettings) :
    page.html settings = .ok (Node.renderAll (page.sectionNodes settings)) := by
  rw [html, nodes_of_placed placed]
  rfl

/-- The identifiers in the section of a page, in order, are those that the page brings. -/
theorem Page.ids_sectionNodes (page : Page) (settings : RenderSettings) :
    Node.idsAll (page.sectionNodes settings) = page.domIds := by
  rw [sectionNodes, Node.idsAll_block, Node.idsAll_flatMap, idsOf_id, List.singleton_append]
  simp only [Group.ids_nodes]
  rfl

/-! ## Identifiers of documents -/

namespace Article

/-- The head of a document has no identifiers. -/
theorem ids_headNodes (article : Article) (settings : RenderSettings) :
    Node.idsAll (article.headNodes settings) = [] := by
  rw [headNodes, Node.idsAll_block, Node.idsAll_append, Node.idsAll_append, Node.idsAll_append,
    Node.idsAll_line, Node.idsAll_line, Node.idsAll_line, Node.idsAll_line]
  rfl

theorem ids_scriptNodes (src : String) : Node.idsAll (scriptNodes src) = [] := by
  rw [scriptNodes, Node.idsAll_line]
  rfl

/-- The element that scrolls has no identifier. -/
theorem ids_scrollNodes (pages : List Node) (settings : RenderSettings) :
    Node.idsAll (scrollNodes pages settings) = Node.idsAll pages := by
  unfold scrollNodes
  split
  · rw [Node.idsAll_block]
    rfl
  · rfl

/-- The nodes of a document whose components are placed. -/
def documentNodes (article : Article) (settings : RenderSettings) : List Node :=
  Node.block 0 "html" [("lang", "en")] <|
    article.headNodes settings ++
    Node.block 0 "body" []
      (scrollNodes (article.pages.flatMap fun page => page.sectionNodes settings) settings ++
        settings.libraryScripts.flatMap scriptNodes ++
        scriptNodes settings.scriptHref)

variable {article : Article} {settings : RenderSettings}

/-- An article has a document just if its components are placed. -/
theorem nodes_eq_ok_iff {nodes : List Node} :
    article.nodes settings = .ok nodes ↔
      (∀ page ∈ article.pages, page.Placed) ∧ nodes = article.documentNodes settings := by
  have of_placed (placed : ∀ page ∈ article.pages, page.Placed) :
      article.nodes settings = .ok (article.documentNodes settings) := by
    have each : article.pages.mapM (·.nodes settings) =
        .ok (article.pages.map fun page => page.sectionNodes settings) :=
      mapM_of_ok fun page member => Page.nodes_of_placed (placed page member) settings
    rw [Article.nodes, each, documentNodes, List.flatMap_def]
    rfl
  constructor
  · intro done
    have placed : ∀ page ∈ article.pages, page.Placed := by
      obtain ⟨pages, each, _⟩ := of_bind_ok done
      intro page member
      obtain ⟨lines, made⟩ := exists_mapM_iff.mp ⟨pages, each⟩ page member
      obtain ⟨groups, grouped, _⟩ := of_bind_ok made
      exact (Page.group_eq_ok_iff.mp grouped).1
    rw [of_placed placed] at done
    cases done
    exact ⟨placed, rfl⟩
  · rintro ⟨placed, rfl⟩
    exact of_placed placed

/-- An article that has a document is placed, page by page. -/
theorem placed_of_html {document : String} (written : article.html settings = .ok document) :
    ∀ page ∈ article.pages, page.Placed := by
  obtain ⟨nodes, made, -⟩ := of_bind_ok written
  exact (nodes_eq_ok_iff.mp made).1

/-- An article whose components are placed has a document, and the identifiers there are those of
its pages. -/
theorem nodes_of_placed (placed : ∀ page ∈ article.pages, page.Placed)
    (settings : RenderSettings) :
    ∃ nodes, article.nodes settings = .ok nodes ∧
      Node.idsAll nodes = article.pages.flatMap Page.domIds := by
  have scripts : Node.idsAll (settings.libraryScripts.flatMap scriptNodes) = [] := by
    simp only [Node.idsAll_flatMap, ids_scriptNodes, List.flatMap_eq_nil_iff, implies_true]
  refine ⟨_, nodes_eq_ok_iff.mpr ⟨placed, rfl⟩, ?_⟩
  rw [documentNodes, Node.idsAll_block, Node.idsAll_append, ids_headNodes, Node.idsAll_block,
    Node.idsAll_append, Node.idsAll_append, ids_scrollNodes, ids_scriptNodes, scripts,
    Node.idsAll_flatMap]
  simp only [Page.ids_sectionNodes, List.append_nil, List.nil_append]
  rfl

end Article

end ScrollStory
