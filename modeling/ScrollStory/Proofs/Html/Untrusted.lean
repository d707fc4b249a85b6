import ScrollStory.Proofs.Html.Ids
import ScrollStory.Proofs.Html.Markup

/-!
# Untrusted text makes no markup

The shape of an article says how many pages, frames and components it has, where its components
stand and of which type they are, which of them have captions, and the contents of its texts. All
other strings of an article and of the settings are untrusted. Documents of one shape have one
skeleton (`ScrollStory.Article.skeleton_documentNodes`), and so their brackets are the same whatever
the untrusted strings are, and no attribute ends before the quote that was written behind it
(`ScrollStory.Article.same_outline`).
-/

namespace ScrollStory

open Html (Node Mark Reader Harmless)

/-! ## Shapes -/

/-- What the markup of a component depends on. -/
structure Component.Shape where
  type : ComponentType
  slot : Slot
  contentHtml : Option String
  /-- Whether there is a caption that is not empty. -/
  captioned : Bool
  deriving DecidableEq, Repr

/-- What the markup of a page depends on. -/
structure Page.Shape where
  template : Template
  frames : List (List Component.Shape)
  deriving DecidableEq, Repr

/-- A component has its kind, its slot and its text in its shape; of a caption, just whether there
is one. -/
def Component.shape (c : Component) : Component.Shape where
  type := c.type
  slot := c.slot
  contentHtml := c.contentHtml
  captioned := (c.image.bind Image.caption).any (!·.isEmpty)

/-- A page has its template in its shape, and the components of its frames in theirs. -/
def Page.shape (page : Page) : Page.Shape where
  template := page.layout.template
  frames := page.frames.map fun frame => frame.components.map Component.shape

/-- What the markup of an article depends on. -/
def Article.shape (article : Article) : List Page.Shape := article.pages.map Page.shape

/-- The skeleton of the element of a component. -/
def Component.Shape.node (shape : Component.Shape) : Node :=
  match shape.type with
  | .image =>
    .element "figure" [("class", ""), ("id", "")]
      (.void "img" [("src", ""), ("alt", "")] true ::
        if shape.captioned then [.element "figcaption" [] [.text ""]] else [])
  | .text => .element "div" [("class", ""), ("id", "")] [.raw (shape.contentHtml.getD "")]

/-- The skeleton of the element around a slot. -/
def Component.Shape.groupNodes (shapes : List Component.Shape) : List Node :=
  Node.block 6 "div" [("id", "")] (shapes.flatMap fun shape => Node.line 8 shape.node)

namespace Page.Shape

/-- The components of a page, frame by frame. -/
def components (shape : Page.Shape) : List Component.Shape := shape.frames.flatten

/-- The components of every occupied slot. -/
def groups (shape : Page.Shape) : List (List Component.Shape) :=
  (Slot.all.map fun slot => shape.components.filter (·.slot = slot)).filter (!·.isEmpty)

/-- The skeleton of a page. -/
def nodes (shape : Page.Shape) : List Node :=
  Node.block 4 "section" [("id", "")] (shape.groups.flatMap Component.Shape.groupNodes)

end Page.Shape

/-- The skeleton of an entry depends on the shape of its component only. -/
theorem Entry.skeleton_node (entry : Entry) (name : String) (settings : RenderSettings) :
    (entry.node name settings).skeleton = entry.component.shape.node := by
  obtain ⟨c, frameIndex, frameId⟩ := entry
  unfold Entry.node Component.Shape.node Component.shape
  cases type : c.type with
  | text => simp [Component.isImage, type, Component.textNode, Node.skeleton, Node.skeletonAll,
      Node.names]
  | image =>
      cases given : c.image.bind Image.caption with
      | none =>
          simp [Component.isImage, type, Component.imageNode, given, Node.skeleton,
            Node.skeletonAll, Node.names]
      | some caption =>
          by_cases empty : caption = "" <;>
            simp [Component.isImage, type, Component.imageNode, given, empty, Node.skeleton,
              Node.skeletonAll, Node.names]

/-- The skeleton of a group depends on the shapes of its components only. -/
theorem Group.skeleton_nodes (group : Group) (page : Page) (settings : RenderSettings) :
    Node.skeletonAll (group.nodes page settings) =
      Component.Shape.groupNodes (group.entries.map (·.component.shape)) := by
  rw [nodes, Node.skeletonAll_block, Node.skeletonAll_flatMap, Component.Shape.groupNodes,
    List.flatMap_map]
  simp only [Node.skeletonAll_line, Entry.skeleton_node]
  rfl

namespace Page

variable {page : Page}

theorem shape_components (page : Page) :
    page.shape.components = page.components.map Component.shape := by
  rw [Shape.components, shape, components, List.map_flatMap, List.flatMap_def]

/-- The groups of a page depend on its shape only, as far as the shapes of their components go. -/
theorem shape_groups (page : Page) :
    page.groups.map (fun group => group.entries.map (·.component.shape)) = page.shape.groups := by
  have slots (slot : Slot) : (page.slotEntries slot).map (·.component.shape) =
      page.shape.components.filter (·.slot = slot) := by
    rw [shape_components, ← component_entries, List.map_map, List.filter_map]
    rfl
  -- A slot without components is left out on both sides, as shapes are as many as components.
  have kept (all : List Group) : (all.filter (!·.entries.isEmpty)).map
        (fun group => group.entries.map (·.component.shape)) =
      (all.map fun group => group.entries.map (·.component.shape)).filter (!·.isEmpty) := by
    rw [List.filter_map]
    simp [Function.comp_def]
  rw [groups, kept, List.map_map, Shape.groups]
  simp only [Function.comp_def, slots]

/-- The skeleton of a section depends on the shape of its page only. -/
theorem skeleton_sectionNodes (page : Page) (settings : RenderSettings) :
    Node.skeletonAll (page.sectionNodes settings) = page.shape.nodes := by
  rw [sectionNodes, Node.skeletonAll_block, Node.skeletonAll_flatMap, Shape.nodes, ← shape_groups,
    List.flatMap_map]
  simp only [Group.skeleton_nodes]
  rfl

/-- Whether the components of a page are placed is seen from its shape. -/
theorem placed_iff_shape :
    page.Placed ↔ ∀ c ∈ page.shape.components, page.shape.template.accepts c.slot = true := by
  rw [shape_components, List.forall_mem_map]
  rfl

end Page

/-! ## Documents of one shape -/

namespace Article

variable {a b : Article} {s t : RenderSettings}

/-- If the pages of one article are placed, so are those of an article with the same shape. -/
theorem placed_of_shape (shapes : a.shape = b.shape) (placed : ∀ page ∈ a.pages, page.Placed) :
    ∀ page ∈ b.pages, page.Placed := by
  intro page member
  have listed : page.shape ∈ a.shape := shapes ▸ List.mem_map_of_mem member
  obtain ⟨other, inside, same⟩ := List.mem_map.mp listed
  have there := Page.placed_iff_shape.mp (placed other inside)
  rw [same] at there
  exact Page.placed_iff_shape.mpr there

/-- The heads of all documents have the same skeleton. -/
theorem skeleton_headNodes :
    Node.skeletonAll (a.headNodes s) = Node.skeletonAll (b.headNodes t) := rfl

theorem skeleton_scriptNodes (src : String) :
    Node.skeletonAll (scriptNodes src) = scriptNodes "" := rfl

/-- The element that scrolls has a skeleton that depends on that of the pages and on whether there
is a class for it. -/
theorem skeleton_scrollNodes {pages others : List Node}
    (same : Node.skeletonAll pages = Node.skeletonAll others)
    (scroller : s.scrollerClass.isSome = t.scrollerClass.isSome) :
    Node.skeletonAll (scrollNodes pages s) = Node.skeletonAll (scrollNodes others t) := by
  unfold scrollNodes
  cases first : s.scrollerClass with
  | none =>
      cases second : t.scrollerClass with
      | none => exact same
      | some name => simp [first, second] at scroller
  | some name =>
      cases second : t.scrollerClass with
      | none => simp [first, second] at scroller
      | some other =>
          rw [Node.skeletonAll_block, Node.skeletonAll_block, same]
          rfl

/-- The skeleton of a document depends on the shape of the article, on whether there is an element
that scrolls, and on the number of libraries. -/
theorem skeleton_documentNodes (shapes : a.shape = b.shape)
    (scroller : s.scrollerClass.isSome = t.scrollerClass.isSome)
    (scripts : s.libraryScripts.length = t.libraryScripts.length) :
    Node.skeletonAll (a.documentNodes s) = Node.skeletonAll (b.documentNodes t) := by
  have sections (article : Article) (settings : RenderSettings) :
      Node.skeletonAll (article.pages.flatMap fun page => page.sectionNodes settings) =
        article.shape.flatMap Page.Shape.nodes := by
    rw [Node.skeletonAll_flatMap, shape, List.flatMap_map]
    simp only [Page.skeleton_sectionNodes]
  have scroll : Node.skeletonAll
        (scrollNodes (a.pages.flatMap fun page => page.sectionNodes s) s) =
      Node.skeletonAll (scrollNodes (b.pages.flatMap fun page => page.sectionNodes t) t) :=
    skeleton_scrollNodes (by rw [sections, sections, shapes]) scroller
  have libraries (settings : RenderSettings) :
      Node.skeletonAll (settings.libraryScripts.flatMap scriptNodes) =
        (List.replicate settings.libraryScripts.length (scriptNodes "")).flatten := by
    rw [Node.skeletonAll_flatMap]
    simp only [skeleton_scriptNodes, List.flatMap_def, List.map_const']
  simp only [documentNodes, Node.skeletonAll_block, Node.skeletonAll_append, skeleton_scriptNodes,
    skeleton_headNodes (a := a) (b := b) (s := s) (t := t), scroll, libraries, scripts]

end Article

/-! ## What a reader of a document finds -/

theorem Entry.tidy_node (entry : Entry) (name : String) (settings : RenderSettings) :
    (entry.node name settings).Tidy := by
  unfold Entry.node
  split
  · unfold Component.imageNode
    split
    · split
      all_goals
        simp only [Node.Tidy, Node.TidyAll, List.map]
        decide
    · simp only [Node.Tidy, Node.TidyAll, List.map]
      decide
  · simp only [Component.textNode, Node.Tidy, Node.TidyAll, List.map]
    decide

theorem Page.tidy_sectionNodes (page : Page) (settings : RenderSettings) :
    Node.TidyAll (page.sectionNodes settings) := by
  refine Node.tidyAll_block (by decide) (by simp only [List.map]; decide) ?_ _
  refine Node.tidyAll_flatMap fun group _ => ?_
  refine Node.tidyAll_block (by decide) (by simp only [List.map]; decide) ?_ _
  exact Node.tidyAll_flatMap fun entry _ => Node.tidyAll_line (entry.tidy_node _ settings) _

/-- The trusted text in the element of a component. -/
def Component.trustedTexts (c : Component) : List String :=
  if c.isImage then [] else [c.contentHtml.getD ""]

/-- The trusted texts of a page, slot by slot. -/
def Page.trustedTexts (page : Page) : List String :=
  page.groups.flatMap fun group => group.entries.flatMap (·.component.trustedTexts)

/-- The trusted texts in the element of an entry are those of the component. -/
theorem Entry.trustedTexts_node (entry : Entry) (name : String) (settings : RenderSettings) :
    Mark.trustedTexts (entry.node name settings).marks = entry.component.trustedTexts := by
  unfold Entry.node Component.trustedTexts
  split
  · unfold Component.imageNode
    split
    · split <;> simp
    · simp
  · rw [Component.textNode, Node.trustedTexts_element]
    rfl

theorem Page.trustedTexts_sectionNodes (page : Page) (settings : RenderSettings) :
    Node.trustedTexts (page.sectionNodes settings) = page.trustedTexts := by
  simp [sectionNodes, Group.nodes, trustedTexts, Entry.trustedTexts_node]

namespace Article

variable {article : Article} {settings : RenderSettings}

/-- The trusted texts of an article: the contents of its texts, page by page and slot by slot. -/
def trustedTexts (article : Article) : List String := article.pages.flatMap Page.trustedTexts

theorem tidy_headNodes (article : Article) (settings : RenderSettings) :
    Node.TidyAll (article.headNodes settings) := by
  have line {node : Node} (tidy : node.Tidy) : Node.TidyAll (Node.line 2 node) :=
    Node.tidyAll_line tidy 2
  refine Node.tidyAll_block (by decide) (by decide) ?_ _
  simp only [Node.tidyAll_append]
  refine ⟨⟨⟨line ?_, line ?_⟩, line ?_⟩, line ?_⟩
  all_goals
    simp only [Node.Tidy, Node.TidyAll, List.map]
    decide

theorem tidy_scriptNodes (src : String) : Node.TidyAll (scriptNodes src) := by
  refine Node.tidyAll_line ?_ _
  simp only [Node.Tidy, Node.TidyAll, List.map]
  decide

/-- A document is tidy. -/
theorem tidy_documentNodes (article : Article) (settings : RenderSettings) :
    Node.TidyAll (article.documentNodes settings) := by
  have sections : Node.TidyAll (article.pages.flatMap fun page => page.sectionNodes settings) :=
    Node.tidyAll_flatMap fun page _ => page.tidy_sectionNodes settings
  have scroll : Node.TidyAll (scrollNodes (article.pages.flatMap fun page =>
      page.sectionNodes settings) settings) := by
    unfold scrollNodes
    split
    · exact Node.tidyAll_block (by decide) (by simp only [List.map]; decide) sections _
    · exact sections
  have libraries : Node.TidyAll (settings.libraryScripts.flatMap scriptNodes) :=
    Node.tidyAll_flatMap fun src _ => tidy_scriptNodes src
  refine Node.tidyAll_block (by decide) (by decide) (Node.tidyAll_append.mpr ⟨?_, ?_⟩) _
  · exact tidy_headNodes article settings
  · refine Node.tidyAll_block (by decide) (by decide) ?_ _
    exact Node.tidyAll_append.mpr
      ⟨Node.tidyAll_append.mpr ⟨scroll, libraries⟩, tidy_scriptNodes _⟩

/-- The trusted texts in a document are those of the article. -/
theorem trustedTexts_documentNodes (article : Article) (settings : RenderSettings) :
    Node.trustedTexts (article.documentNodes settings) = article.trustedTexts := by
  have head : Node.trustedTexts (article.headNodes settings) = [] := by
    simp [headNodes]
  have script (src : String) : Node.trustedTexts (scriptNodes src) = [] := by
    simp [scriptNodes]
  have scroll (pages : List Node) :
      Node.trustedTexts (scrollNodes pages settings) = Node.trustedTexts pages := by
    unfold scrollNodes
    split
    · exact Node.trustedTexts_block _ _ _ _
    · rfl
  simp [documentNodes, head, scroll, script, Page.trustedTexts_sectionNodes, trustedTexts]

/-- What a document is written of. -/
def documentMarks (nodes : List Node) : List Mark :=
  Mark.ofString "<!DOCTYPE html>\n" ++ Node.marksAll nodes

/-- A text is the document of an article with the given nodes. The trusted texts there are the
contents of the article's texts. A reader of the document reads the values that were written, and
none of them has a quote or a bracket in it. -/
structure Writes (article : Article) (settings : RenderSettings) (text : String)
    (nodes : List Node) : Prop where
  html : article.html settings = .ok text
  tree : article.nodes settings = .ok nodes
  marks : Mark.text (documentMarks nodes) = text
  trusted : Mark.trustedTexts (documentMarks nodes) = article.trustedTexts
  values : Reader.after? ⟨.between, []⟩ (documentMarks nodes) =
    some ⟨.between, Node.valuesAll nodes⟩
  harmless : ∀ value ∈ Node.valuesAll nodes, Harmless value

/-- A document is written for every article whose pages are placed. -/
theorem writes_of_placed (placed : ∀ page ∈ article.pages, page.Placed)
    (settings : RenderSettings) :
    ∃ text, article.Writes settings text (article.documentNodes settings) := by
  have done : article.nodes settings = .ok (article.documentNodes settings) :=
    nodes_eq_ok_iff.mpr ⟨placed, rfl⟩
  have begun : Reader.after? ⟨.between, []⟩ (Mark.ofString "<!DOCTYPE html>\n") =
      some ⟨.between, []⟩ := rfl
  refine ⟨_, ⟨by rw [Article.html, done]; rfl, done, ?_, ?_, ?_, ?_⟩⟩
  · rw [documentMarks, Mark.text_append, Mark.text_ofString, Node.text_marksAll]
  · rw [documentMarks, Mark.trustedTexts_append, Mark.trustedTexts_ofString, List.nil_append]
    exact trustedTexts_documentNodes article settings
  · rw [documentMarks, Reader.after?_append, begun, Option.bind_some,
      Node.after?_marksAll (tidy_documentNodes article settings), List.nil_append]
  · exact fun value member => Node.harmless_of_mem_valuesAll member

/-- **Untrusted text makes no markup.** Of two articles of one shape, rendered with or without an
element that scrolls and with the same number of libraries, both have a document or none has.
Outside the trusted texts the same brackets stand in both documents in the same order, with the same
trusted texts between them, and every attribute ends at the quote that was written behind it. -/
theorem same_outline {a b : Article} {s t : RenderSettings} (shapes : a.shape = b.shape)
    (scroller : s.scrollerClass.isSome = t.scrollerClass.isSome)
    (scripts : s.libraryScripts.length = t.libraryScripts.length) {text : String}
    (done : a.html s = .ok text) :
    ∃ text' nodes nodes', a.Writes s text nodes ∧ b.Writes t text' nodes' ∧
      Mark.outline (documentMarks nodes) = Mark.outline (documentMarks nodes') := by
  obtain ⟨nodes, made, _⟩ := of_bind_ok done
  obtain ⟨placed, rfl⟩ := nodes_eq_ok_iff.mp made
  obtain ⟨same, writes⟩ := writes_of_placed placed s
  obtain ⟨text', writes'⟩ := writes_of_placed (placed_of_shape shapes placed) t
  cases writes.html.symm.trans done
  refine ⟨text', _, _, writes, writes', ?_⟩
  rw [documentMarks, documentMarks, Mark.outline_append, Mark.outline_append,
    Node.outline_of_skeleton (skeleton_documentNodes shapes scroller scripts)]

/-- A text and an image on one page, with the given strings for everything but the text. -/
def captioned (id title caption : String) : Article where
  id := id
  title := title
  pages := [{
    id := id
    pinnable := false
    layout := { template := .leftRight }
    frames := [{
      id := id
      components :=
        [.ofText id .left "fade" "<p>Hi</p>",
          .ofImage (id ++ "2") .right "fade" { data := some title, caption := some caption }] }] }]

/-- Strings that would end attributes and tags if they were not escaped. -/
def hostileSettings : RenderSettings where
  titleFallback := "</title>"
  imageBase := "\"/><img src=\""
  libraryScripts := ["\"></script>", "'>"]
  stylesheetHref := "\"><"
  scriptHref := "<"
  scrollerClass := some "\" onclick=\""

/-- Strings that would make markup of their own leave the brackets of a document as they are. -/
theorem same_outline_captioned :
    (captioned "a" "b" "c").shape = (captioned "\"><a>" "</title>" "<b>'").shape ∧
      ∃ text text' nodes nodes', (captioned "a" "b" "c").Writes {} text nodes ∧
        (captioned "\"><a>" "</title>" "<b>'").Writes hostileSettings text' nodes' ∧
        Mark.outline (documentMarks nodes) = Mark.outline (documentMarks nodes') := by
  have shapes : (captioned "a" "b" "c").shape = (captioned "\"><a>" "</title>" "<b>'").shape := by
    decide
  have placed : ∀ page ∈ (captioned "a" "b" "c").pages, page.Placed := by
    unfold Page.Placed
    decide
  obtain ⟨text, writes⟩ := writes_of_placed placed {}
  obtain ⟨text', nodes, nodes', found⟩ :=
    same_outline (s := {}) (t := hostileSettings) shapes rfl rfl writes.html
  exact ⟨shapes, text, text', nodes, nodes', found⟩

end Article

end ScrollStory
