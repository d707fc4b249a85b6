import ScrollStory.Proofs.Artifact.Reordered
import ScrollStory.Proofs.Html.Entities
import ScrollStory.Proofs.Html.Markup

/-!
# The images of a document

The element of every component stands in the document of its article
(`ScrollStory.Article.shows_component`). The element of an image begins with the image itself, and
the address there reads as the one that the settings give for the data of the component
(`ScrollStory.Article.shows_image`).
-/

namespace ScrollStory

open Html

/-! ## Nodes among others -/

namespace Html

/-- The text of a node stands in the text of some nodes. -/
def Shows (nodes : List Node) (node : Node) : Prop :=
  ∃ front back, Node.renderAll nodes = front ++ node.render ++ back

namespace Shows

variable {nodes : List Node} {node : Node}

theorem singleton (node : Node) : Shows [node] node := by
  refine ⟨"", "", ?_⟩
  rw [Node.renderAll, Node.renderAll, String.empty_append]

theorem within {context : List Node → List Node} (surrounds : Surrounds context)
    (shown : Shows nodes node) : Shows (context nodes) node := by
  obtain ⟨front, back, inside⟩ := shown
  obtain ⟨before, behind, around⟩ := surrounds
  refine ⟨before ++ front, back ++ behind, ?_⟩
  simp only [around, inside, String.append_assoc]

theorem append (shown : Shows nodes node) (front back : List Node) :
    Shows (front ++ (nodes ++ back)) node :=
  (shown.within (.behind back)).within (.before front)

theorem flatMap {α : Type} (parts : α → List Node) {as : List α} {a : α} (member : a ∈ as)
    (shown : Shows (parts a) node) : Shows (as.flatMap parts) node := by
  obtain ⟨front, back, rfl⟩ := List.append_of_mem member
  rw [List.flatMap_append, List.flatMap_cons]
  exact shown.append _ _

theorem line (width : Nat) (node : Node) : Shows (Node.line width node) node :=
  (singleton node).append [Node.indent width] [.space "\n"]

end Shows

end Html

/-! ## Components in a document -/

namespace Component

/-- A document shows the image of a component from an address: the figure of the component begins
with the image, and the value of the image's source reads as the address. No value has a quote in
it, so each ends where the next quote is. -/
def ShownFrom (c : Component) (address document : String) : Prop :=
  ∃ front name id source back,
    document = front ++ ("<figure class=\"" ++ name ++ "\" id=\"" ++ id ++ "\"><img src=\"" ++
      source ++ "\" alt=\"Image\" />") ++ back ∧
    Harmless name ∧ Harmless id ∧ Harmless source ∧
    unescape attributeEntities id = c.domId ∧ unescape attributeEntities source = address

/-- The address of the image of a component. -/
def address (c : Component) (settings : RenderSettings) : String :=
  settings.imageSrc ((c.image.bind Image.data).getD "")

/-- The figure of an image shows it from the address that the settings give for its data. -/
theorem shownFrom_imageNode (c : Component) (name : String) (firstFrame : Bool)
    (settings : RenderSettings) :
    c.ShownFrom (c.address settings) (c.imageNode name firstFrame settings).render := by
  obtain ⟨classes, caption, node⟩ : ∃ classes caption, c.imageNode name firstFrame settings =
      .element "figure" [("class", classes), ("id", c.domId)]
        (.void "img" [("src", c.address settings), ("alt", "Image")] true :: caption) :=
    ⟨_, _, rfl⟩
  refine ⟨"", escapeAttribute classes, escapeAttribute c.domId,
    escapeAttribute (c.address settings), Node.renderAll caption ++ "</figure>", ?_,
    harmless_escapeAttribute _, harmless_escapeAttribute _, harmless_escapeAttribute _,
    unescape_escapeAttribute _, unescape_escapeAttribute _⟩
  have plain : escapeAttribute "Image" = "Image" := by decide
  rw [node, ← String.toList_inj]
  simp [Node.render, Node.renderAll, attributesText, attributeText, plain]

theorem ShownFrom.within {c : Component} {address text : String} (shown : c.ShownFrom address text)
    (front back : String) : c.ShownFrom address (front ++ text ++ back) := by
  obtain ⟨before, name, id, source, behind, rfl, rest⟩ := shown
  refine ⟨front ++ before, name, id, source, behind ++ back, ?_, rest⟩
  simp only [String.append_assoc]

end Component

/-- The element of an entry stands among those of its group. -/
theorem Group.shows_entry {group : Group} {entry : Entry} (member : entry ∈ group.entries)
    (page : Page) (settings : RenderSettings) :
    Shows (group.nodes page settings)
      (entry.node (page.slotDomId group.slot ++ "-component") settings) := by
  have inside : Shows (group.entries.flatMap fun entry =>
      Node.line 8 (entry.node (page.slotDomId group.slot ++ "-component") settings))
      (entry.node (page.slotDomId group.slot ++ "-component") settings) :=
    Shows.flatMap _ member (.line 8 _)
  exact inside.within (.block 6 "div" [("id", page.slotDomId group.slot)])

/-- The element of a component stands in the section of its page. -/
theorem Page.shows_component {page : Page} {c : Component} (member : c ∈ page.components)
    (settings : RenderSettings) :
    ∃ entry : Entry, entry.component = c ∧
      ∃ name, Shows (page.sectionNodes settings) (entry.node name settings) := by
  obtain ⟨group, listed, entry, inside, rfl⟩ := exists_group member
  have shown := Shows.flatMap (fun group => group.nodes page settings) listed
    (group.shows_entry inside page settings)
  exact ⟨entry, rfl, _, shown.within (.block 4 "section" [("id", page.domId)])⟩

namespace Article

variable {article : Article} {settings : RenderSettings} {document : String} {page : Page}
  {c : Component}

/-- The element of a component stands in the document. -/
theorem shows_component (written : article.html settings = .ok document)
    (listed : page ∈ article.pages) (member : c ∈ page.components) :
    ∃ entry : Entry, entry.component = c ∧ ∃ name front back,
      document = front ++ (entry.node name settings).render ++ back := by
  have placed := placed_of_html written
  obtain ⟨entry, same, name, shown⟩ := Page.shows_component member settings
  obtain ⟨front, back, inside⟩ :=
    (Shows.flatMap (fun page => page.sectionNodes settings) listed shown).within
      (article.surrounds_around settings)
  rw [html_of_placed placed, inside] at written
  refine ⟨entry, same, name, "<!DOCTYPE html>\n" ++ front, back, ?_⟩
  rw [← Except.ok.inj written]
  simp only [String.append_assoc]

/-- The image of a component is shown from the address of its data. -/
theorem shows_image (written : article.html settings = .ok document)
    (listed : page ∈ article.pages) (member : c ∈ page.components) (image : c.isImage = true) :
    c.ShownFrom (c.address settings) document := by
  obtain ⟨entry, rfl, name, front, back, rfl⟩ := shows_component written listed member
  rw [Entry.node, if_pos image]
  exact (entry.component.shownFrom_imageNode name _ settings).within front back

end Article

end ScrollStory
