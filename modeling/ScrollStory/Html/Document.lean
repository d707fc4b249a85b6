import ScrollStory.Html.Node
import ScrollStory.Plan.Grouping
import ScrollStory.Render.Settings

/-!
# Documents

The HTML document of an article has a section for every page, in it an element around every slot
that is used, and in that the components of the slot.
-/

namespace ScrollStory

open Html (Node)

namespace Component

/-- The element of an image: a figure with the image and its caption. The images of the first frame
of a page are marked. -/
def imageNode (c : Component) (name : String) (firstFrame : Bool) (settings : RenderSettings) :
    Node :=
  let data := (c.image.bind Image.data).getD ""
  let caption :=
    match c.image.bind Image.caption with
    | some caption =>
      if caption.isEmpty then [] else [Node.element "figcaption" [] [.text caption]]
    | none => []
  .element "figure"
    [("class", if firstFrame then name ++ " first-image" else name), ("id", c.domId)]
    (.void "img" [("src", settings.imageSrc data), ("alt", "Image")] true :: caption)

/-- The element of a text. -/
def textNode (c : Component) (name : String) : Node :=
  .element "div" [("class", name), ("id", c.domId)] [.raw (c.contentHtml.getD "")]

end Component

/-- The element of a component of a page. -/
def Entry.node (entry : Entry) (name : String) (settings : RenderSettings) : Node :=
  if entry.component.isImage then
    entry.component.imageNode name (entry.frameIndex = 0) settings
  else entry.component.textNode name

/-- The identifier of the element around a slot. -/
def Page.slotDomId (page : Page) (slot : Slot) : String :=
  page.domId ++ "-" ++ slot.name

/-- The lines of a slot. -/
def Group.nodes (group : Group) (page : Page) (settings : RenderSettings) : List Node :=
  Node.block 6 "div" [("id", page.slotDomId group.slot)]
    (group.entries.flatMap fun entry =>
      Node.line 8 (entry.node (page.slotDomId group.slot ++ "-component") settings))

namespace Page

/-- The lines of a page. -/
def nodes (page : Page) (settings : RenderSettings) : Except Error (List Node) := do
  let groups ← page.group
  return Node.block 4 "section" [("id", page.domId)]
    (groups.flatMap fun group => group.nodes page settings)

/-- The HTML of a page. -/
def html (page : Page) (settings : RenderSettings) : Except Error String := do
  let nodes ← page.nodes settings
  return Node.renderAll nodes

end Page

namespace Article

/-- The head of a document. -/
def headNodes (article : Article) (settings : RenderSettings) : List Node :=
  Node.block 0 "head" [] <|
    Node.line 2 (.void "meta" [("charset", "UTF-8")] false) ++
    Node.line 2
      (.void "meta"
        [("name", "viewport"), ("content", "width=device-width, initial-scale=1.0")] false) ++
    Node.line 2 (.element "title" [] [.text (settings.titleFor article.title)]) ++
    Node.line 2
      (.void "link" [("rel", "stylesheet"), ("href", settings.stylesheetHref)] false)

/-- A line that loads a script. -/
def scriptNodes (src : String) : List Node :=
  Node.line 2 (.element "script" [("src", src)] [])

/-- The pages of a document, within the element that scrolls if there is one. -/
def scrollNodes (pages : List Node) (settings : RenderSettings) : List Node :=
  match settings.scrollerClass with
  | some name => Node.block 2 "div" [("class", name)] pages
  | none => pages

/-- The nodes of a document. -/
def nodes (article : Article) (settings : RenderSettings) : Except Error (List Node) := do
  let pages ← article.pages.mapM (·.nodes settings)
  return Node.block 0 "html" [("lang", "en")] <|
    article.headNodes settings ++
    Node.block 0 "body" []
      (scrollNodes pages.flatten settings ++
        settings.libraryScripts.flatMap scriptNodes ++
        scriptNodes settings.scriptHref)

/-- The document of an article. -/
def html (article : Article) (settings : RenderSettings) : Except Error String := do
  let nodes ← article.nodes settings
  return "<!DOCTYPE html>\n" ++ Node.renderAll nodes

end Article

end ScrollStory
