/-!
# Articles

An article is a list of pages. A page has a layout and a list of frames, and a frame places
components into the slots of the layout. A component is a text or an image that enters and leaves
with an animation.
-/

namespace ScrollStory

/-- A place in a page for components. -/
inductive Slot where
  | left
  | right
  | top
  | bottom
  | center
  deriving DecidableEq, Repr

namespace Slot

/-- All slots, in their canonical order. -/
def all : List Slot := [left, right, top, bottom, center]

theorem mem_all (slot : Slot) : slot ∈ all := by
  cases slot <;> simp [all]

/-- The name of a slot. -/
def name : Slot → String
  | left => "left"
  | right => "right"
  | top => "top"
  | bottom => "bottom"
  | center => "center"

end Slot

/-- The template of a layout: one of three that are known, or another one by its name. -/
inductive Template where
  | leftRight
  | topBottom
  | single
  | other (name : String)
  deriving DecidableEq, Repr

namespace Template

/-- The name of a template. -/
def name : Template → String
  | leftRight => "left-right"
  | topBottom => "top-bottom"
  | single => "single"
  | other name => name

/-- The template with a given name. -/
def ofName (name : String) : Template :=
  if name = "left-right" then leftRight
  else if name = "top-bottom" then topBottom
  else if name = "single" then single
  else other name

/-- The slots of a known template. -/
def slots? : Template → Option (List Slot)
  | leftRight => some [.left, .right]
  | topBottom => some [.top, .bottom]
  | single => some [.center]
  | other _ => none

/-- Whether components may be placed into a slot. A template that is not known takes all of them. -/
def accepts (template : Template) (slot : Slot) : Bool :=
  match template.slots? with
  | some slots => slots.contains slot
  | none => true

end Template

/-- The layout of a page: its template, and sizes that replace the usual ones. -/
structure Layout where
  template : Template
  heightTop : Option String := none
  widthLeft : Option String := none
  heightBottom : Option String := none
  widthRight : Option String := none
  deriving DecidableEq, Repr

namespace Layout

/-- The height of the top slot. -/
def topHeight (layout : Layout) : String := layout.heightTop.getD "20%"

/-- The width of the left slot. -/
def leftWidth (layout : Layout) : String := layout.widthLeft.getD "50%"

/-- The height of the bottom slot. -/
def bottomHeight (layout : Layout) : String := layout.heightBottom.getD "80%"

/-- The width of the right slot. -/
def rightWidth (layout : Layout) : String := layout.widthRight.getD "50%"

end Layout

/-- How a component enters and leaves. -/
structure Animation where
  transition : String
  /-- The wanted duration in milliseconds, zero for none. -/
  duration : Nat := 0
  pin : Bool := false
  pinnedSectionId : Option String := none
  deriving DecidableEq, Repr

/-- The image of a component. -/
structure Image where
  /-- The file name, path or address of the image. -/
  data : Option String := none
  caption : Option String := none
  fullscreen : Bool := false
  deriving DecidableEq, Repr

/-- The two types of components. -/
inductive ComponentType where
  | text
  | image
  deriving DecidableEq, Repr

/-- The name of a type of components. -/
def ComponentType.name : ComponentType → String
  | text => "text"
  | image => "image"

/-- Where in its article a component stands. -/
structure Membership where
  pageId : String := ""
  pageIndex : Nat := 0
  frameId : String := ""
  frameIndex : Nat := 0
  deriving DecidableEq, Repr

/-- A text or an image in a slot. -/
structure Component where
  id : String
  type : ComponentType
  slot : Slot
  animation : Animation
  contentHtml : Option String := none
  image : Option Image := none
  /-- Not part of the text of an article. -/
  membership : Membership := {}
  deriving DecidableEq, Repr

namespace Component

/-- A text component. -/
def ofText (id : String) (slot : Slot) (transition contentHtml : String) : Component where
  id := id
  type := .text
  slot := slot
  animation := { transition := transition }
  contentHtml := some contentHtml

/-- An image component. -/
def ofImage (id : String) (slot : Slot) (transition : String) (image : Image) : Component where
  id := id
  type := .image
  slot := slot
  animation := { transition := transition }
  image := some image

/-- Whether a component is a text. -/
def isText (c : Component) : Bool := c.type = .text

/-- Whether a component is an image. -/
def isImage (c : Component) : Bool := c.type = .image

/-- Whether a component carries an image that fills the screen. -/
def isFullscreen (c : Component) : Bool :=
  match c.image with
  | some image => image.fullscreen
  | none => false

/-- The identifier of the element of a component. -/
def domId (c : Component) : String := "comp-" ++ c.id

end Component

/-- One step of a page's story. -/
structure Frame where
  id : String
  components : List Component := []
  deriving DecidableEq, Repr

/-- A frame with one component more. -/
def Frame.addComponent (frame : Frame) (component : Component) : Frame :=
  { frame with components := frame.components ++ [component] }

/-- A page of an article. -/
structure Page where
  id : String
  /-- Whether the page is held in place while its components come and go. -/
  pinnable : Bool
  layout : Layout
  frames : List Frame := []
  /-- The scroll distance of one step, in percent of the screen height. -/
  stepPercent : Option Nat := none
  deriving DecidableEq, Repr

namespace Page

/-- A page with one frame more. -/
def addFrame (page : Page) (frame : Frame) : Page :=
  { page with frames := page.frames ++ [frame] }

/-- A page with a scroll distance of its own. -/
def withStepPercent (page : Page) (percent : Nat) : Page :=
  { page with stepPercent := some percent }

/-- The components of a page in the order of its frames. -/
def components (page : Page) : List Component :=
  page.frames.flatMap Frame.components

/-- The number of components of a page. -/
def componentCount (page : Page) : Nat :=
  page.components.length

/-- Whether a page has no components. -/
def isEmpty (page : Page) : Bool := page.componentCount = 0

/-- The identifier of the element of a page. -/
def domId (page : Page) : String := "page-" ++ page.id

end Page

/-- An article. -/
structure Article where
  id : String
  title : String := ""
  pages : List Page := []
  deriving DecidableEq, Repr

namespace Article

/-- An article with one page more. -/
def addPage (article : Article) (page : Page) : Article :=
  { article with pages := article.pages ++ [page] }

/-- Whether an article has no pages. -/
def isEmpty (article : Article) : Bool := article.pages.isEmpty

/-- The components of an article in the order of its pages. -/
def components (article : Article) : List Component :=
  article.pages.flatMap Page.components

/-- The number of components of an article. -/
def componentCount (article : Article) : Nat :=
  article.components.length

/-- The article with every component's membership set to where the component stands. -/
def stamp (article : Article) : Article :=
  { article with
    pages := article.pages.mapIdx fun i page =>
      { page with
        frames := page.frames.mapIdx fun j frame =>
          { frame with
            components := frame.components.map fun component =>
              { component with membership := ⟨page.id, i, frame.id, j⟩ } } } }

end Article

end ScrollStory
