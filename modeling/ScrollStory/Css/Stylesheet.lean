import ScrollStory.Css.Rule
import ScrollStory.Note
import ScrollStory.Plan.Grouping
import ScrollStory.Render.Settings

/-!
# Stylesheets

The stylesheet of an article has a fixed part, the rules of the element that scrolls, and the rules
of every page. A page has rules for its section, for the elements around the slots of its template,
and for the components in each slot that is used. The first component of a slot decides how all of
them are laid out. A page with a template that is not known has no rules.
-/

namespace ScrollStory

namespace Css

/-- The rules of the element that scrolls. -/
def scrollerRules (name : String) : List Rule :=
  [ ⟨.general "html,\nbody", [("height", "100%"), ("overflow", "hidden")]⟩,
    ⟨.scroller name, [("height", "100vh"), ("overflow-y", "auto"), ("overflow-x", "hidden")]⟩ ]

/-- The text of the rules of the element that scrolls, with a blank line between them. -/
def scrollerText (name : String) : String :=
  "\n".intercalate ((scrollerRules name).map Rule.text)

/-- How components are placed: above each other on a page that is held in place. -/
def placement (pinnable : Bool) : String :=
  if pinnable then "absolute" else "relative"

/-- The rule of a column beside another one. -/
def columnRule (pageId : String) (slot : Slot) (width : String) (gap : String × String) : Rule :=
  ⟨.wrapper pageId slot,
    [("display", "flex"), ("flex-direction", "column"), ("justify-content", "center"),
      ("align-items", "center"), ("position", "relative"), ("width", width), ("height", "100vh"),
      gap]⟩

/-- The rules of a page's section and of the elements around its slots; nothing for a template that
is not known. -/
def layoutRules? (page : Page) : Option (List Rule) :=
  match page.layout.template with
  | .leftRight => some
    [ ⟨.page page.id,
        [("display", "flex"), ("justify-content", "space-around"), ("align-items", "center"),
          ("height", "100vh"), ("padding-left", "40px"), ("padding-right", "40px"),
          ("max-width", "60%"), ("margin-left", "auto"), ("margin-right", "auto")]⟩,
      columnRule page.id .left page.layout.leftWidth ("margin-right", "10px"),
      columnRule page.id .right page.layout.rightWidth ("margin-left", "10px") ]
  | .topBottom => some
    [ ⟨.page page.id,
        [("display", "flex"), ("flex-direction", "column"), ("justify-content", "center"),
          ("align-items", "center"), ("height", "100vh"), ("padding-left", "40px"),
          ("padding-right", "40px")]⟩,
      ⟨.wrapper page.id .top,
        [("display", "flex"), ("justify-content", "center"), ("align-items", "flex-end"),
          ("width", "60%"), ("height", page.layout.topHeight),
          ("background-color", "transparent"), ("position", "relative")]⟩,
      ⟨.wrapper page.id .bottom,
        [("display", "flex"), ("justify-content", "center"), ("align-items", "flex-start"),
          ("width", "60%"), ("height", page.layout.bottomHeight),
          ("background-color", "transparent"), ("position", "relative"),
          ("padding-top", "40px")]⟩ ]
  | .single => some
    [ ⟨.page page.id,
        [("display", "flex"), ("justify-content", "center"), ("align-items", "center"),
          ("height", "100vh"), ("padding-left", "40px"), ("padding-right", "40px")]⟩,
      ⟨.wrapper page.id .center,
        [("display", "flex"), ("flex-direction", "column"), ("justify-content", "center"),
          ("align-items", "center"), ("position", "relative"), ("width", "100%"),
          ("height", "100%")]⟩ ]
  | .other _ => none

/-- The declarations of components in a column. -/
def columnComponent (c : Component) (pinnable : Bool) : List (String × String) :=
  if c.isText then
    [("position", placement pinnable), ("width", "100%"), ("max-width", "500px"),
      ("height", "100%"), ("text-align", "left"), ("opacity", "1"), ("z-index", "1"),
      ("background-color", "transparent"), ("display", "flex"), ("justify-content", "center"),
      ("align-items", "flex-start"), ("flex-direction", "column")]
  else
    [("position", placement pinnable), ("width", "100%"), ("height", "100%"),
      ("display", "flex"), ("justify-content", "center"), ("align-items", "center"),
      ("opacity", "1"), ("flex-direction", "column")]

/-- The declarations of components in a row. -/
def rowComponent (c : Component) (slot : Slot) (pinnable : Bool) : List (String × String) :=
  if c.isText then
    [("text-align", "left"), ("line-height", "1.5"), ("position", placement pinnable),
      ("width", "100%"), ("height", "100%"), ("display", "flex"), ("justify-content", "end"),
      ("flex-direction", "column"), ("padding-top", "25px")]
  else
    [("position", placement pinnable), ("width", "100%"), ("height", "80%"),
      ("display", "flex"),
      ("justify-content", if slot = .bottom then "flex-start" else "flex-end"),
      ("align-items", "center"), ("opacity", "1"), ("flex-direction", "column")]

/-- The rules of components in the only slot of a page. -/
def onlySlotRules (pageId : String) (slot : Slot) (c : Component) (pinnable : Bool) : List Rule :=
  let components := Selector.components pageId slot
  let images := Selector.images pageId slot
  if !c.isImage then
    [⟨components,
      [("justify-content", "center"), ("display", "flex"), ("flex-direction", "column"),
        ("text-align", "left"), ("max-width", "60%")]⟩]
  else
    match pinnable, c.isFullscreen with
    | true, true =>
      [ ⟨images, [("width", "100%"), ("height", "100%"), ("object-fit", "cover")]⟩,
        ⟨components,
          [("position", "absolute"), ("justify-content", "center"), ("align-items", "center"),
            ("display", "flex")]⟩ ]
    | true, false =>
      [ ⟨images, [("max-width", "100%"), ("height", "auto")]⟩,
        ⟨components,
          [("position", "absolute"), ("justify-content", "center"), ("align-items", "center"),
            ("display", "flex"), ("max-width", "60%")]⟩ ]
    | false, true =>
      [ ⟨.page pageId, [("max-width", "100%"), ("height", "100%"), ("padding", "0px")]⟩,
        ⟨components,
          [("justify-content", "center"), ("align-items", "center"), ("height", "100%"),
            ("width", "100%")]⟩,
        ⟨images, [("width", "100%"), ("height", "100%"), ("object-fit", "cover")]⟩ ]
    | false, false =>
      [ ⟨components,
          [("justify-content", "center"), ("align-items", "center"), ("max-width", "60%")]⟩,
        ⟨images, [("width", "100%"), ("height", "100%")]⟩ ]

/-- The rules of the components in one slot of a page. -/
def groupRules (page : Page) (group : Group) : List Rule :=
  match group.entries with
  | [] => []
  | first :: _ =>
    let c := first.component
    let components := Selector.components page.id group.slot
    match page.layout.template with
    | .leftRight => [⟨components, columnComponent c page.pinnable⟩]
    | .topBottom => [⟨components, rowComponent c group.slot page.pinnable⟩]
    | .single => onlySlotRules page.id group.slot c page.pinnable
    | .other _ => []

end Css

namespace Page

/-- The rules of a page. -/
def rules (page : Page) : Except Error (List Css.Rule) := do
  let groups ← page.group
  match Css.layoutRules? page with
  | some rules => return rules ++ groups.flatMap (Css.groupRules page)
  | none => return []

/-- The part of the stylesheet for a page. A page with rules ends with a blank line. -/
def css (page : Page) : Except Error String := do
  let rules ← page.rules
  return if rules.isEmpty then "" else Css.rulesText rules ++ "\n"

/-- The notes on the stylesheet of a page. -/
def cssNotes (page : Page) : List Note :=
  match page.layout.template with
  | .other name => [.noLayoutRules page.id name]
  | _ => []

end Page

namespace Article

/-- The parts of the stylesheet for the pages, one after another. -/
def pagesCss (article : Article) : Except Error String := do
  let parts ← article.pages.mapM Page.css
  return String.join parts

/-- The stylesheet of an article. Its parts are set apart by a blank line, and those without text
are left out. -/
def stylesheet (article : Article) (settings : RenderSettings) : Except Error String := do
  let pages ← article.pagesCss
  let scroller := (settings.scrollerClass.map Css.scrollerText).getD ""
  let parts := [settings.baseStylesheet, scroller, pages].map Text.trim
  return "\n\n".intercalate (parts.filter (!·.isEmpty))

/-- The notes on the stylesheet of an article: those of the pages up to the first that has none. -/
def stylesheetNotes (article : Article) : List Note :=
  (article.pages.takeWhile (·.firstMisplaced?.isNone)).flatMap Page.cssNotes

end Article

end ScrollStory
