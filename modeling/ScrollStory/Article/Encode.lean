import ScrollStory.Article.Basic
import ScrollStory.Json.Value

/-!
# Articles as JSON values

The value of an article holds its fields in a fixed order. The membership of a component is not part
of it. The sizes of a layout and the data of an image are written even where they are absent, and
the other optional fields are left out.
-/

namespace ScrollStory

open Json (Value)

/-- An optional member, which is left out where it is absent. -/
def optionalMember {α : Type} (key : String) (toJson : α → Value) (value : Option α) :
    List (String × Value) :=
  match value with
  | some a => [(key, toJson a)]
  | none => []

/-- The value of a layout. -/
def Layout.toJson (layout : Layout) : Value :=
  .object [
    ("template", .string layout.template.name),
    ("heightTop", .optionalString layout.heightTop),
    ("widthLeft", .optionalString layout.widthLeft),
    ("heightBottom", .optionalString layout.heightBottom),
    ("widthRight", .optionalString layout.widthRight)]

/-- The value of an animation. -/
def Animation.toJson (animation : Animation) : Value :=
  .object <|
    [("transition", .string animation.transition),
      ("duration", .nat animation.duration),
      ("pin", .bool animation.pin)] ++
    optionalMember "pinnedSectionId" .string animation.pinnedSectionId

/-- The value of an image. -/
def Image.toJson (image : Image) : Value :=
  .object <|
    [("data", .optionalString image.data)] ++
    optionalMember "caption" .string image.caption ++
    [("isDisplayFullscreen", .bool image.fullscreen)]

/-- The value of a component. -/
def Component.toJson (c : Component) : Value :=
  .object <|
    [("id", .string c.id),
      ("type", .string c.type.name),
      ("position", .string c.slot.name),
      ("animation", c.animation.toJson)] ++
    optionalMember "contentHtml" .string c.contentHtml ++
    optionalMember "image" Image.toJson c.image

/-- The value of a frame. -/
def Frame.toJson (frame : Frame) : Value :=
  .object [
    ("id", .string frame.id),
    ("components", .array (frame.components.map Component.toJson))]

/-- The value of a page. -/
def Page.toJson (page : Page) : Value :=
  .object <|
    [("id", .string page.id),
      ("pinnable", .bool page.pinnable),
      ("layout", page.layout.toJson),
      ("frames", .array (page.frames.map Frame.toJson))] ++
    optionalMember "stepPercent" .nat page.stepPercent

/-- The value of an article. -/
def Article.toJson (article : Article) : Value :=
  .object [
    ("articleId", .string article.id),
    ("title", .string article.title),
    ("pages", .array (article.pages.map Page.toJson))]

end ScrollStory
