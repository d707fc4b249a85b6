import ScrollStory.Article.Basic
import ScrollStory.Json.Record

/-!
# Reading articles

Readers for the parts of an article in a JSON text. `enclosing` is the number of lists and objects
around the value that is read.
-/

namespace ScrollStory

open Json (Read Value Fault)

/-- The slots by their names. -/
def Slot.table : List (String × Slot) :=
  Slot.all.map fun slot => (slot.name, slot)

/-- Reads the name of a slot. -/
def Slot.read : Read Slot := Read.oneOf Slot.table

/-- The types of components by their names. -/
def ComponentType.table : List (String × ComponentType) :=
  [(text.name, text), (image.name, image)]

/-- Reads the name of a type of components. -/
def ComponentType.read : Read ComponentType := Read.oneOf ComponentType.table

/-- Reads the name of a template. -/
def Template.read : Read Template := Template.ofName <$> Read.string

namespace Layout

/-- The fields of a layout that have been read. -/
structure Draft where
  template : Option Template := none
  heightTop : Option (Option String) := none
  widthLeft : Option (Option String) := none
  heightBottom : Option (Option String) := none
  widthRight : Option (Option String) := none

/-- Reads a member of a layout. -/
def Draft.member (name : String) (d : Draft) : Read Draft := do
  match name with
  | "template" => return { d with template := ← Read.field name d.template Template.read }
  | "heightTop" =>
    return { d with heightTop := some (← Read.field name d.heightTop (.optional .string)) }
  | "widthLeft" =>
    return { d with widthLeft := some (← Read.field name d.widthLeft (.optional .string)) }
  | "heightBottom" =>
    return { d with heightBottom := some (← Read.field name d.heightBottom (.optional .string)) }
  | "widthRight" =>
    return { d with widthRight := some (← Read.field name d.widthRight (.optional .string)) }
  | _ =>
    Read.skipMember
    return d

/-- The layout of a complete draft. -/
def Draft.complete (d : Draft) : Read Layout :=
  return {
    template := ← Read.required "template" d.template
    heightTop := d.heightTop.join
    widthLeft := d.widthLeft.join
    heightBottom := d.heightBottom.join
    widthRight := d.widthRight.join }

/-- What a layout is called in messages. -/
def wanted : String := "struct Layout"

/-- Reads a layout. -/
def read : Read Layout :=
  Read.record wanted
    (do (← Read.draft Draft.member {}).complete)
    (return {
      template := ← Read.itemAt wanted 5 0 Template.read
      heightTop := ← Read.itemOr 1 none (.optional .string)
      widthLeft := ← Read.itemOr 2 none (.optional .string)
      heightBottom := ← Read.itemOr 3 none (.optional .string)
      widthRight := ← Read.itemOr 4 none (.optional .string) })

end Layout

namespace Image

/-- The fields of an image that have been read. -/
structure Draft where
  data : Option (Option String) := none
  caption : Option (Option String) := none
  fullscreen : Option Bool := none

/-- Reads a member of an image. -/
def Draft.member (name : String) (d : Draft) : Read Draft := do
  match name with
  | "data" => return { d with data := some (← Read.field name d.data (.optional .string)) }
  | "caption" =>
    return { d with caption := some (← Read.field name d.caption (.optional .string)) }
  | "isDisplayFullscreen" =>
    return { d with fullscreen := ← Read.field name d.fullscreen .bool }
  | _ =>
    Read.skipMember
    return d

/-- The image of a complete draft. Every field has a default. -/
def Draft.complete (d : Draft) : Image where
  data := d.data.join
  caption := d.caption.join
  fullscreen := d.fullscreen.getD false

/-- Reads an image. -/
def read : Read Image :=
  Read.record "struct Image"
    (Draft.complete <$> Read.draft Draft.member {})
    (return {
      data := ← Read.itemOr 0 none (.optional .string)
      caption := ← Read.itemOr 1 none (.optional .string)
      fullscreen := ← Read.itemOr 2 false .bool })

end Image

namespace Animation

/-- The values of a member of an object: `none` if the key is there more than once, and nothing
inside if it is not there. -/
def member? (members : List (String × Value)) (name : String) : Option (Option Value) :=
  match members.filter (·.1 = name) with
  | [] => some none
  | [(_, value)] => some (some value)
  | _ => none

/-- The transition of an animation by its member. It must be there. -/
def transition? : Option Value → Option String
  | some (.string s) => some s
  | _ => none

/-- The duration of an animation by its member, zero if it is not there. -/
def duration? : Option Value → Option Nat
  | none => some 0
  | some (.number (.whole n)) => if 0 ≤ n ∧ n < twoTo 32 then some n.toNat else none
  | some _ => none

/-- Whether an animation pins, by its member; not if it is not there. -/
def pin? : Option Value → Option Bool
  | none => some false
  | some (.bool b) => some b
  | some _ => none

/-- The section that an animation pins by its member, which may be missing or `null`. -/
def pinnedSectionId? : Option Value → Option (Option String)
  | none | some .null => some none
  | some (.string s) => some (some s)
  | some _ => none

/-- The animation that a value describes: the name of a transition, or an object. -/
def ofValue? : Value → Option Animation
  | .string transition => some { transition := transition }
  | .object members => do
    let transition ← (member? members "transition").bind transition?
    let duration ← (member? members "duration").bind duration?
    let pin ← (member? members "pin").bind pin?
    let pinnedSectionId ← (member? members "pinnedSectionId").bind pinnedSectionId?
    return ⟨transition, duration, pin, pinnedSectionId⟩
  | _ => none

/-- Reads an animation. Its value is read as a whole before it is looked at. -/
def read (enclosing : Nat) : Read Animation := do
  match ofValue? (← Value.read enclosing) with
  | some animation => return animation
  | none => throw (.noVariant "AnimationWire")

end Animation

namespace Component

/-- The fields of a component that have been read. -/
structure Draft where
  id : Option String := none
  type : Option ComponentType := none
  slot : Option Slot := none
  animation : Option Animation := none
  contentHtml : Option (Option String) := none
  image : Option (Option Image) := none

/-- Reads a member of a component. -/
def Draft.member (enclosing : Nat) (name : String) (d : Draft) : Read Draft := do
  match name with
  | "id" => return { d with id := ← Read.field name d.id .string }
  | "type" => return { d with type := ← Read.field name d.type ComponentType.read }
  | "position" => return { d with slot := ← Read.field name d.slot Slot.read }
  | "animation" =>
    return { d with animation := ← Read.field name d.animation (Animation.read (enclosing + 1)) }
  | "contentHtml" =>
    return { d with contentHtml := some (← Read.field name d.contentHtml (.optional .string)) }
  | "image" => return { d with image := some (← Read.field name d.image (.optional Image.read)) }
  | _ =>
    Read.skipMember
    return d

/-- The component of a complete draft. -/
def Draft.complete (d : Draft) : Read Component :=
  return {
    id := ← Read.required "id" d.id
    type := ← Read.required "type" d.type
    slot := ← Read.required "position" d.slot
    animation := ← Read.required "animation" d.animation
    contentHtml := d.contentHtml.join
    image := d.image.join }

/-- What a component is called in messages. -/
def wanted : String := "struct Component"

/-- Reads a component. -/
def read (enclosing : Nat) : Read Component :=
  Read.record wanted
    (do (← Read.draft (Draft.member enclosing) {}).complete)
    (return {
      id := ← Read.itemAt wanted 6 0 .string
      type := ← Read.itemAt wanted 6 1 ComponentType.read
      slot := ← Read.itemAt wanted 6 2 Slot.read
      animation := ← Read.itemAt wanted 6 3 (Animation.read (enclosing + 1))
      contentHtml := ← Read.itemOr 4 none (.optional .string)
      image := ← Read.itemOr 5 none (.optional Image.read) })

end Component

namespace Frame

/-- The fields of a frame that have been read. -/
structure Draft where
  id : Option String := none
  components : Option (List Component) := none

/-- Reads a member of a frame. -/
def Draft.member (enclosing : Nat) (name : String) (d : Draft) : Read Draft := do
  match name with
  | "id" => return { d with id := ← Read.field name d.id .string }
  | "components" =>
    return { d with
      components := ← Read.field name d.components (.list (Component.read (enclosing + 2))) }
  | _ =>
    Read.skipMember
    return d

/-- The frame of a complete draft. -/
def Draft.complete (d : Draft) : Read Frame :=
  return {
    id := ← Read.required "id" d.id
    components := ← Read.required "components" d.components }

/-- What a frame is called in messages. -/
def wanted : String := "struct Frame"

/-- Reads a frame. -/
def read (enclosing : Nat) : Read Frame :=
  Read.record wanted
    (do (← Read.draft (Draft.member enclosing) {}).complete)
    (return {
      id := ← Read.itemAt wanted 2 0 .string
      components := ← Read.itemAt wanted 2 1 (.list (Component.read (enclosing + 2))) })

end Frame

namespace Page

/-- The fields of a page that have been read. -/
structure Draft where
  id : Option String := none
  pinnable : Option Bool := none
  layout : Option Layout := none
  frames : Option (List Frame) := none
  stepPercent : Option (Option Nat) := none

/-- Reads a member of a page. -/
def Draft.member (enclosing : Nat) (name : String) (d : Draft) : Read Draft := do
  match name with
  | "id" => return { d with id := ← Read.field name d.id .string }
  | "pinnable" => return { d with pinnable := ← Read.field name d.pinnable .bool }
  | "layout" => return { d with layout := ← Read.field name d.layout Layout.read }
  | "frames" =>
    return { d with frames := ← Read.field name d.frames (.list (Frame.read (enclosing + 2))) }
  | "stepPercent" =>
    return { d with stepPercent := some (← Read.field name d.stepPercent (.optional .word)) }
  | _ =>
    Read.skipMember
    return d

/-- The page of a complete draft. -/
def Draft.complete (d : Draft) : Read Page :=
  return {
    id := ← Read.required "id" d.id
    pinnable := ← Read.required "pinnable" d.pinnable
    layout := ← Read.required "layout" d.layout
    frames := ← Read.required "frames" d.frames
    stepPercent := d.stepPercent.join }

/-- What a page is called in messages. -/
def wanted : String := "struct Page"

/-- Reads a page. -/
def read (enclosing : Nat) : Read Page :=
  Read.record wanted
    (do (← Read.draft (Draft.member enclosing) {}).complete)
    (return {
      id := ← Read.itemAt wanted 5 0 .string
      pinnable := ← Read.itemAt wanted 5 1 .bool
      layout := ← Read.itemAt wanted 5 2 Layout.read
      frames := ← Read.itemAt wanted 5 3 (.list (Frame.read (enclosing + 2)))
      stepPercent := ← Read.itemOr 4 none (.optional .word) })

end Page

namespace Article

/-- The fields of an article that have been read. -/
structure Draft where
  id : Option String := none
  title : Option String := none
  pages : Option (List Page) := none

/-- Reads a member of an article. -/
def Draft.member (name : String) (d : Draft) : Read Draft := do
  match name with
  | "articleId" => return { d with id := ← Read.field name d.id .string }
  | "title" => return { d with title := ← Read.field name d.title .string }
  | "pages" => return { d with pages := ← Read.field name d.pages (.list (Page.read 2)) }
  | _ =>
    Read.skipMember
    return d

/-- The article of a complete draft. -/
def Draft.complete (d : Draft) : Read Article :=
  return {
    id := ← Read.required "articleId" d.id
    title := d.title.getD ""
    pages := ← Read.required "pages" d.pages }

/-- What an article is called in messages. -/
def wanted : String := "struct Article"

/-- Reads an article. -/
def read : Read Article :=
  Read.record wanted
    (do (← Read.draft Draft.member {}).complete)
    (return {
      id := ← Read.itemAt wanted 3 0 .string
      title := ← Read.itemOr 1 "" .string
      pages := ← Read.itemAt wanted 3 2 (.list (Page.read 2)) })

end Article

end ScrollStory
