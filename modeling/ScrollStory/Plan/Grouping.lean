import ScrollStory.Article.Basic
import ScrollStory.Error

/-!
# The story of every slot

The components of a page are grouped by slot. Groups come in the canonical order of slots, and in
each group the components keep the order of their frames.
-/

namespace ScrollStory

/-- A component with the frame that contains it. -/
structure Entry where
  component : Component
  frameIndex : Nat
  frameId : String
  deriving DecidableEq, Repr

/-- The components of one slot. -/
structure Group where
  slot : Slot
  entries : List Entry
  deriving DecidableEq, Repr

namespace Page

/-- The components of a page with their frames, in order. -/
def entries (page : Page) : List Entry :=
  page.frames.zipIdx.flatMap fun (frame, index) =>
    frame.components.map fun component => ⟨component, index, frame.id⟩

/-- The components of one slot of a page. -/
def slotEntries (page : Page) (slot : Slot) : List Entry :=
  page.entries.filter (·.component.slot = slot)

/-- The groups of a page, its slots without components left out. -/
def groups (page : Page) : List Group :=
  (Slot.all.map fun slot => ⟨slot, page.slotEntries slot⟩).filter (!·.entries.isEmpty)

/-- The first component of a page that stands in a slot its template does not have. -/
def firstMisplaced? (page : Page) : Option Component :=
  page.components.find? fun c => !page.layout.template.accepts c.slot

/-- The groups of a page, unless a component is misplaced. -/
def group (page : Page) : Except Error (List Group) :=
  match page.firstMisplaced? with
  | some c => .error (.invalidPosition c.id c.slot.name page.layout.template.name)
  | none => .ok page.groups

end Page

namespace Group

/-- The number of components in some groups. -/
def componentCount (groups : List Group) : Nat :=
  (groups.flatMap Group.entries).length

/-- The number of components in the longest of some groups. -/
def biggest (groups : List Group) : Nat :=
  (groups.map fun group => group.entries.length).foldr max 0

/-- The group of a slot. -/
def find? (groups : List Group) (slot : Slot) : Option Group :=
  List.find? (·.slot = slot) groups

end Group

/-- The identifiers of the components of one slot. -/
structure SlotSummary where
  slot : Slot
  componentIds : List String
  deriving DecidableEq, Repr

/-- The summary of a group. -/
def Group.summary (group : Group) : SlotSummary where
  slot := group.slot
  componentIds := group.entries.map fun entry => entry.component.id

end ScrollStory
