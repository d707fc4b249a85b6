import ScrollStory.Note
import ScrollStory.Plan.Basic
import ScrollStory.Plan.Settings

/-!
# Compiling articles

A page is compiled by grouping its components and giving each of them a window and an animation. The
transitions of all pages are resolved, but only pages that are held in place get bindings and a pin.
The notes on a compilation stand beside its result: every page is compiled, also behind a page with
an error.
-/

namespace ScrollStory

/-- The animation of a component. -/
def Component.script (c : Component) (visible : Bool) (settings : CompileSettings) :
    Except Error AnimationScript :=
  match Behavior.ofName? c.animation.transition with
  | none => .error (.unknownTransition c.id c.animation.transition)
  | some behavior => .ok ⟨behavior, visible, settings.segmentSeconds c.animation.duration⟩

/-- The note on a component whose duration is not used. -/
def Component.durationNotes (c : Component) (settings : CompileSettings) : List Note :=
  let duration := c.animation.duration
  if settings.durationMode = .fixed ∧ duration ≠ 0 ∧
      duration ≠ CompileSettings.usualMilliseconds then
    [.durationIgnored c.id duration CompileSettings.usualSeconds]
  else []

/-- The binding of the component at `index` of a group. Only the components of the first frame of
the first page are shown at first. -/
def Entry.bind (entry : Entry) (page : Page) (pageIndex : Nat) (settings : CompileSettings)
    (index length biggest : Nat) : Except Error Binding := do
  let script ← entry.component.script (pageIndex = 0 ∧ entry.frameIndex = 0) settings
  return {
    componentId := entry.component.id
    pageId := page.id
    frameId := entry.frameId
    timing := .forSlot index length biggest
    script := script }

/-- The bindings of a group. -/
def Group.bind (group : Group) (page : Page) (pageIndex : Nat) (settings : CompileSettings)
    (biggest : Nat) : Except Error (List Binding) :=
  group.entries.zipIdx.mapM fun (entry, index) =>
    entry.bind page pageIndex settings index group.entries.length biggest

namespace Page

/-- The plan of a page. -/
def compile (page : Page) (pageIndex : Nat) (settings : CompileSettings) :
    Except Error PagePlan := do
  let groups ← page.group
  let biggest := Group.biggest groups
  let bindings ← groups.mapM fun group => group.bind page pageIndex settings biggest
  let pinStepPercent := settings.pagePinStep page.stepPercent
  return {
    pageId := page.id
    pinnable := page.pinnable
    biggestGroupSize := biggest
    stepPercent := settings.pageStep page.stepPercent
    pinStepPercent := pinStepPercent
    slots := groups.map Group.summary
    bindings := if page.pinnable then bindings.flatten else []
    pin := if page.pinnable ∧ 0 < biggest then some ⟨page.id, biggest, pinStepPercent⟩ else none }

/-- The notes on compiling a page: one for every unused duration up to the first transition that is
not known, and one on the plan. -/
def compileNotes (page : Page) (pageIndex : Nat) (settings : CompileSettings) : List Note :=
  match page.group with
  | .error _ => []
  | .ok groups =>
    let components := (groups.flatMap Group.entries).map Entry.component
    (components.takeWhile fun c =>
        (Behavior.ofName? c.animation.transition).isSome).flatMap
      (·.durationNotes settings) ++
    match page.compile pageIndex settings with
    | .error _ => []
    | .ok plan =>
      [.compiled page.id groups.length plan.triggerCount ((plan.pin.map Pin.distance).getD 0)]

end Page

namespace Article

/-- The plan of an article. -/
def compile (article : Article) (settings : CompileSettings) : Except Error Plan := do
  let pages ← article.pages.zipIdx.mapM fun (page, index) => page.compile index settings
  return ⟨article.id, settings.traceCallbacks, pages⟩

/-- The notes on compiling an article. -/
def compileNotes (article : Article) (settings : CompileSettings) : List Note :=
  article.pages.zipIdx.flatMap fun (page, index) => page.compileNotes index settings

end Article

end ScrollStory
