import ScrollStory.Plan.Behavior
import ScrollStory.Plan.Grouping
import ScrollStory.Plan.Timing

/-!
# Plans

The plan of an article says for every page which components are animated, when and how, and how long
the page is held in place.
-/

namespace ScrollStory

/-- A component of a page with its window and its animation. -/
structure Binding where
  componentId : String
  pageId : String
  frameId : String
  timing : Timing
  script : AnimationScript
  deriving DecidableEq, Repr

/-- The identifier of the element that a binding animates. -/
def Binding.domId (binding : Binding) : String := "comp-" ++ binding.componentId

/-- How a page is held in place. -/
structure Pin where
  pageId : String
  /-- The number of steps, which is the length of the longest slot. -/
  steps : Nat
  /-- The scroll distance of one step, in percent. -/
  stepPercent : Nat
  deriving DecidableEq, Repr

/-- The scroll distance for which a page is held, in percent. -/
def Pin.distance (pin : Pin) : Nat := pin.steps * pin.stepPercent

/-- The plan of a page. -/
structure PagePlan where
  pageId : String
  pinnable : Bool
  biggestGroupSize : Nat
  stepPercent : Nat
  pinStepPercent : Nat
  slots : List SlotSummary
  bindings : List Binding
  /-- A page without components, or one that is not held in place, has no pin. -/
  pin : Option Pin
  deriving DecidableEq, Repr

namespace PagePlan

/-- The number of bindings of a page. -/
def triggerCount (plan : PagePlan) : Nat := plan.bindings.length

/-- The binding of a component. -/
def binding? (plan : PagePlan) (componentId : String) : Option Binding :=
  plan.bindings.find? (·.componentId = componentId)

end PagePlan

/-- The plan of an article. -/
structure Plan where
  articleId : String
  traceCallbacks : Bool
  pages : List PagePlan
  deriving DecidableEq, Repr

namespace Plan

/-- The plan of a page. -/
def page? (plan : Plan) (pageId : String) : Option PagePlan :=
  plan.pages.find? (·.pageId = pageId)

/-- The binding of a component, on whatever page it is. -/
def binding? (plan : Plan) (componentId : String) : Option Binding :=
  plan.pages.findSome? (·.binding? componentId)

/-- The number of bindings of an article. -/
def triggerCount (plan : Plan) : Nat :=
  (plan.pages.flatMap PagePlan.bindings).length

/-- The number of pages that are held in place. -/
def pinCount (plan : Plan) : Nat :=
  plan.pages.countP (·.pin.isSome)

end Plan

end ScrollStory
