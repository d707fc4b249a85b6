import ScrollStory.Json.Value
import ScrollStory.Plan.Basic

/-!
# Plans as JSON values

The value of a plan holds all of its fields in a fixed order. A page without a pin has `null` for
it.
-/

namespace ScrollStory

open Json (Value)

/-- The value of a window. -/
def Timing.toJson (timing : Timing) : Value :=
  .object [
    ("start_length", .nat timing.startLength),
    ("end_length", .nat timing.endLength)]

/-- The value of an animation of a component. -/
def AnimationScript.toJson (script : AnimationScript) : Value :=
  .object [
    ("behavior", .string script.behavior.name),
    ("initially_visible", .bool script.initiallyVisible),
    ("segment_seconds", .number (.decimal script.segmentSeconds))]

/-- The value of a binding. -/
def Binding.toJson (binding : Binding) : Value :=
  .object [
    ("component_id", .string binding.componentId),
    ("page_id", .string binding.pageId),
    ("frame_id", .string binding.frameId),
    ("timing", binding.timing.toJson),
    ("script", binding.script.toJson)]

/-- The value of a pin. -/
def Pin.toJson (pin : Pin) : Value :=
  .object [
    ("page_id", .string pin.pageId),
    ("steps", .nat pin.steps),
    ("step_percent", .nat pin.stepPercent)]

/-- The value of the summary of a slot. -/
def SlotSummary.toJson (summary : SlotSummary) : Value :=
  .object [
    ("position", .string summary.slot.name),
    ("component_ids", .array (summary.componentIds.map .string))]

/-- The value of the plan of a page. -/
def PagePlan.toJson (plan : PagePlan) : Value :=
  .object [
    ("page_id", .string plan.pageId),
    ("pinnable", .bool plan.pinnable),
    ("biggest_group_size", .nat plan.biggestGroupSize),
    ("step_percent", .nat plan.stepPercent),
    ("pin_step_percent", .nat plan.pinStepPercent),
    ("slots", .array (plan.slots.map SlotSummary.toJson)),
    ("bindings", .array (plan.bindings.map Binding.toJson)),
    ("pin", match plan.pin with | some pin => pin.toJson | none => .null)]

/-- The value of a plan. -/
def Plan.toJson (plan : Plan) : Value :=
  .object [
    ("article_id", .string plan.articleId),
    ("trace_callbacks", .bool plan.traceCallbacks),
    ("pages", .array (plan.pages.map PagePlan.toJson))]

end ScrollStory
