import ScrollStory.Decimal.Shortest
import ScrollStory.Plan.Basic
import ScrollStory.Render.Settings
import ScrollStory.Script.Block

/-!
# Animation programs

The program of an article has a fixed part, and for every page the blocks of its bindings and of its
pin. A component that overlaps the others does nothing when it is left going forward.
-/

namespace ScrollStory

open Script (Tween Statement Setting Block)

namespace AnimationScript

/-- Whole numbers as the values of properties. -/
def numeric (properties : List (String × Int)) : List (String × Decimal) :=
  properties.map fun (name, value) => (name, .ofInt value)

/-- The stacking level of a component that is in front, or is not. -/
def stacking (script : AnimationScript) (level : Int) : List (String × Decimal) :=
  if script.behavior.comesToFront then [("zIndex", .ofInt level)] else []

/-- A tween over the duration of a change. -/
def move (script : AnimationScript) (target : String) (properties : List (String × Int))
    (level : Int) : Tween :=
  ⟨.move, target,
    numeric properties ++
      ("duration", script.segmentSeconds.tiesAway) :: script.stacking level⟩

/-- The tween that puts an element into its first state. -/
def start (script : AnimationScript) (target : String) : Tween :=
  ⟨.set, target,
    numeric (if script.initiallyVisible then script.behavior.shown else script.behavior.hidden)⟩

/-- The tween of an element at a moment, if anything happens then. -/
def tween? (script : AnimationScript) (target : String) : Phase → Option Tween
  | .init => some (script.start target)
  | .enter | .enterBack => some (script.move target script.behavior.shown 1000)
  | .exit =>
    if script.behavior = .overlap then none
    else some (script.move target script.behavior.hidden 0)
  | .exitBack => some (script.move target script.behavior.hidden 0)

/-- The statement for an element at a moment, empty if nothing happens then. -/
def fragment (script : AnimationScript) (target : String) (phase : Phase) : String :=
  ((script.tween? target phase).map Tween.text).getD ""

end AnimationScript

/-- A scroll distance in percent. -/
def percentText (n : Nat) : String := (Decimal.ofInt n).plain ++ "%"

/-- The setting for the element that scrolls. -/
def scrollerSetting (scroller : Option String) : List (String × Setting) :=
  match scroller with
  | some selector => [("scroller", .quoted selector)]
  | none => []

namespace Binding

/-- The callback of a binding at a moment. -/
def callback (binding : Binding) (trace : Bool) (label : String) (phase : Phase) : Setting :=
  let report :=
    if trace then
      [Statement.log (label ++ " " ++ binding.pageId ++ "-" ++ binding.frameId)]
    else []
  .callback (report ++ ((binding.script.tween? binding.domId phase).map Statement.tween).toList)

/-- The block of a binding. -/
def block (binding : Binding) (stepPercent : Nat) (scroller : Option String) (trace : Bool) :
    Block :=
  .trigger (binding.script.start binding.domId) <|
    [ ("trigger", .quoted ("#page-" ++ binding.pageId)),
      ("start", .thunk ("top+=" ++ percentText (binding.timing.startOffset stepPercent) ++ " top")),
      ("end", .thunk ("+=" ++ percentText (binding.timing.holdDistance stepPercent))),
      ("scrub", .flag true) ] ++
    scrollerSetting scroller ++
    [ ("onEnter", binding.callback trace "Entering" .enter),
      ("onLeave", binding.callback trace "Leaving" .exit),
      ("onEnterBack", binding.callback trace "Entering back" .enterBack),
      ("onLeaveBack", binding.callback trace "Leaving back" .exitBack),
      ("toggleActions", .quoted "play none reverse none"),
      ("invalidateOnRefresh", .flag true) ]

end Binding

/-- The block of a pin. -/
def Pin.block (pin : Pin) (scroller : Option String) : Block :=
  .pin <|
    [ ("trigger", .quoted ("#page-" ++ pin.pageId)),
      ("start", .quoted "top top"),
      ("end", .thunk ("+=" ++ percentText pin.distance)),
      ("pin", .flag true),
      ("pinSpacing", .flag true),
      ("scrub", .flag true) ] ++
    scrollerSetting scroller

/-- Blocks one after another, each with a blank line behind it. -/
def Script.blocksText (blocks : List Block) : String :=
  String.join (blocks.map fun block => block.text ++ "\n")

namespace PagePlan

/-- The blocks of a page: its bindings in order, and its pin. -/
def blocks (plan : PagePlan) (scroller : Option String) (trace : Bool) : List Block :=
  plan.bindings.map (·.block plan.stepPercent scroller trace) ++
    (plan.pin.map (·.block scroller)).toList

/-- The part of the program for a page. -/
def script (plan : PagePlan) (scroller : Option String) (trace : Bool) : String :=
  Script.blocksText (plan.blocks scroller trace)

end PagePlan

namespace Plan

/-- The parts of the program for all pages. -/
def script (plan : Plan) (scroller : Option String) : String :=
  String.join (plan.pages.map (·.script scroller plan.traceCallbacks))

/-- The program of an article. -/
def program (plan : Plan) (settings : RenderSettings) : String :=
  Text.trimEnd Text.isBlank settings.bootstrapScript ++ "\n\n" ++
    plan.script settings.scrollerSelector?

end Plan

end ScrollStory
