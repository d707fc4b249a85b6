import ScrollStory.Decimal.Basic

/-!
# Behaviors

The transitions that components may have, and the states of a component between which each of them
moves.
-/

namespace ScrollStory

/-- A transition that is known. -/
inductive Behavior where
  | fade
  | zoom
  | flyInLeft
  | flyInRight
  | flyInBottom
  | overlap
  deriving DecidableEq, Repr

namespace Behavior

/-- All behaviors, in their canonical order. -/
def all : List Behavior := [fade, zoom, flyInLeft, flyInRight, flyInBottom, overlap]

/-- The name of a behavior. -/
def name : Behavior → String
  | fade => "fade"
  | zoom => "zoom"
  | flyInLeft => "fly-in-left"
  | flyInRight => "fly-in-right"
  | flyInBottom => "fly-in-bottom"
  | overlap => "overlap"

/-- The behavior with a given name. -/
def ofName? (name : String) : Option Behavior :=
  all.find? (·.name = name)

theorem ofName?_name (behavior : Behavior) : ofName? behavior.name = some behavior := by
  cases behavior <;> decide

/-- The names of all behaviors. -/
def names : List String := all.map name

/-- The properties of a component that is shown. -/
def shown : Behavior → List (String × Int)
  | fade | overlap => [("opacity", 1)]
  | zoom => [("scale", 1)]
  | flyInLeft | flyInRight => [("opacity", 1), ("x", 0)]
  | flyInBottom => [("opacity", 1), ("y", 0)]

/-- The properties of a component that is hidden. -/
def hidden : Behavior → List (String × Int)
  | fade | overlap => [("opacity", 0)]
  | zoom => [("scale", 0)]
  | flyInLeft => [("opacity", 0), ("x", -500)]
  | flyInRight => [("opacity", 0), ("x", 500)]
  | flyInBottom => [("opacity", 0), ("y", 500)]

/-- Whether a component with the behavior comes to the front while it is shown. -/
def comesToFront : Behavior → Bool
  | fade | overlap => true
  | _ => false

end Behavior

/-- The moments at which a component changes. -/
inductive Phase where
  | init
  | enter
  | exit
  | enterBack
  | exitBack
  deriving DecidableEq, Repr

/-- All moments, in their order. -/
def Phase.all : List Phase := [.init, .enter, .exit, .enterBack, .exitBack]

/-- How one component is animated. -/
structure AnimationScript where
  behavior : Behavior
  /-- Whether the component is shown at first. -/
  initiallyVisible : Bool := true
  /-- How long a change lasts, in seconds. -/
  segmentSeconds : Decimal
  deriving DecidableEq, Repr

end ScrollStory
