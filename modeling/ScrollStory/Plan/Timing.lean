/-!
# Timing

When a component of a slot enters and how long it stays, counted in steps. The last component of a
slot that is shorter than the longest one stays until the page is over.
-/

namespace ScrollStory

/-- How many steps the component at `index` stays, in a slot with `length` components on a page
whose longest slot has `biggest`. -/
def endLength (index length biggest : Nat) : Nat :=
  if index + 1 ≠ length ∨ length = biggest then 1 else max (biggest - index) 1

/-- The window of a component: the step at which it enters, and the number of steps it stays. -/
structure Timing where
  startLength : Nat
  endLength : Nat
  deriving DecidableEq, Repr

namespace Timing

/-- The window of the component at `index` of a slot. -/
def forSlot (index length biggest : Nat) : Timing where
  startLength := index
  endLength := ScrollStory.endLength index length biggest

/-- The scroll distance before the window, in percent. -/
def startOffset (timing : Timing) (stepPercent : Nat) : Nat :=
  timing.startLength * stepPercent

/-- The scroll distance of the window, in percent. -/
def holdDistance (timing : Timing) (stepPercent : Nat) : Nat :=
  timing.endLength * stepPercent

end Timing

end ScrollStory
