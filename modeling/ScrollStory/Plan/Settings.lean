import ScrollStory.Decimal.Basic

/-!
# Settings of the compiler

How far the reader scrolls for one step, how long animations last, and what the program reports.
-/

namespace ScrollStory

/-- Where the duration of an animation comes from. -/
inductive DurationMode where
  /-- All animations last equally long. -/
  | fixed
  /-- An animation lasts as long as it asks for. -/
  | fromAnimation
  deriving DecidableEq, Repr

/-- Settings of the compiler. -/
structure CompileSettings where
  /-- The scroll distance of one step, in percent of the screen height. -/
  stepPercent : Nat := 100
  /-- The scroll distance of one step of a pin, if it differs. -/
  pinStepPercent : Option Nat := none
  durationMode : DurationMode := .fixed
  /-- Whether the program reports every callback. -/
  traceCallbacks : Bool := false
  /-- Whether pages may be compiled side by side, which does not change the result. -/
  parallel : Bool := true
  deriving DecidableEq, Repr

namespace CompileSettings

/-- The duration of an animation that asks for none: 0.33 seconds. -/
def usualSeconds : Decimal := .normal false 33 (-2)

/-- The duration in milliseconds that a fixed duration agrees with. -/
def usualMilliseconds : Nat := 330

/-- Sets the step, to one at least. -/
def withStepPercent (settings : CompileSettings) (percent : Nat) : CompileSettings :=
  { settings with stepPercent := max percent 1 }

/-- Sets the step of pins, to one at least. -/
def withPinStepPercent (settings : CompileSettings) (percent : Nat) : CompileSettings :=
  { settings with pinStepPercent := some (max percent 1) }

/-- Sets where durations come from. -/
def withDurationMode (settings : CompileSettings) (mode : DurationMode) : CompileSettings :=
  { settings with durationMode := mode }

/-- Sets whether the program reports its callbacks. -/
def withTraceCallbacks (settings : CompileSettings) (trace : Bool) : CompileSettings :=
  { settings with traceCallbacks := trace }

/-- Has pages compiled one after another. -/
def sequential (settings : CompileSettings) : CompileSettings :=
  { settings with parallel := false }

/-- The step of a page, which may have a step of its own. -/
def pageStep (settings : CompileSettings) (own : Option Nat) : Nat :=
  own.getD settings.stepPercent

/-- The step of a page's pin. -/
def pagePinStep (settings : CompileSettings) (own : Option Nat) : Nat :=
  settings.pinStepPercent.getD (settings.pageStep own)

/-- The duration of an animation that asks for a number of milliseconds, in seconds. -/
def segmentSeconds (settings : CompileSettings) (milliseconds : Nat) : Decimal :=
  match settings.durationMode with
  | .fixed => usualSeconds
  | .fromAnimation => if 0 < milliseconds then .ofThousandths milliseconds else usualSeconds

end CompileSettings

end ScrollStory
