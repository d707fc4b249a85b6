import ScrollStory.Text.Blank
import ScrollStory.Text.Digit

/-!
# Lengths

The sizes of slots are lengths: a zero, or a number with a unit. White space around a length does
not matter, and the digits may be of any script.
-/

namespace ScrollStory

namespace CssLength

/-- The units of lengths. -/
def units : List (List Char) :=
  [['%'], ['p', 'x'], ['v', 'h'], ['v', 'w'], ['e', 'm'], ['r', 'e', 'm']]

/-- Whether a list of characters is a unit, or a point, digits and a unit. -/
def isTail : List Char → Bool
  | '.' :: rest =>
    !(rest.takeWhile Text.isDecimalDigit).isEmpty &&
      units.contains (rest.dropWhile Text.isDecimalDigit)
  | rest => units.contains rest

/-- Whether a list of characters is a length without white space around it. -/
def accepts (cs : List Char) : Bool :=
  cs = ['0'] ||
    (!(cs.takeWhile Text.isDecimalDigit).isEmpty && isTail (cs.dropWhile Text.isDecimalDigit))

end CssLength

/-- Whether a string is a length. -/
def isCssLength (s : String) : Bool :=
  CssLength.accepts (Text.trim s).toList

end ScrollStory
