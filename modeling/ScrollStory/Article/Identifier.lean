import ScrollStory.Text.Pieces

/-!
# Identifiers

Identifiers are made of ASCII letters, digits, underscores and hyphens, and do not begin with a
hyphen. By convention the identifier of a component begins with the one of its page.
-/

namespace ScrollStory

namespace Identifier

/-- A letter, a digit or an underscore, of ASCII. -/
def isWordChar (c : Char) : Bool :=
  ('A' ≤ c && c ≤ 'Z') || ('a' ≤ c && c ≤ 'z') || ('0' ≤ c && c ≤ '9') || c = '_'

/-- Whether a list of characters is an identifier. -/
def accepts : List Char → Bool
  | [] => false
  | c :: cs => isWordChar c && cs.all fun c => isWordChar c || c = '-'

end Identifier

/-- Whether a string is an identifier. -/
def isIdentifier (s : String) : Bool :=
  Identifier.accepts s.toList

/-- Whether the identifier of a component has the page's identifier as the first of at least three
pieces between hyphens. -/
def followsConvention (pageId componentId : String) : Bool :=
  match Text.split '-' componentId with
  | first :: rest => first = pageId && 2 ≤ rest.length
  | [] => false

end ScrollStory
