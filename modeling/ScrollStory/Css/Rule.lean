import ScrollStory.Article.Basic

/-!
# Rules of stylesheets

A rule is a selector with declarations. The selectors of an article's elements are built from the
identifiers of its pages and the names of their slots.
-/

namespace ScrollStory

namespace Css

/-- What a rule applies to. -/
inductive Selector where
  /-- A selector that is written as it is. -/
  | general (text : String)
  /-- The element that scrolls, by its class. -/
  | scroller (name : String)
  /-- The section of a page. -/
  | page (pageId : String)
  /-- The element around a slot of a page. -/
  | wrapper (pageId : String) (slot : Slot)
  /-- The components in a slot of a page. -/
  | components (pageId : String) (slot : Slot)
  /-- The images of the components in a slot of a page. -/
  | images (pageId : String) (slot : Slot)
  deriving DecidableEq, Repr

/-- The text of a selector. -/
def Selector.text : Selector → String
  | general text => text
  | scroller name => "." ++ name
  | page pageId => "#page-" ++ pageId
  | wrapper pageId slot => "#page-" ++ pageId ++ "-" ++ slot.name
  | components pageId slot => ".page-" ++ pageId ++ "-" ++ slot.name ++ "-component"
  | images pageId slot => ".page-" ++ pageId ++ "-" ++ slot.name ++ "-component img"

/-- A rule: a selector, and properties with their values. -/
structure Rule where
  selector : Selector
  declarations : List (String × String)
  deriving DecidableEq, Repr

/-- A declaration on a line of its own. -/
def declarationText (declaration : String × String) : String :=
  "    " ++ declaration.1 ++ ": " ++ declaration.2 ++ ";\n"

/-- The text of a rule. -/
def Rule.text (rule : Rule) : String :=
  rule.selector.text ++ " \x7b\n" ++ String.join (rule.declarations.map declarationText) ++ "\x7d\n"

/-- The text of rules one after another. -/
def rulesText (rules : List Rule) : String :=
  String.join (rules.map Rule.text)

end Css

end ScrollStory
