import ScrollStory.Html.Escape

/-!
# HTML trees

A document is a tree of elements, and one function turns trees into text. Everything is escaped on
the way except `raw` text, which is trusted. White space that lays out the text is part of the tree.
-/

namespace ScrollStory

namespace Html

/-- A node of a document. -/
inductive Node where
  | element (tag : String) (attributes : List (String × String)) (children : List Node)
  /-- An element without an end tag. With `closed`, its tag ends in a slash. -/
  | void (tag : String) (attributes : List (String × String)) (closed : Bool)
  | text (s : String)
  /-- White space. -/
  | space (s : String)
  /-- Text that is written as it is. -/
  | raw (s : String)
  deriving Repr

/-- An attribute behind the name of a tag. -/
def attributeText (pair : String × String) : String :=
  " " ++ pair.1 ++ "=\"" ++ escapeAttribute pair.2 ++ "\""

/-- The attributes behind the name of a tag. -/
def attributesText (attributes : List (String × String)) : String :=
  String.join (attributes.map attributeText)

namespace Node

mutual

/-- The text of a node. -/
def render : Node → String
  | element tag attributes children =>
    "<" ++ tag ++ attributesText attributes ++ ">" ++ renderAll children ++ "</" ++ tag ++ ">"
  | void tag attributes closed =>
    "<" ++ tag ++ attributesText attributes ++ (if closed then " />" else ">")
  | text s => escapeText s
  | space s => s
  | raw s => s

/-- The text of nodes one after another. -/
def renderAll : List Node → String
  | [] => ""
  | node :: nodes => node.render ++ renderAll nodes

end

/-- The identifiers among some attributes. -/
def idsOf (attributes : List (String × String)) : List String :=
  (attributes.filter (·.1 = "id")).map Prod.snd

mutual

/-- The identifiers of the elements in a node, in the order of the document. -/
def ids : Node → List String
  | element _ attributes children => idsOf attributes ++ idsAll children
  | void _ attributes _ => idsOf attributes
  | text _ | space _ | raw _ => []

/-- The identifiers of the elements in some nodes. -/
def idsAll : List Node → List String
  | [] => []
  | node :: nodes => node.ids ++ idsAll nodes

end

theorem renderAll_append (nodes others : List Node) :
    renderAll (nodes ++ others) = renderAll nodes ++ renderAll others := by
  induction nodes with
  | nil => simp [renderAll]
  | cons node nodes ih => simp [renderAll, ih, String.append_assoc]

theorem idsAll_append (nodes others : List Node) :
    idsAll (nodes ++ others) = idsAll nodes ++ idsAll others := by
  induction nodes with
  | nil => simp [idsAll]
  | cons node nodes ih => simp [idsAll, ih]

/-- The spaces in front of a line. -/
def indent (width : Nat) : Node :=
  space (String.ofList (List.replicate width ' '))

/-- A node on a line of its own. -/
def line (width : Nat) (node : Node) : List Node :=
  [indent width, node, space "\n"]

/-- An element whose tags stand on lines of their own, with the lines of its children between them.
-/
def block (width : Nat) (tag : String) (attributes : List (String × String))
    (children : List Node) : List Node :=
  line width (element tag attributes (space "\n" :: children ++ [indent width]))

end Node

end Html

end ScrollStory
