import ScrollStory.Decimal.Basic

/-!
# Blocks of animation programs

A program is made of two kinds of blocks: one binds the animation of an element to a scroll window,
the other holds a page in place. Both are calls with an object of settings, one setting on a line.
-/

namespace ScrollStory

namespace Script

/-- What a tween does with the properties of an element. -/
inductive Verb where
  /-- Sets them at once. -/
  | set
  /-- Moves them to their values. -/
  | move
  deriving DecidableEq, Repr

/-- The name of a verb. -/
def Verb.name : Verb → String
  | set => "set"
  | move => "to"

/-- A change of the properties of an element. -/
structure Tween where
  verb : Verb
  /-- The identifier of the element. -/
  target : String
  properties : List (String × Decimal)
  deriving DecidableEq, Repr

/-- A property with its value. -/
def propertyText (property : String × Decimal) : String :=
  property.1 ++ ": " ++ property.2.plain

/-- The statement of a tween. -/
def Tween.text (tween : Tween) : String :=
  "gsap." ++ tween.verb.name ++ "(\"#" ++ tween.target ++ "\", \x7b" ++
    ", ".intercalate (tween.properties.map propertyText) ++ "\x7d);"

/-- A statement of a callback. -/
inductive Statement where
  | log (message : String)
  | tween (tween : Tween)
  deriving DecidableEq, Repr

/-- The text of a statement. -/
def Statement.text : Statement → String
  | log message => "console.log(\"" ++ message ++ "\");"
  | tween t => t.text

/-- The value of a setting. -/
inductive Setting where
  | quoted (s : String)
  | flag (b : Bool)
  /-- A function that gives a string. -/
  | thunk (s : String)
  | callback (body : List Statement)
  deriving DecidableEq, Repr

/-- The lines of a setting behind some indentation. -/
def Setting.lines (indent name : String) : Setting → List String
  | quoted s => [indent ++ name ++ ": \"" ++ s ++ "\","]
  | flag b => [indent ++ name ++ ": " ++ (if b then "true" else "false") ++ ","]
  | thunk s => [indent ++ name ++ ": () => \"" ++ s ++ "\","]
  | callback [] => [indent ++ name ++ ": () => \x7b\x7d,"]
  | callback body =>
    (indent ++ name ++ ": () => \x7b") ::
      body.map (fun statement => indent ++ "  " ++ statement.text) ++ [indent ++ "\x7d,"]

/-- The lines of settings behind some indentation. -/
def settingLines (indent : String) (settings : List (String × Setting)) : List String :=
  settings.flatMap fun (name, setting) => setting.lines indent name

/-- A block of a program. -/
inductive Block where
  /-- A tween that is run at once, and a timeline that is bound to a scroll window. -/
  | trigger (start : Tween) (settings : List (String × Setting))
  /-- A page that is held in place. -/
  | pin (settings : List (String × Setting))
  deriving DecidableEq, Repr

namespace Block

/-- The lines of a block. -/
def lines : Block → List String
  | trigger start settings =>
    start.text :: "gsap.timeline(\x7b" :: "  scrollTrigger: \x7b" ::
      settingLines "    " settings ++ ["  \x7d", "\x7d);"]
  | pin settings =>
    "ScrollTrigger.create(\x7b" :: settingLines "  " settings ++ ["\x7d);"]

/-- The text of a block. -/
def text (block : Block) : String :=
  String.join (block.lines.map (· ++ "\n"))

end Block

end Script

end ScrollStory
