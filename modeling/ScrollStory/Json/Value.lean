import ScrollStory.Json.Number

/-!
# JSON values and their texts

A value is written without any white space, or with one member or item on a line and two spaces for
every level.
-/

namespace ScrollStory

namespace Json

/-- A JSON value. The members of an object keep their order. -/
inductive Value where
  | null
  | bool (b : Bool)
  | number (n : Number)
  | string (s : String)
  | array (items : List Value)
  | object (members : List (String × Value))
  deriving Repr

namespace Value

/-- A natural number as a value. -/
def nat (n : Nat) : Value := .number (.whole n)

/-- An optional string as a value. -/
def optionalString (s : Option String) : Value :=
  match s with
  | some s => .string s
  | none => .null

end Value

/-- How a value is laid out. -/
inductive Format where
  | pretty
  | compact
  deriving DecidableEq, Repr

/-- The escape of a character inside a JSON string, for the characters that need one. -/
def escapedChar (c : Char) : List Char :=
  if c = '"' then ['\\', '"']
  else if c = '\\' then ['\\', '\\']
  else if c = '\x08' then ['\\', 'b']
  else if c = '\x0c' then ['\\', 'f']
  else if c = '\n' then ['\\', 'n']
  else if c = '\r' then ['\\', 'r']
  else if c = '\t' then ['\\', 't']
  else if c < ' ' then
    ['\\', 'u', '0', '0', if c.toNat < 16 then '0' else '1', Nat.digitChar (c.toNat % 16)]
  else [c]

/-- A string as a JSON string. -/
def quote (s : String) : List Char :=
  '"' :: s.toList.flatMap escapedChar ++ ['"']

/-- A number as it is written. -/
def Number.write : Number → List Char
  | whole n => (Decimal.ofInt n).plain.toList
  | decimal d => d.json.toList

/-- The line break and the spaces in front of something at a level. -/
def newline (level : Nat) : List Char :=
  '\n' :: List.replicate (2 * level) ' '

/-- The parts of a list with commas between them, each part behind a break. -/
def separated (lineBreak : List Char) : List (List Char) → List Char
  | [] => []
  | [part] => lineBreak ++ part
  | part :: parts => lineBreak ++ part ++ ',' :: separated lineBreak parts

/-- A list or an object between its brackets. Without parts the brackets stand together. -/
def bracketed (format : Format) (level : Nat) (left right : Char) (parts : List (List Char)) :
    List Char :=
  match format, parts with
  | _, [] => [left, right]
  | .compact, parts => left :: separated [] parts ++ [right]
  | .pretty, parts => left :: separated (newline (level + 1)) parts ++ newline level ++ [right]

namespace Value

mutual

/-- The text of a value at a level. -/
def write (format : Format) (level : Nat) : Value → List Char
  | null => ['n', 'u', 'l', 'l']
  | bool true => ['t', 'r', 'u', 'e']
  | bool false => ['f', 'a', 'l', 's', 'e']
  | number n => n.write
  | string s => quote s
  | array items => bracketed format level '[' ']' (writeItems format (level + 1) items)
  | object members =>
    bracketed format level '\x7b' '\x7d' (writeMembers format (level + 1) members)

/-- The texts of the items of a list. -/
def writeItems (format : Format) (level : Nat) : List Value → List (List Char)
  | [] => []
  | item :: items => item.write format level :: writeItems format level items

/-- The texts of the members of an object. -/
def writeMembers (format : Format) (level : Nat) : List (String × Value) → List (List Char)
  | [] => []
  | (key, value) :: members =>
    (quote key ++ ':' :: (match format with | .pretty => [' '] | .compact => []) ++
      value.write format level) :: writeMembers format level members

end

/-- The text of a value. -/
def text (format : Format) (value : Value) : String :=
  String.ofList (value.write format 0)

end Value

end Json

end ScrollStory
