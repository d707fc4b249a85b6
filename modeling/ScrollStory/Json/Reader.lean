import ScrollStory.Json.Token

/-!
# Reading tokens

A reader takes tokens from the front of a list and either gives a value or the first fault that it
meets. The readers here are for strings, booleans, numbers, lists and names from a fixed list.
-/

namespace ScrollStory

namespace Json

/-- A reader of values of type `α`. -/
abbrev Read (α : Type) := StateT (List Token) (Except Fault) α

/-- The fault of a token where something else is wanted. -/
def Token.mismatch (wanted : String) : Token → Fault
  | null => .wrongType .null wanted
  | bool b => .wrongType (.bool b) wanted
  | number numeral =>
    match numeral.value with
    | .ok n => .wrongType n.found wanted
    | .error fault => fault
  | string s => .wrongType (.string s) wanted
  | unreadable fault => fault
  | brokenString fault _ => fault
  | brokenNumber atEnd => if atEnd then .endInValue else .badNumber
  | brokenWord atEnd => if atEnd then .endInValue else .expectedWord
  | openBracket => .wrongType .sequence wanted
  | openBrace => .wrongType .map wanted
  | closeBracket | closeBrace | comma | colon | junk => .expectedValue

namespace Read

/-- Reads a string. -/
def string : Read String
  | [] => .error .endInValue
  | .string s :: rest => .ok (s, rest)
  | token :: _ => .error (token.mismatch "a string")

/-- Reads a boolean. -/
def bool : Read Bool
  | [] => .error .endInValue
  | .bool b :: rest => .ok (b, rest)
  | token :: _ => .error (token.mismatch "a boolean")

/-- Reads a whole number below `2 ^ 32`. -/
def word : Read Nat
  | [] => .error .endInValue
  | .number numeral :: rest =>
    match numeral.value with
    | .ok (.whole n) =>
      if 0 ≤ n ∧ n < twoTo 32 then .ok (n.toNat, rest) else .error (.wrongValue (.whole n) "u32")
    | .ok (.decimal d) => .error (.wrongType (.decimal d) "u32")
    | .error fault => .error fault
  | token :: _ => .error (token.mismatch "u32")

/-- Reads `null`, or a value. -/
def optional {α : Type} (value : Read α) : Read (Option α)
  | .null :: rest => .ok (none, rest)
  | tokens => (some <$> value) tokens

/-- Reads the colon between a key and its value. -/
def colon : Read Unit
  | [] => .error .endInObject
  | .colon :: rest => .ok ((), rest)
  | _ :: _ => .error .expectedColon

/-- Goes to the next item of a list: `false` if the list ends here. The closing bracket stays. -/
def nextItem (first : Bool) : Read Bool
  | [] => .error .endInList
  | .closeBracket :: rest => .ok (false, .closeBracket :: rest)
  | token :: rest =>
    if first then .ok (true, token :: rest)
    else if token = .comma then
      match rest with
      | [] => .error .endInValue
      | .closeBracket :: _ => .error .trailingComma
      | rest => .ok (true, rest)
    else .error .expectedCommaOrBracket

/-- Reads the closing bracket of a list from which nothing more is wanted. -/
def endList : Read Unit
  | [] => .error .endInList
  | .closeBracket :: rest => .ok ((), rest)
  | .comma :: .closeBracket :: _ => .error .trailingComma
  | _ :: _ => .error .trailingCharacters

/-- Reads the items of a list up to its closing bracket, `fuel` of them at most. -/
def items {α : Type} (item : Read α) : Nat → Bool → Read (List α)
  | 0, _ => fun _ => .error .endInList
  | fuel + 1, first => do
    if ← nextItem first then
      let a ← item
      let as ← items item fuel false
      return a :: as
    else
      return []

/-- Reads a list. Every item takes a token at least, so there are fewer items than tokens. -/
def list {α : Type} (item : Read α) : Read (List α)
  | [] => .error .endInValue
  | .openBracket :: rest =>
    (do let as ← items item (rest.length + 1) true
        endList
        return as : Read (List α)) rest
  | token :: _ => .error (token.mismatch "a sequence")

/-- The value of a name in a table of known names. -/
def named {α : Type} (table : List (String × α)) (name : String) : Except Fault α :=
  match table.find? (·.1 = name) with
  | some (_, a) => .ok a
  | none => .error (.unknownVariant name (table.map Prod.fst))

/-- Reads a name from a table: a string, or an object with the name as its only key and `null` as
the value. -/
def oneOf {α : Type} (table : List (String × α)) : Read α
  | [] => .error .endInValue
  | .string name :: rest => (named table name).map (·, rest)
  | .unreadable fault :: _ => .error fault
  | .brokenString fault _ :: _ => .error fault
  | .openBrace :: rest => do
    match rest with
    | [] => .error .endInObject
    | .string name :: rest =>
      let a ← named table name
      let ((), rest) ← colon rest
      match rest with
      | [] => .error .endInValue
      | [.null] => .error .endInObject
      | .null :: .closeBrace :: rest => .ok (a, rest)
      | .null :: _ => .error .expectedValue
      | token :: _ => .error (token.mismatch "unit")
    | .unreadable fault :: _ => .error fault
    | .brokenString fault _ :: _ => .error fault
    | .closeBrace :: _ => .error .expectedValue
    | _ :: _ => .error .keyNotString
  | _ :: _ => .error .expectedValue

/-- Reads a value from all tokens of a text. -/
def all {α : Type} (value : Read α) (tokens : List Token) : Except Fault α := do
  let (a, rest) ← value tokens
  if rest.isEmpty then .ok a else .error .trailingCharacters

end Read

end Json

end ScrollStory
