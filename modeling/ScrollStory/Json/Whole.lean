import ScrollStory.Json.Reader
import ScrollStory.Json.Value

/-!
# Whole values

Two ways to take a whole value from the tokens, whatever it is: to read it, and to skip it. Both
walk the tokens once, with the lists and objects that are still open on a stack. A value that is
read may be nested 127 levels deep at most, counted from the start of the text, and its strings and
numbers must be readable. A value that is skipped only has to be well-formed.
-/

namespace ScrollStory

namespace Json

/-- The number of levels that a text may be deep where its values are read. -/
def deepest : Nat := 127

/-- A list or an object that is still open. -/
inductive Open where
  /-- A list with its items so far, the last one first. -/
  | list (items : List Value)
  /-- An object with its members so far, the last one first, and the key of the next one. -/
  | object (members : List (String × Value)) (key : String)

namespace Value

mutual

/-- Reads a value inside `enclosing` levels and the containers on the stack. -/
def readFrom (enclosing : Nat) (stack : List Open) : List Token → Except Fault (Value × List Token)
  | [] => .error .endInValue
  | .null :: rest => deliver enclosing .null stack rest
  | .bool b :: rest => deliver enclosing (.bool b) stack rest
  | .number numeral :: rest =>
    match numeral.value with
    | .ok n => deliver enclosing (.number n) stack rest
    | .error fault => .error fault
  | .string s :: rest => deliver enclosing (.string s) stack rest
  | .openBracket :: rest =>
    if deepest ≤ enclosing + stack.length then .error .tooDeep
    else
      match rest with
      | [] => .error .endInList
      | .closeBracket :: rest => deliver enclosing (.array []) stack rest
      | token :: rest => readFrom enclosing (.list [] :: stack) (token :: rest)
  | .openBrace :: rest =>
    if deepest ≤ enclosing + stack.length then .error .tooDeep
    else
      match rest with
      | [] => .error .endInObject
      | .closeBrace :: rest => deliver enclosing (.object []) stack rest
      | token :: rest => readKey enclosing [] stack token rest
  | token :: _ => .error (token.mismatch "a value")

/-- Goes on behind a value that is complete. -/
def deliver (enclosing : Nat) (value : Value) :
    List Open → List Token → Except Fault (Value × List Token)
  | [], rest => .ok (value, rest)
  | .list _ :: _, [] => .error .endInList
  | .list items :: stack, .closeBracket :: rest =>
    deliver enclosing (.array (value :: items).reverse) stack rest
  | .list _ :: _, [.comma] => .error .endInValue
  | .list _ :: _, .comma :: .closeBracket :: _ => .error .trailingComma
  | .list items :: stack, .comma :: rest =>
    readFrom enclosing (.list (value :: items) :: stack) rest
  | .list _ :: _, _ :: _ => .error .expectedCommaOrBracket
  | .object _ _ :: _, [] => .error .endInObject
  | .object members key :: stack, .closeBrace :: rest =>
    deliver enclosing (.object ((key, value) :: members).reverse) stack rest
  | .object _ _ :: _, [.comma] => .error .endInValue
  | .object _ _ :: _, .comma :: .closeBrace :: _ => .error .trailingComma
  | .object members key :: stack, .comma :: token :: rest =>
    readKey enclosing ((key, value) :: members) stack token rest
  | .object _ _ :: _, _ :: _ => .error .expectedCommaOrBrace

/-- Reads the key of the next member of an object, the colon and the value. -/
def readKey (enclosing : Nat) (members : List (String × Value)) (stack : List Open) :
    Token → List Token → Except Fault (Value × List Token)
  | .string key, .colon :: rest => readFrom enclosing (.object members key :: stack) rest
  | .string _, [] => .error .endInObject
  | .string _, _ :: _ => .error .expectedColon
  | .unreadable fault, _ => .error fault
  | .brokenString fault _, _ => .error fault
  | _, _ => .error .keyNotString

end

/-- Reads a value inside `enclosing` levels. -/
def read (enclosing : Nat) : Read Value :=
  readFrom enclosing []

end Value

/-- The fault of a token where a value that is skipped should start. -/
def Token.skipFault : Token → Fault
  | brokenString _ fault => fault
  | brokenNumber _ => .badNumber
  | brokenWord atEnd => if atEnd then .endInValue else .expectedWord
  | _ => .expectedValue

/-- The two kinds of containers. -/
inductive Container where
  | list
  | object
  deriving DecidableEq, Repr

mutual

/-- Skips a value inside the containers on the stack, and all of these. -/
def skipFrom (stack : List Container) : List Token → Except Fault (Unit × List Token)
  | [] => .error .endInValue
  | .null :: rest | .bool _ :: rest | .number _ :: rest | .string _ :: rest
  | .unreadable _ :: rest => skipOn stack rest
  | .openBracket :: rest =>
    match rest with
    | [] => .error .endInList
    | .closeBracket :: rest => skipOn stack rest
    | token :: rest => skipFrom (.list :: stack) (token :: rest)
  | .openBrace :: rest =>
    match rest with
    | [] => .error .endInObject
    | .closeBrace :: rest => skipOn stack rest
    | token :: rest => skipKey stack token rest
  | token :: _ => .error token.skipFault

/-- Goes on behind a value that is skipped. -/
def skipOn : List Container → List Token → Except Fault (Unit × List Token)
  | [], rest => .ok ((), rest)
  | .list :: _, [] => .error .endInList
  | .list :: stack, .closeBracket :: rest => skipOn stack rest
  | .list :: stack, .comma :: rest => skipFrom (.list :: stack) rest
  | .list :: _, _ :: _ => .error .expectedCommaOrBracket
  | .object :: _, [] => .error .endInObject
  | .object :: stack, .closeBrace :: rest => skipOn stack rest
  | .object :: _, [.comma] => .error .endInObject
  | .object :: stack, .comma :: token :: rest => skipKey stack token rest
  | .object :: _, _ :: _ => .error .expectedCommaOrBrace

/-- Skips the key of the next member of an object, the colon and the value. -/
def skipKey (stack : List Container) : Token → List Token → Except Fault (Unit × List Token)
  | .string _, .colon :: rest | .unreadable _, .colon :: rest => skipFrom (.object :: stack) rest
  | .string _, [] | .unreadable _, [] => .error .endInObject
  | .string _, _ :: _ | .unreadable _, _ :: _ => .error .expectedColon
  | .brokenString _ fault, _ => .error fault
  | _, _ => .error .keyNotString

end

/-- Skips a value. -/
def Read.skip : Read Unit :=
  skipFrom []

end Json

end ScrollStory
