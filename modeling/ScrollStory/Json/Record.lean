import ScrollStory.Json.Whole

/-!
# Reading records

A record is an object, or a list of its fields in order. In an object, members with known keys fill
a draft of the record, each at most once, and all other members are skipped; when the object ends,
the first required field that is still open is reported. A list may be too short only by fields that
have a default.
-/

namespace ScrollStory

namespace Json

namespace Read

/-- Reads a record as an object or as a list. -/
def record {α : Type} (wanted : String) (ofObject ofList : Read α) : Read α
  | [] => .error .endInValue
  | .openBrace :: rest => ofObject rest
  | .openBracket :: rest =>
    (do let a ← ofList
        endList
        return a : Read α) rest
  | token :: _ => .error (token.mismatch wanted)

/-- Reads a key that begins with the given token. -/
def key : Token → Read (Option String)
  | .string s, rest => .ok (some s, rest)
  | .unreadable fault, _ => .error fault
  | .brokenString fault _, _ => .error fault
  | _, _ => .error .keyNotString

/-- Goes to the next member of an object and reads its key: nothing if the object ends here. -/
def nextKey (first : Bool) : Read (Option String)
  | [] => .error .endInObject
  | .closeBrace :: rest => .ok (none, rest)
  | token :: rest =>
    if first then key token rest
    else if token = .comma then
      match rest with
      | [] => .error .endInValue
      | .closeBrace :: _ => .error .trailingComma
      | token :: rest => key token rest
    else .error .expectedCommaOrBrace

/-- Reads the members of an object up to its closing brace, `fuel` of them at most. -/
def members {σ : Type} (member : String → σ → Read σ) : Nat → Bool → σ → Read σ
  | 0, _, _ => fun _ => .error .endInObject
  | fuel + 1, first, draft => do
    match ← nextKey first with
    | none => return draft
    | some name =>
      let draft ← member name draft
      members member fuel false draft

/-- Reads all members of an object onto a draft. Every member takes a token at least, so there are
fewer members than tokens. -/
def draft {σ : Type} (member : String → σ → Read σ) (start : σ) : Read σ := fun tokens =>
  members member (tokens.length + 1) true start tokens

/-- Reads the value of a member that may be given once, and was given before if `old` is there. -/
def field {α : Type} (name : String) (old : Option α) (value : Read α) : Read α :=
  match old with
  | some _ => throw (.duplicateField name)
  | none => do
    colon
    value

/-- Skips the value of a member with an unknown key. -/
def skipMember : Read Unit := do
  colon
  skip

/-- The value of a field that must be given. -/
def required {α : Type} (name : String) : Option α → Read α
  | some a => pure a
  | none => throw (.missingField name)

/-- What was wanted of a list that is too short for a record. -/
def wantedItems (wanted : String) (size : Nat) : String :=
  wanted ++ " with " ++ (Decimal.ofInt size).plain ++ (if size = 1 then " element" else " elements")

/-- Reads a required field of a record with `size` fields that is given as a list. -/
def itemAt {α : Type} (wanted : String) (size index : Nat) (value : Read α) : Read α := do
  if ← nextItem (index = 0) then
    value
  else
    throw (.wrongLength index (wantedItems wanted size))

/-- Reads a field with a default of a record that is given as a list. -/
def itemOr {α : Type} (index : Nat) (default : α) (value : Read α) : Read α := do
  if ← nextItem (index = 0) then
    value
  else
    return default

end Read

end Json

end ScrollStory
