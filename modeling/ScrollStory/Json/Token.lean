import ScrollStory.Json.Number
import ScrollStory.Text.Utf8

/-!
# Tokens of JSON texts

A text becomes a list of tokens. It is scanned by a machine that takes one chunk at a time, and the
scan stops behind the first token that is damaged. A damaged token says what is wrong with it, and
whoever meets it decides whether that matters: a string or a number that is skipped may hold what
one that is read may not.
-/

namespace ScrollStory

namespace Json

open Text (Chunk)

/-- A token of a JSON text. -/
inductive Token where
  | openBrace
  | closeBrace
  | openBracket
  | closeBracket
  | comma
  | colon
  | null
  | bool (b : Bool)
  | number (numeral : Numeral)
  | string (s : String)
  /-- A string that ends where it should, but whose content cannot be read. -/
  | unreadable (fault : Fault)
  /-- A string that never ends: what is wrong for a reader, and for one who skips it. -/
  | brokenString (read skipped : Fault)
  /-- The start of a number that goes on wrongly, or breaks off because the text ends. -/
  | brokenNumber (atEnd : Bool)
  /-- The start of `null`, `true` or `false` that goes on wrongly, or breaks off. -/
  | brokenWord (atEnd : Bool)
  /-- Something that starts no token. -/
  | junk
  deriving DecidableEq, Repr

namespace Scan

/-- A string of which a part is scanned. -/
structure Draft where
  /-- The characters so far, the last one first. -/
  chars : List Char
  /-- The first half of a surrogate pair that waits for its second half. -/
  half : Option Nat
  /-- Whether there were bytes that are not part of any character. -/
  stray : Bool
  /-- The first thing that a reader objects to. -/
  fault : Option Fault
  deriving DecidableEq, Repr

namespace Draft

/-- The start of a string. -/
def empty : Draft := ⟨[], none, false, none⟩

/-- The draft after anything but the second half of a surrogate pair. -/
def settle (d : Draft) : Draft :=
  match d.half with
  | none => d
  | some _ => { d with half := none, fault := d.fault.or (some .unfinishedSurrogate) }

/-- Adds a character. -/
def push (d : Draft) (c : Char) : Draft :=
  let d := d.settle
  { d with chars := c :: d.chars }

/-- Adds bytes that are not part of any character. -/
def pushStray (d : Draft) : Draft :=
  { d.settle with stray := true }

/-- Whether a code unit is the first half of a surrogate pair. -/
def isHighHalf (unit : Nat) : Bool := 0xD800 ≤ unit && unit ≤ 0xDBFF

/-- Whether a code unit is the second half of a surrogate pair. -/
def isLowHalf (unit : Nat) : Bool := 0xDC00 ≤ unit && unit ≤ 0xDFFF

/-- Adds a code unit of sixteen bits that was written as an escape. -/
def pushUnit (d : Draft) (unit : Nat) : Draft :=
  match d.half with
  | some high =>
    if isLowHalf unit then
      let c := Char.ofNat (0x10000 + (high - 0xD800) * 0x400 + (unit - 0xDC00))
      { d with half := none, chars := c :: d.chars }
    else { d with half := none, fault := d.fault.or (some .loneSurrogate) }
  | none =>
    if isHighHalf unit then { d with half := some unit }
    else if isLowHalf unit then { d with fault := d.fault.or (some .loneSurrogate) }
    else { d with chars := Char.ofNat unit :: d.chars }

/-- The token of a string that ends here. -/
def close (d : Draft) : Token :=
  let d := d.settle
  match d.fault with
  | some fault => .unreadable fault
  | none =>
    if d.stray then .unreadable .badCodePoint else .string (String.ofList d.chars.reverse)

/-- The token of a string that cannot go on. -/
def cut (d : Draft) (fault : Fault) : Token :=
  .brokenString (d.fault.getD fault) fault

end Draft

/-- Where in a string the scan is. -/
inductive StringPart where
  | plain
  /-- Behind a backslash. -/
  | escape
  /-- Behind `\u`, with the chunks since then, the last one first. -/
  | unit (seen : List Chunk)
  deriving DecidableEq, Repr

/-- Where in a number the scan is. -/
inductive NumberPart where
  /-- Behind the minus sign. -/
  | sign
  /-- Behind a leading zero. -/
  | zero
  /-- Within the digits before the point. -/
  | whole
  /-- Behind the point. -/
  | point
  /-- Within the digits behind the point. -/
  | fraction
  /-- Behind the letter of the exponent. -/
  | letter
  /-- Behind the sign of the exponent. -/
  | letterSign
  /-- Within the digits of the exponent. -/
  | exponent
  deriving DecidableEq, Repr

/-- What the scan remembers between two chunks. Digits are kept with the last one first. -/
inductive State where
  | between
  /-- Within a word that stands for `token`, with the letters to come. -/
  | word (token : Token) (left : List Char)
  | number (part : NumberPart) (numeral : Numeral)
  | string (part : StringPart) (draft : Draft)
  deriving DecidableEq, Repr

/-- What becomes of one chunk. -/
inductive Step where
  /-- Tokens are complete, and the scan goes on. -/
  | go (tokens : List Token) (next : State)
  /-- A damaged token ends the scan. -/
  | stop (tokens : List Token)
  deriving DecidableEq, Repr

/-- Puts a token in front of those of a step. -/
def Step.after (token : Token) : Step → Step
  | go tokens next => .go (token :: tokens) next
  | stop tokens => .stop (token :: tokens)

/-- The value of a decimal digit. -/
def digit? (c : Char) : Option Nat :=
  if '0' ≤ c ∧ c ≤ '9' then some (c.toNat - 48) else none

/-- The value of a digit in base sixteen. -/
def hexDigit? (c : Char) : Option Nat :=
  if '0' ≤ c ∧ c ≤ '9' then some (c.toNat - 48)
  else if 'a' ≤ c ∧ c ≤ 'f' then some (c.toNat - 87)
  else if 'A' ≤ c ∧ c ≤ 'F' then some (c.toNat - 55)
  else none

/-- A numeral without digits. -/
def noDigits (negative : Bool) : Numeral := ⟨negative, [], none, none⟩

/-- Takes a character between two tokens. -/
def startToken (c : Char) : Step :=
  match c with
  | ' ' | '\n' | '\t' | '\r' => .go [] .between
  | '\x7b' => .go [.openBrace] .between
  | '\x7d' => .go [.closeBrace] .between
  | '[' => .go [.openBracket] .between
  | ']' => .go [.closeBracket] .between
  | ',' => .go [.comma] .between
  | ':' => .go [.colon] .between
  | '"' => .go [] (.string .plain .empty)
  | 'n' => .go [] (.word .null ['u', 'l', 'l'])
  | 't' => .go [] (.word (.bool true) ['r', 'u', 'e'])
  | 'f' => .go [] (.word (.bool false) ['a', 'l', 's', 'e'])
  | '-' => .go [] (.number .sign (noDigits true))
  | '0' => .go [] (.number .zero { noDigits false with whole := [0] })
  | c =>
    match digit? c with
    | some d => .go [] (.number .whole { noDigits false with whole := [d] })
    | none => .stop [.junk]

/-- The token of a complete number, its digits put into reading order. -/
def numberToken (n : Numeral) : Token :=
  .number
    { n with
      whole := n.whole.reverse
      fraction := n.fraction.map List.reverse
      exponent := n.exponent.map fun (negative, ds) => (negative, ds.reverse) }

/-- Adds a digit before the point. -/
def addWhole (n : Numeral) (d : Nat) : Numeral :=
  { n with whole := d :: n.whole }

/-- Adds a digit behind the point. -/
def addFraction (n : Numeral) (d : Nat) : Numeral :=
  { n with fraction := some (d :: n.fraction.getD []) }

/-- Adds a digit to the exponent. -/
def addExponent (n : Numeral) (d : Nat) : Numeral :=
  let (negative, ds) := n.exponent.getD (false, [])
  { n with exponent := some (negative, d :: ds) }

/-- A number may end behind these parts. -/
def NumberPart.mayEnd : NumberPart → Bool
  | zero | whole | fraction | exponent => true
  | sign | point | letter | letterSign => false

/-- Takes a character within a number. -/
def stepNumber (part : NumberPart) (n : Numeral) (c : Char) : Step :=
  match part, digit? c with
  | .sign, some 0 => .go [] (.number .zero (addWhole n 0))
  | .sign, some d => .go [] (.number .whole (addWhole n d))
  | .zero, some _ => .stop [.brokenNumber false]
  | .whole, some d => .go [] (.number .whole (addWhole n d))
  | .point, some d | .fraction, some d => .go [] (.number .fraction (addFraction n d))
  | .letter, some d | .letterSign, some d | .exponent, some d =>
    .go [] (.number .exponent (addExponent n d))
  | .letter, none =>
    if c = '+' ∨ c = '-' then
      .go [] (.number .letterSign { n with exponent := some (c = '-', []) })
    else .stop [.brokenNumber false]
  | .sign, none | .point, none | .letterSign, none => .stop [.brokenNumber false]
  | .exponent, none => (startToken c).after (numberToken n)
  | part, none =>
    if c = '.' ∧ part ≠ .fraction then .go [] (.number .point n)
    else if c = 'e' ∨ c = 'E' then .go [] (.number .letter n)
    else (startToken c).after (numberToken n)

/-- The character that an escape of one letter stands for. -/
def escaped? : Char → Option Char
  | '"' => some '"'
  | '\\' => some '\\'
  | '/' => some '/'
  | 'b' => some '\x08'
  | 'f' => some '\x0c'
  | 'n' => some '\n'
  | 'r' => some '\r'
  | 't' => some '\t'
  | _ => none

/-- The code unit spelled by four digits in base sixteen, given as chunks, the last one first. -/
def unit? : List Chunk → Option Nat
  | [.char d, .char c, .char b, .char a] => do
    let a ← hexDigit? a
    let b ← hexDigit? b
    let c ← hexDigit? c
    let d ← hexDigit? d
    some (((a * 16 + b) * 16 + c) * 16 + d)
  | _ => none

/-- The number of bytes of some chunks. -/
def byteCount (chunks : List Chunk) : Nat :=
  chunks.foldl (fun n chunk => n + chunk.size) 0

/-- Takes a chunk within a string. The digits of a `\u` escape are looked at once four bytes of them
are there. -/
def stepString (part : StringPart) (d : Draft) (chunk : Chunk) : Step :=
  match part, chunk with
  | .plain, .stray _ => .go [] (.string .plain d.pushStray)
  | .plain, .char c =>
    if c = '"' then .go [d.close] .between
    else if c = '\\' then .go [] (.string .escape d)
    else if c < ' ' then .stop [d.settle.cut .controlCharacter]
    else .go [] (.string .plain (d.push c))
  | .escape, .char 'u' => .go [] (.string (.unit []) d)
  | .escape, .char c =>
    match escaped? c with
    | some c => .go [] (.string .plain (d.push c))
    | none => .stop [d.settle.cut .badEscape]
  | .escape, .stray _ => .stop [d.settle.cut .badEscape]
  | .unit seen, chunk =>
    if byteCount (chunk :: seen) < 4 then .go [] (.string (.unit (chunk :: seen)) d)
    else
      match unit? (chunk :: seen) with
      | some unit => .go [] (.string .plain (d.pushUnit unit))
      | none => .stop [d.cut .badEscape]

namespace State

/-- Takes one chunk. -/
def step : State → Chunk → Step
  | between, .char c => startToken c
  | between, .stray _ => .stop [.junk]
  | word _ [], _ => .stop [.brokenWord false]
  | word token (expected :: left), chunk =>
    if chunk = .char expected then
      if left.isEmpty then .go [token] .between else .go [] (.word token left)
    else .stop [.brokenWord false]
  | number part n, .char c => stepNumber part n c
  | number part n, .stray _ =>
    if part.mayEnd then .stop [numberToken n, .junk] else .stop [.brokenNumber false]
  | string part d, chunk => stepString part d chunk

/-- The tokens that are left over when the text ends. -/
def finish : State → List Token
  | between => []
  | word _ _ => [.brokenWord true]
  | number part n => if part.mayEnd then [numberToken n] else [.brokenNumber true]
  | string _ d => [d.cut .endInString]

end State

/-- Scans a text from a state on. -/
def run : State → List Chunk → List Token
  | state, [] => state.finish
  | state, chunk :: rest =>
    match state.step chunk with
    | .go tokens next => tokens ++ run next rest
    | .stop tokens => tokens

end Scan

/-- The tokens of a text. -/
def tokens (text : List Chunk) : List Token :=
  Scan.run .between text

/-- The tokens of a string. -/
def tokensOfString (s : String) : List Token :=
  tokens (s.toList.map .char)

end Json

end ScrollStory
