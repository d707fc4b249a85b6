/-!
# UTF-8 text that may be damaged

Bytes are read into chunks: characters, and stretches that are not part of any character. A stretch
is as long as it can be: the bytes that could still have begun a character, and no further. The
decoder is a machine that takes one byte at a time.
-/

namespace ScrollStory

namespace Text

/-- A piece of decoded text. -/
inductive Chunk where
  /-- A character. -/
  | char (c : Char)
  /-- The number of bytes of a stretch that is not part of any character. -/
  | stray (bytes : Nat)
  deriving DecidableEq, Repr

namespace Chunk

/-- The number of bytes that a chunk stands for. -/
def size : Chunk → Nat
  | char c => c.utf8Size
  | stray bytes => bytes

/-- The character shown for a chunk: a stretch without meaning shows as one U+FFFD. -/
def shown : Chunk → Char
  | char c => c
  | stray _ => '\uFFFD'

end Chunk

namespace Utf8

/-- What the decoder remembers between two bytes. -/
inductive State where
  /-- No character is begun. -/
  | ready
  /-- A character is begun: `missing` bytes are to come, the next one from `low` to `high`, the
  bytes so far stand for `value`, and they are `seen` in number. -/
  | within (missing value low high seen : Nat)
  deriving DecidableEq, Repr

namespace State

/-- Takes a byte when no character is begun. -/
def start (b : Nat) : List Chunk × State :=
  if b < 0x80 then ([.char (Char.ofNat b)], .ready)
  else if b < 0xC2 then ([.stray 1], .ready)
  else if b < 0xE0 then ([], .within 1 (b - 0xC0) 0x80 0xBF 1)
  else if b < 0xF0 then
    ([], .within 2 (b - 0xE0) (if b = 0xE0 then 0xA0 else 0x80) (if b = 0xED then 0x9F else 0xBF) 1)
  else if b < 0xF5 then
    ([], .within 3 (b - 0xF0) (if b = 0xF0 then 0x90 else 0x80) (if b = 0xF4 then 0x8F else 0xBF) 1)
  else ([.stray 1], .ready)

/-- Takes one byte. A byte that cannot go on with the character ends a stray stretch before it. -/
def step : State → Nat → List Chunk × State
  | ready, b => start b
  | within missing value low high seen, b =>
    if low ≤ b ∧ b ≤ high then
      if missing = 1 then ([.char (Char.ofNat (value * 64 + (b - 0x80)))], .ready)
      else ([], .within (missing - 1) (value * 64 + (b - 0x80)) 0x80 0xBF (seen + 1))
    else
      let (chunks, next) := start b
      (.stray seen :: chunks, next)

/-- What is left over when the bytes end. -/
def finish : State → List Chunk
  | ready => []
  | within _ _ _ _ seen => [.stray seen]

end State

/-- Decodes bytes from a state of the decoder on. -/
def decodeFrom : State → List UInt8 → List Chunk
  | state, [] => state.finish
  | state, b :: rest =>
    let (chunks, next) := state.step b.toNat
    chunks ++ decodeFrom next rest

/-- The chunks of a text given as bytes. -/
def decode (bytes : List UInt8) : List Chunk :=
  decodeFrom .ready bytes

/-- Bytes as a string, with U+FFFD for every stretch that is not part of a character. -/
def toStringLossy (bytes : List UInt8) : String :=
  String.ofList ((decode bytes).map Chunk.shown)

end Utf8

end Text

end ScrollStory
