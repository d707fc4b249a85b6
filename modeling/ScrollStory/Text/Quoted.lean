import ScrollStory.Text.Invisible
import ScrollStory.Text.Extending

/-!
# Quoted strings for messages

A string as it is shown inside a message: in double quotes, with quotes and backslashes escaped and
every character that would not show up by itself written as an escape.
-/

namespace ScrollStory

namespace Text

/-- The digits of a number in base sixteen, in lower case and without leading zeros. -/
def hex (n : Nat) : String :=
  String.ofList (Nat.toDigits 16 n)

/-- A character as it is written inside a quoted string. -/
def quotedChar (c : Char) : String :=
  if c = '\x00' then "\\0"
  else if c = '\t' then "\\t"
  else if c = '\r' then "\\r"
  else if c = '\n' then "\\n"
  else if c = '"' then "\\\""
  else if c = '\\' then "\\\\"
  else if isExtending c || isInvisible c then "\\u\x7b" ++ hex c.toNat ++ "\x7d"
  else String.singleton c

/-- A string in double quotes, every character of it visible. -/
def quoted (s : String) : String :=
  "\"" ++ String.join (s.toList.map quotedChar) ++ "\""

end Text

end ScrollStory
