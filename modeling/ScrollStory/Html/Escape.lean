/-!
# Escaping for HTML

Text between tags and text in attributes is written with entities for the characters that would end
it.
-/

namespace ScrollStory

namespace Html

/-- A character as it is written between tags. -/
def textChar (c : Char) : List Char :=
  if c = '&' then "&amp;".toList
  else if c = '<' then "&lt;".toList
  else if c = '>' then "&gt;".toList
  else [c]

/-- A character as it is written in an attribute, where quotes need entities too. -/
def attributeChar (c : Char) : List Char :=
  if c = '"' then "&quot;".toList
  else if c = '\'' then "&#39;".toList
  else textChar c

/-- A string as it is written between tags. -/
def escapeText (s : String) : String :=
  String.ofList (s.toList.flatMap textChar)

/-- A string as it is written in an attribute. -/
def escapeAttribute (s : String) : String :=
  String.ofList (s.toList.flatMap attributeChar)

end Html

end ScrollStory
