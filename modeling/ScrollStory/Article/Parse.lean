import ScrollStory.Article.Decode
import ScrollStory.Article.Validity

/-!
# From text to articles

The text of an article is read, the article is validated, and its components are stamped. The notes
of a parse are those of the validation; a text that cannot be read leaves none.
-/

namespace ScrollStory

open Json (Fault)

namespace Article

/-- The article in a text, not validated. -/
def decode (text : List Text.Chunk) : Except Fault Article :=
  Json.Read.all Article.read (Json.tokens text)

/-- The article in a string, not validated. -/
def ofText (text : String) : Except Fault Article :=
  Json.Read.all Article.read (Json.tokensOfString text)

/-- The article in bytes, not validated. -/
def ofBytes (bytes : ByteArray) : Except Fault Article :=
  decode (Text.Utf8.decode bytes.toList)

end Article

namespace ParseSettings

/-- The valid article in what was read, its components stamped. -/
def accept (settings : ParseSettings) (article : Except Fault Article) : Except Error Article :=
  match article with
  | .error fault => .error (.json fault)
  | .ok article => article.validate settings

/-- The notes on accepting what was read. -/
def acceptNotes (settings : ParseSettings) (article : Except Fault Article) : List Note :=
  match article with
  | .error _ => []
  | .ok article => article.validateNotes settings

/-- The valid article in a string. -/
def parseText (settings : ParseSettings) (text : String) : Except Error Article :=
  settings.accept (Article.ofText text)

/-- The valid article in bytes. -/
def parseBytes (settings : ParseSettings) (bytes : ByteArray) : Except Error Article :=
  settings.accept (Article.ofBytes bytes)

/-- The notes on parsing bytes. -/
def parseBytesNotes (settings : ParseSettings) (bytes : ByteArray) : List Note :=
  settings.acceptNotes (Article.ofBytes bytes)

/-- The valid article in the bytes that a source gives; a source may fail to give any. -/
def parseFrom {m : Type → Type} [Monad m] (settings : ParseSettings)
    (source : m (Option ByteArray)) : m (Except Error Article) := do
  match ← source with
  | none => return .error .io
  | some bytes => return settings.parseBytes bytes

end ParseSettings

end ScrollStory
