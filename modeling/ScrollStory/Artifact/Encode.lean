import ScrollStory.Artifact.Bundle
import ScrollStory.Json.Record

/-!
# Bundles as JSON texts

The value of a bundle holds its artifacts and its statistics; reading a bundle asks for all of them.
-/

namespace ScrollStory

open Json (Read Value)

/-- Reads the name of a kind of artifacts. -/
def ArtifactKind.read : Read ArtifactKind := Read.oneOf ArtifactKind.table

namespace Statistics

/-- The value of statistics. -/
def toJson (statistics : Statistics) : Value :=
  .object [
    ("page_count", .nat statistics.pages),
    ("pinned_page_count", .nat statistics.pinnedPages),
    ("frame_count", .nat statistics.frames),
    ("text_count", .nat statistics.texts),
    ("image_count", .nat statistics.images),
    ("trigger_count", .nat statistics.triggers)]

/-- The statistics that have been read. -/
structure Draft where
  pages : Option Nat := none
  pinnedPages : Option Nat := none
  frames : Option Nat := none
  texts : Option Nat := none
  images : Option Nat := none
  triggers : Option Nat := none

/-- Reads a member of statistics. -/
def Draft.member (name : String) (d : Draft) : Read Draft := do
  match name with
  | "page_count" => return { d with pages := ← Read.field name d.pages .word }
  | "pinned_page_count" => return { d with pinnedPages := ← Read.field name d.pinnedPages .word }
  | "frame_count" => return { d with frames := ← Read.field name d.frames .word }
  | "text_count" => return { d with texts := ← Read.field name d.texts .word }
  | "image_count" => return { d with images := ← Read.field name d.images .word }
  | "trigger_count" => return { d with triggers := ← Read.field name d.triggers .word }
  | _ =>
    Read.skipMember
    return d

/-- The statistics of a complete draft. -/
def Draft.complete (d : Draft) : Read Statistics :=
  return {
    pages := ← Read.required "page_count" d.pages
    pinnedPages := ← Read.required "pinned_page_count" d.pinnedPages
    frames := ← Read.required "frame_count" d.frames
    texts := ← Read.required "text_count" d.texts
    images := ← Read.required "image_count" d.images
    triggers := ← Read.required "trigger_count" d.triggers }

/-- What statistics are called in messages. -/
def wanted : String := "struct CompileStats"

/-- Reads statistics. -/
def read : Read Statistics :=
  Read.record wanted
    (do (← Read.draft Draft.member {}).complete)
    (return {
      pages := ← Read.itemAt wanted 6 0 .word
      pinnedPages := ← Read.itemAt wanted 6 1 .word
      frames := ← Read.itemAt wanted 6 2 .word
      texts := ← Read.itemAt wanted 6 3 .word
      images := ← Read.itemAt wanted 6 4 .word
      triggers := ← Read.itemAt wanted 6 5 .word })

end Statistics

namespace Bundle

/-- The value of a bundle. -/
def toJson (bundle : Bundle) : Value :=
  .object [
    ("article_id", .string bundle.articleId),
    ("html", .string bundle.html),
    ("stylesheet", .string bundle.stylesheet),
    ("animation_program", .string bundle.program),
    ("stats", bundle.statistics.toJson)]

/-- The parts of a bundle that have been read. -/
structure Draft where
  articleId : Option String := none
  html : Option String := none
  stylesheet : Option String := none
  program : Option String := none
  statistics : Option Statistics := none

/-- Reads a member of a bundle. -/
def Draft.member (name : String) (d : Draft) : Read Draft := do
  match name with
  | "article_id" => return { d with articleId := ← Read.field name d.articleId .string }
  | "html" => return { d with html := ← Read.field name d.html .string }
  | "stylesheet" => return { d with stylesheet := ← Read.field name d.stylesheet .string }
  | "animation_program" => return { d with program := ← Read.field name d.program .string }
  | "stats" => return { d with statistics := ← Read.field name d.statistics Statistics.read }
  | _ =>
    Read.skipMember
    return d

/-- The bundle of a complete draft. -/
def Draft.complete (d : Draft) : Read Bundle :=
  return {
    articleId := ← Read.required "article_id" d.articleId
    html := ← Read.required "html" d.html
    stylesheet := ← Read.required "stylesheet" d.stylesheet
    program := ← Read.required "animation_program" d.program
    statistics := ← Read.required "stats" d.statistics }

/-- What a bundle is called in messages. -/
def wanted : String := "struct ArtifactBundle"

/-- Reads a bundle. -/
def read : Read Bundle :=
  Read.record wanted
    (do (← Read.draft Draft.member {}).complete)
    (return {
      articleId := ← Read.itemAt wanted 5 0 .string
      html := ← Read.itemAt wanted 5 1 .string
      stylesheet := ← Read.itemAt wanted 5 2 .string
      program := ← Read.itemAt wanted 5 3 .string
      statistics := ← Read.itemAt wanted 5 4 Statistics.read })

end Bundle

end ScrollStory
