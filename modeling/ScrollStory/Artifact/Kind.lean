/-!
# Kinds of artifacts

An article becomes three artifacts. Each kind has a fixed path below the directory of the article.
-/

namespace ScrollStory

/-- A kind of artifacts. -/
inductive ArtifactKind where
  | html
  | stylesheet
  | program
  deriving DecidableEq, Repr

namespace ArtifactKind

/-- The kinds in the order in which artifacts are stored. -/
def all : List ArtifactKind := [html, stylesheet, program]

theorem mem_all (kind : ArtifactKind) : kind ∈ all := by
  cases kind <;> simp [all]

/-- The name of a kind. -/
def name : ArtifactKind → String
  | html => "html"
  | stylesheet => "stylesheet"
  | program => "animation-program"

/-- The kinds by their names. -/
def table : List (String × ArtifactKind) :=
  all.map fun kind => (kind.name, kind)

/-- The names of the directories and of the file below the directory of the article. -/
def steps : ArtifactKind → List String
  | html => ["index.html"]
  | stylesheet => ["css", "styles.css"]
  | program => ["js", "animation.js"]

/-- The path below the directory of the article. -/
def relativePath (kind : ArtifactKind) : String :=
  "/".intercalate kind.steps

/-- The type of the contents. -/
def contentType : ArtifactKind → String
  | html => "text/html"
  | stylesheet => "text/css"
  | program => "text/javascript"

end ArtifactKind

end ScrollStory
