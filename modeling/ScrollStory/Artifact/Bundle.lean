import ScrollStory.Artifact.Kind
import ScrollStory.Css.Stylesheet
import ScrollStory.Html.Document
import ScrollStory.Plan.Compile
import ScrollStory.Script.Program

/-!
# Bundles

The three artifacts of an article, built together from one plan, and the statistics on the article.
-/

namespace ScrollStory

/-- Statistics on a compiled article. -/
structure Statistics where
  pages : Nat
  pinnedPages : Nat
  frames : Nat
  texts : Nat
  images : Nat
  triggers : Nat
  deriving DecidableEq, Repr

namespace Statistics

/-- The number of components. -/
def components (statistics : Statistics) : Nat :=
  statistics.texts + statistics.images

/-- The statistics on an article and its plan. -/
def of (article : Article) (plan : Plan) : Statistics where
  pages := article.pages.length
  pinnedPages := plan.pinCount
  frames := (article.pages.flatMap Page.frames).length
  texts := article.components.countP (!·.isImage)
  images := article.components.countP (·.isImage)
  triggers := plan.triggerCount

end Statistics

/-- The artifacts of an article. -/
structure Bundle where
  articleId : String
  html : String
  stylesheet : String
  program : String
  statistics : Statistics
  deriving DecidableEq, Repr

namespace Bundle

/-- The artifact of a kind. -/
def get (bundle : Bundle) : ArtifactKind → String
  | .html => bundle.html
  | .stylesheet => bundle.stylesheet
  | .program => bundle.program

/-- The artifacts with their kinds, in the order in which they are stored. -/
def artifacts (bundle : Bundle) : List (ArtifactKind × String) :=
  ArtifactKind.all.map fun kind => (kind, bundle.get kind)

/-- The size of all artifacts in bytes. -/
def size (bundle : Bundle) : Nat :=
  bundle.html.utf8ByteSize + bundle.stylesheet.utf8ByteSize + bundle.program.utf8ByteSize

end Bundle

namespace Article

/-- The artifacts of an article whose plan is known. -/
def renderPlan (article : Article) (plan : Plan) (settings : RenderSettings) :
    Except Error Bundle := do
  let stylesheet ← article.stylesheet settings
  let html ← article.html settings
  return {
    articleId := article.id
    html := html
    stylesheet := stylesheet
    program := plan.program settings
    statistics := .of article plan }

/-- The artifacts of an article, if it has a plan. -/
def render (article : Article) (compileSettings : CompileSettings)
    (settings : RenderSettings) : Except Error Bundle := do
  let plan ← article.compile compileSettings
  article.renderPlan plan settings

/-- The program of an article, if it has a plan. -/
def program (article : Article) (compileSettings : CompileSettings)
    (settings : RenderSettings) : Except Error String := do
  let plan ← article.compile compileSettings
  return plan.program settings

/-- The notes on rendering an article: those on its plan, and if there is one, those on the
stylesheet and one on the bundle. -/
def renderNotes (article : Article) (compileSettings : CompileSettings)
    (settings : RenderSettings) : List Note :=
  article.compileNotes compileSettings ++
    match article.compile compileSettings with
    | .error _ => []
    | .ok plan =>
      article.stylesheetNotes ++
        match article.renderPlan plan settings with
        | .error _ => []
        | .ok bundle =>
          [.rendered article.id bundle.statistics.triggers bundle.stylesheet.utf8ByteSize
            bundle.program.utf8ByteSize]

end Article

end ScrollStory
