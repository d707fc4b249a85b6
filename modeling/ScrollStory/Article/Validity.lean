import ScrollStory.Article.Basic
import ScrollStory.Article.CssLength
import ScrollStory.Article.Identifier
import ScrollStory.Decimal.Basic
import ScrollStory.Error
import ScrollStory.Note

/-!
# Valid articles

The rules that an article has to follow beyond its shape. Every break of a rule is a finding with
its place, and the findings of an article come in the order of the document. An identifier that does
not follow the convention is an error, a warning or nothing, as the settings say; the first error
decides, and the warnings before it are kept.
-/

namespace ScrollStory

/-- What becomes of component identifiers that do not follow the convention. -/
inductive Convention where
  | ignore
  | warn
  | enforce
  deriving DecidableEq, Repr

/-- How articles are read. -/
structure ParseSettings where
  convention : Convention := .warn
  /-- Whether an article needs a page. -/
  requirePages : Bool := false
  deriving DecidableEq, Repr

namespace ParseSettings

/-- Settings under which the convention is enforced. -/
def strictIds (settings : ParseSettings) : ParseSettings :=
  { settings with convention := .enforce }

end ParseSettings

/-- A rule that is broken. -/
inductive Problem where
  | badIdentifier (id : String)
  | noPages
  | zeroStep
  | badLength (value : String)
  | duplicatePage (id : String)
  | blankTransition
  | textWithoutContent
  | textWithImage
  | imageWithoutData
  | imageWithContent
  | duplicateComponent (id : String)
  | offConvention (componentId pageId : String)
  deriving DecidableEq, Repr

/-- The wording of a problem. -/
def Problem.message : Problem → String
  | badIdentifier id => "'" ++ id ++ "' is not a valid identifier"
  | noPages => "article has no pages"
  | zeroStep => "step must be greater than zero"
  | badLength value => "'" ++ value ++ "' is not a CSS length"
  | duplicatePage id => "duplicate page id '" ++ id ++ "'"
  | blankTransition => "transition must be non-empty"
  | textWithoutContent => "text component requires contentHtml"
  | textWithImage => "text component must not carry an image"
  | imageWithoutData => "image component requires image data"
  | imageWithContent => "image component must not carry contentHtml"
  | duplicateComponent id => "duplicate component id '" ++ id ++ "'"
  | offConvention componentId pageId => Note.conventionText componentId pageId

/-- A place in an article: a part of it, and a field there. The field is empty if the whole part is
meant. -/
inductive Place where
  | article (field : String)
  | page (i : Nat) (field : String)
  | frame (i j : Nat) (field : String)
  | component (i j k : Nat) (field : String)
  deriving DecidableEq, Repr

namespace Place

/-- A name with an index. -/
def indexed (name : String) (i : Nat) : String :=
  name ++ "[" ++ (Decimal.ofInt i).plain ++ "]"

/-- The path of a field of a part. -/
def within (part field : String) : String :=
  if field = "" then part else part ++ "." ++ field

/-- The path of a place. -/
def path : Place → String
  | article field => field
  | page i field => within (indexed "pages" i) field
  | frame i j field => within (indexed "pages" i ++ "." ++ indexed "frames" j) field
  | component i j k field =>
    within (indexed "pages" i ++ "." ++ indexed "frames" j ++ "." ++ indexed "components" k) field

end Place

/-- A break of a rule at a place. -/
structure Finding where
  place : Place
  problem : Problem
  deriving DecidableEq, Repr

namespace Finding

/-- A problem at a place, unless the rule is kept. -/
def ensure (kept : Bool) (place : Place) (problem : Problem) : List Finding :=
  if kept then [] else [⟨place, problem⟩]

/-- Whether a finding is an error. -/
def isError (convention : Convention) (finding : Finding) : Bool :=
  match finding.problem with
  | .offConvention .. => convention = .enforce
  | _ => true

/-- The error of a finding. -/
def error (finding : Finding) : Error :=
  .schema finding.place.path finding.problem.message

/-- The warning of a finding that is not an error. -/
def warning? (finding : Finding) : Option Note :=
  match finding.problem with
  | .offConvention componentId pageId => some (.offConvention componentId pageId)
  | _ => none

end Finding

namespace Layout

/-- The sizes of a layout that are given, with the names of their fields. -/
def givenSizes (layout : Layout) : List (String × String) :=
  [("heightTop", layout.heightTop), ("widthLeft", layout.widthLeft),
    ("heightBottom", layout.heightBottom), ("widthRight", layout.widthRight)].filterMap
    fun (field, size) => size.map (field, ·)

end Layout

namespace Component

/-- Whether a component has an image with data that is not blank. -/
def hasImageData (c : Component) : Bool :=
  match c.image.bind Image.data with
  | some data => !Text.isBlankString data
  | none => false

/-- The findings about a component by itself. -/
def findings (place : String → Place) (c : Component) : List Finding :=
  Finding.ensure (isIdentifier c.id) (place "id") (.badIdentifier c.id) ++
  Finding.ensure (!Text.isBlankString c.animation.transition) (place "animation.transition")
    .blankTransition ++
  match c.type with
  | .text =>
    Finding.ensure c.contentHtml.isSome (place "") .textWithoutContent ++
    Finding.ensure c.image.isNone (place "") .textWithImage
  | .image =>
    Finding.ensure c.hasImageData (place "image.data") .imageWithoutData ++
    Finding.ensure c.contentHtml.isNone (place "") .imageWithContent

end Component

namespace Page

/-- The findings about a page by itself, its frames apart. -/
def ownFindings (i : Nat) (page : Page) : List Finding :=
  Finding.ensure (isIdentifier page.id) (.page i "id") (.badIdentifier page.id) ++
  Finding.ensure (page.stepPercent ≠ some 0) (.page i "stepPercent") .zeroStep ++
  page.layout.givenSizes.flatMap fun (field, size) =>
    Finding.ensure (isCssLength size) (.page i ("layout." ++ field)) (.badLength size)

/-- The findings about a component of a page, with the components before it in the article. -/
def componentFindings (page : Page) (earlier : List Component) (i j k : Nat) (c : Component) :
    List Finding :=
  c.findings (.component i j k) ++
  Finding.ensure (!(earlier.map Component.id).contains c.id) (.component i j k "id")
    (.duplicateComponent c.id) ++
  Finding.ensure (followsConvention page.id c.id) (.component i j k "id")
    (.offConvention c.id page.id)

/-- The findings about a frame of a page, with the components before it in the article. -/
def frameFindings (page : Page) (earlier : List Component) (i j : Nat) (frame : Frame) :
    List Finding :=
  Finding.ensure (isIdentifier frame.id) (.frame i j "id") (.badIdentifier frame.id) ++
  (frame.components.mapIdx fun k c =>
    page.componentFindings (earlier ++ frame.components.take k) i j k c).flatten

/-- The findings about a page, with the pages before it. -/
def findings (earlier : List Page) (i : Nat) (page : Page) : List Finding :=
  page.ownFindings i ++
  Finding.ensure (!(earlier.map Page.id).contains page.id) (.page i "id")
    (.duplicatePage page.id) ++
  (page.frames.mapIdx fun j frame =>
    page.frameFindings
      (earlier.flatMap Page.components ++ (page.frames.take j).flatMap Frame.components)
      i j frame).flatten

end Page

namespace Article

/-- All findings about an article, in the order of the document. -/
def findings (requirePages : Bool) (article : Article) : List Finding :=
  Finding.ensure (isIdentifier article.id) (.article "articleId") (.badIdentifier article.id) ++
  Finding.ensure (!(requirePages && article.pages.isEmpty)) (.article "pages") .noPages ++
  (article.pages.mapIdx fun i page => page.findings (article.pages.take i) i).flatten

/-- The first error in an article. -/
def firstError? (settings : ParseSettings) (article : Article) : Option Finding :=
  (article.findings settings.requirePages).find? (Finding.isError settings.convention)

/-- The warnings about an article: those before the first error. -/
def warnings (settings : ParseSettings) (article : Article) : List Note :=
  if settings.convention = .ignore then []
  else
    ((article.findings settings.requirePages).takeWhile
      fun finding => !finding.isError settings.convention).filterMap Finding.warning?

/-- Accepts an article that breaks no rule, and stamps its components. -/
def validate (settings : ParseSettings) (article : Article) : Except Error Article :=
  match article.firstError? settings with
  | some finding => .error finding.error
  | none => .ok article.stamp

/-- The notes on validating an article. -/
def validateNotes (settings : ParseSettings) (article : Article) : List Note :=
  article.warnings settings ++
    if (article.firstError? settings).isNone then
      [.parsed article.id article.pages.length article.componentCount]
    else []

end Article

end ScrollStory
