import ScrollStory.Article.Encode
import ScrollStory.Article.Parse
import ScrollStory.Artifact.Encode
import ScrollStory.Plan.Encode
import ScrollStory.Storage.Sink

/-!
# Compilers

A compiler holds the settings for all stages. It accepts an article, and what comes out, an edition,
gives the plan, each artifact, and the bundle that can be committed to a sink.
-/

namespace ScrollStory

/-- The settings for all stages. -/
structure Compiler where
  parse : ParseSettings := {}
  compile : CompileSettings := {}
  render : RenderSettings := {}
  deriving DecidableEq, Repr

/-- A valid article with the settings to compile it with. -/
structure Edition where
  article : Article
  compile : CompileSettings
  render : RenderSettings
  deriving DecidableEq, Repr

namespace Compiler

/-- Refuses identifiers of components that do not follow the convention. -/
def strictIds (compiler : Compiler) : Compiler :=
  { compiler with parse := compiler.parse.strictIds }

/-- Sets the scroll distance of a step. -/
def withStepPercent (compiler : Compiler) (percent : Nat) : Compiler :=
  { compiler with compile := compiler.compile.withStepPercent percent }

/-- Sets the scroll distance of a step of a pin. -/
def withPinStepPercent (compiler : Compiler) (percent : Nat) : Compiler :=
  { compiler with compile := compiler.compile.withPinStepPercent percent }

/-- Sets the class of the element that scrolls. -/
def withScroller (compiler : Compiler) (name : String) : Compiler :=
  { compiler with render := compiler.render.withScrollerClass name }

/-- Has the document scroll. -/
def withoutScroller (compiler : Compiler) : Compiler :=
  { compiler with render := compiler.render.withoutScroller }

/-- Sets where durations come from. -/
def withDurationMode (compiler : Compiler) (mode : DurationMode) : Compiler :=
  { compiler with compile := compiler.compile.withDurationMode mode }

/-- Has the program report its callbacks. -/
def withTraceCallbacks (compiler : Compiler) : Compiler :=
  { compiler with compile := compiler.compile.withTraceCallbacks true }

/-- Has pages compiled one after another. -/
def sequential (compiler : Compiler) : Compiler :=
  { compiler with compile := compiler.compile.sequential }

/-- Sets the usual title. -/
def withTitleFallback (compiler : Compiler) (title : String) : Compiler :=
  { compiler with render := compiler.render.withTitleFallback title }

/-- Sets where images come from. -/
def withImageBase (compiler : Compiler) (base : String) : Compiler :=
  { compiler with render := compiler.render.withImageBase base }

/-- Has the libraries taken from a mirror. -/
def withCdnMirror (compiler : Compiler) (url : String) : Compiler :=
  { compiler with render := compiler.render.withCdnMirror url }

/-- The edition of a valid article. -/
def edition (compiler : Compiler) (article : Article) : Edition :=
  ⟨article, compiler.compile, compiler.render⟩

/-- Validates an article that was built in code. -/
def load (compiler : Compiler) (article : Article) : Except Error Edition := do
  let article ← article.validate compiler.parse
  return compiler.edition article

/-- Parses an article from bytes. -/
def parseBytes (compiler : Compiler) (bytes : ByteArray) : Except Error Edition := do
  let article ← compiler.parse.parseBytes bytes
  return compiler.edition article

/-- Parses an article from a string. -/
def parseText (compiler : Compiler) (text : String) : Except Error Edition := do
  let article ← compiler.parse.parseText text
  return compiler.edition article

/-- Parses an article from the bytes that a source gives. -/
def parseFrom {m : Type → Type} [Monad m] (compiler : Compiler) (source : m (Option ByteArray)) :
    m (Except Error Edition) := do
  return (← compiler.parse.parseFrom source).map compiler.edition

end Compiler

namespace Edition

/-- The plan. -/
def plan (edition : Edition) : Except Error Plan :=
  edition.article.compile edition.compile

/-- The HTML document. -/
def html (edition : Edition) : Except Error String :=
  edition.article.html edition.render

/-- The stylesheet. -/
def stylesheet (edition : Edition) : Except Error String :=
  edition.article.stylesheet edition.render

/-- The animation program. -/
def program (edition : Edition) : Except Error String :=
  edition.article.program edition.compile edition.render

/-- The three artifacts with statistics. -/
def bundle (edition : Edition) : Except Error Bundle :=
  edition.article.render edition.compile edition.render

/-- Stores the bundle in a sink; nothing reaches the sink if there is no bundle. -/
def commit {m : Type → Type} [Monad m] (edition : Edition) (sink : ArtifactSink m) :
    m (Except Error (List ArtifactLocation)) :=
  match edition.bundle with
  | .error e => return .error e
  | .ok bundle => sink.commit edition.article.id bundle

/-- The notes on committing to a sink. -/
def commitNotes (edition : Edition) (sinkName : String) : List Note :=
  edition.article.renderNotes edition.compile edition.render ++
    match edition.bundle with
    | .error _ => []
    | .ok _ => [.committing edition.article.id sinkName]

end Edition

end ScrollStory
