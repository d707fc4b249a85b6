import ScrollStory.CommandLine.Command
import ScrollStory.CommandLine.Summary
import ScrollStory.Storage.DirectoryStore

/-!
# Reports

The result of running a command on some files: what is shown, and the failure that ended it. What
was shown before a failure stays.
-/

namespace ScrollStory

namespace CommandLine

/-- Why a run has failed. -/
inductive Failure where
  /-- The arguments were not understood. -/
  | badArguments
  | error (error : Error)
  /-- A path that should name a file has no name. -/
  | notFile (path : Path)
  deriving DecidableEq, Repr

namespace Failure

/-- The wording of a failure. -/
def message : Failure → String
  | badArguments => "invalid arguments, see --help"
  | error e => e.message
  | notFile path => "Not a file: " ++ path.text

/-- The exit code of a failure. -/
def code : Failure → Nat
  | badArguments => 2
  | _ => 1

/-- Whether the operating system is to blame. -/
def isFromSystem : Failure → Bool
  | error e => e.isFromSystem
  | _ => false

end Failure

/-- The result of a run. -/
structure Report where
  shown : String := ""
  failure : Option Failure := none
  deriving DecidableEq, Repr

namespace Report

/-- The exit code of a run. -/
def code (report : Report) : Nat :=
  match report.failure with
  | some failure => failure.code
  | none => 0

/-- What is said about a failure. -/
def complaint (report : Report) : String :=
  match report.failure with
  | some failure => "Error: " ++ failure.message ++ "\n"
  | none => ""

/-- A run that shows some lines. -/
def ofLines (lines : List String) : Report :=
  { shown := String.join (lines.map (· ++ "\n")) }

/-- A run that has failed before anything was shown. -/
def ofError (e : Error) : Report :=
  { failure := some (.error e) }

/-- A run that shows a line in front of what another run shows. -/
def after (line : String) (report : Report) : Report :=
  { report with shown := line ++ "\n" ++ report.shown }

/-- A run that shows lines if they could be made. -/
def ofResult : Except Error (List String) → Report
  | .ok lines => ofLines lines
  | .error e => ofError e

end Report

/-- How the program is used. -/
def usageLines : List String :=
  ["Usage: scrolly <FILE> [OUTPUT]", "       scrolly --help for more information"]

/-- The name and version of the program. -/
def versionLine : String := "scrolly 0.1.0"

/-- What the program is. -/
def aboutLines : List String :=
  [versionLine, "Scrollytelling article compiler", "", "License: MIT"]

namespace Command

variable {m : Type → Type} [Monad m] [FileAccess m]

/-- Writes a text to a file, or shows it. -/
def emit (content : String) : Option Path → m Report
  | none => return .ofLines [content]
  | some path => do
    if ← FileAccess.write path content.toUTF8 then
      return .ofLines ["Saved to " ++ path.text]
    else
      return .ofError .io

/-- Compiles the article in a file and emits what comes out. -/
def emitFrom (input : Path) (output : Option Path) (compiler : Compiler)
    (content : Edition → Except Error String) : m Report := do
  match (← compiler.parseFrom (FileAccess.read input)).bind content with
  | .error e => return .ofError e
  | .ok content => emit content output

/-- Stores the artifacts of the article in a file. -/
def buildFrom (input root : Path) (baseUrl : Option String) (compiler : Compiler) : m Report := do
  let store : DirectoryStore := ⟨root, none⟩
  let store := match baseUrl with
    | some url => store.withBaseUrl url
    | none => store
  match ← compiler.parseFrom (FileAccess.read input) with
  | .error e => return .ofError e
  | .ok edition =>
    match edition.bundle with
    | .error e => return .ofError e
    | .ok bundle =>
      match ← store.commit edition.article.id bundle with
      | .error e => return .ofError e
      | .ok locations =>
        return .ofLines <|
          "" :: "Output files:" :: locationLines (locations.map ArtifactLocation.location) ++
            ["", Note.count bundle.statistics.pages ++ " pages, " ++
              Note.count bundle.statistics.triggers ++ " triggers"]

/-- The lines on the structure or the statistics of an edition. -/
def checkLines (file : String) (json : Bool) (edition : Edition) :
    Except Error (List String) := do
  let bundle ← edition.bundle
  if json then
    return [bundle.statistics.toJson.text .pretty]
  else
    let plan ← edition.plan
    return summaryLines file edition.article plan bundle.statistics

/-- Copies images next to an article, up to the first that is refused. -/
def stageAll (store : DirectoryStore) (articleId : String) : List Path → m Report
  | [] => return {}
  | path :: rest => do
    match path.fileName? with
    | none => return { failure := some (.notFile path) }
    | some fileName =>
      match ← FileAccess.read path with
      | none => return .ofError .io
      | some content =>
        match ← store.stage articleId fileName content with
        | .error e => return .ofError e
        | .ok reference => return .after ("Staged " ++ reference) (← stageAll store articleId rest)

/-- Runs a command. -/
def run : Command → m Report
  | build input root baseUrl compiler => buildFrom input root baseUrl compiler
  | artifact .html input output compiler => emitFrom input output compiler Edition.html
  | artifact .stylesheet input output compiler => emitFrom input output compiler Edition.stylesheet
  | artifact .program input output compiler => emitFrom input output compiler Edition.program
  | plan input output compact compiler =>
    emitFrom input output compiler fun edition =>
      edition.plan.map fun plan => plan.toJson.text (if compact then .compact else .pretty)
  | check input json compiler => do
    let edition ← compiler.parseFrom (FileAccess.read input)
    return .ofResult (edition.bind (checkLines input.text json))
  | transitions => return .ofLines (Behavior.all.map Behavior.name)
  | stage articleId images root => stageAll ⟨root, none⟩ articleId images
  | about => return .ofLines aboutLines
  | version => return .ofLines [versionLine]
  | usage => return .ofLines usageLines

end Command

/-- Runs the command that arguments ask for. -/
def run {m : Type → Type} [Monad m] [FileAccess m] (arguments : List String)
    (mirror : Option String) : m Report :=
  match Command.ofArguments arguments mirror with
  | some command => command.run
  | none => return { failure := some .badArguments }

end CommandLine

end ScrollStory
