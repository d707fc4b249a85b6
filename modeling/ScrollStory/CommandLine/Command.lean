import ScrollStory.CommandLine.Arguments
import ScrollStory.Compiler
import ScrollStory.Storage.Path

/-!
# Commands

What the program can be asked to do, and the grammars of the arguments by which it is asked.
-/

namespace ScrollStory

namespace CommandLine

/-- A command of the program. -/
inductive Command where
  /-- Stores the artifacts of an article below a directory. -/
  | build (input root : Path) (baseUrl : Option String) (compiler : Compiler)
  /-- Writes one artifact to a file, or shows it. -/
  | artifact (kind : ArtifactKind) (input : Path) (output : Option Path) (compiler : Compiler)
  /-- Writes the plan of an article to a file, or shows it. -/
  | plan (input : Path) (output : Option Path) (compact : Bool) (compiler : Compiler)
  /-- Shows the structure of a valid article, or its statistics as JSON. -/
  | check (input : Path) (json : Bool) (compiler : Compiler)
  /-- Shows the names of all transitions. -/
  | transitions
  /-- Copies images next to an article. -/
  | stage (articleId : String) (images : List Path) (root : Path)
  /-- Shows what the program is. -/
  | about
  /-- Shows the version alone. -/
  | version
  /-- Shows how the program is used. -/
  | usage
  deriving DecidableEq, Repr

/-- The options of all commands that compile an article. -/
def compilerSwitches : List Switch :=
  [ { long := "step", value := some .word },
    { long := "pin-step", value := some .word },
    { long := "no-scroller" },
    { long := "use-durations" },
    { long := "trace" },
    { long := "strict-ids" },
    { long := "image-base", value := some .text },
    { long := "cdn-mirror", value := some .text } ]

/-- The option for where the output goes. -/
def outputSwitch : Switch where
  long := "output"
  short := some 'o'
  value := some .path

/-- A value put into a compiler, if it is there. -/
def applied {α : Type} (set : Compiler → α → Compiler) (value : Option α) (compiler : Compiler) :
    Compiler :=
  match value with
  | some a => set compiler a
  | none => compiler

/-- A compiler changed by an option, if it was given. -/
def switched (set : Compiler → Compiler) (given : Bool) (compiler : Compiler) : Compiler :=
  if given then set compiler else compiler

namespace Arguments

/-- The compiler that arguments ask for; the usual mirror counts if none is named. -/
def compiler (arguments : Arguments) (mirror : Option String) : Compiler :=
  ({} : Compiler)
    |> applied .withStepPercent ((arguments.value? "step").bind word?)
    |> applied .withPinStepPercent ((arguments.value? "pin-step").bind word?)
    |> switched .withoutScroller (arguments.has "no-scroller")
    |> switched (·.withDurationMode .fromAnimation) (arguments.has "use-durations")
    |> switched .withTraceCallbacks (arguments.has "trace")
    |> switched .strictIds (arguments.has "strict-ids")
    |> applied .withImageBase (arguments.value? "image-base")
    |> applied .withCdnMirror ((arguments.value? "cdn-mirror").or mirror)

/-- The first plain argument as a path. -/
def input (arguments : Arguments) : Path :=
  .ofText (arguments.plain.head?.getD "")

/-- The path of the output. -/
def output? (arguments : Arguments) : Option Path :=
  (arguments.value? "output").map .ofText

/-- The directory below which artifacts are stored. -/
def root (arguments : Arguments) : Path :=
  arguments.output?.getD (.ofText "output")

end Arguments

/-- A command with arguments of its own. -/
structure Subcommand where
  names : List String
  grammar : Grammar
  /-- The command for complete arguments and the usual mirror. -/
  make : Arguments → Option String → Command

/-- The command that compiles an article to one artifact. -/
def Subcommand.ofArtifact (names : List String) (kind : ArtifactKind) : Subcommand where
  names := names
  grammar := { switches := outputSwitch :: compilerSwitches, plain := [.path], required := 1 }
  make arguments mirror :=
    .artifact kind arguments.input arguments.output? (arguments.compiler mirror)

/-- All commands with arguments of their own. -/
def subcommands : List Subcommand :=
  [ { names := ["build"]
      grammar :=
        { switches := outputSwitch :: { long := "base-url", value := some .text } ::
            compilerSwitches
          plain := [.path]
          required := 1 }
      make := fun arguments mirror =>
        .build arguments.input arguments.root (arguments.value? "base-url")
          (arguments.compiler mirror) },
    .ofArtifact ["css"] .stylesheet,
    .ofArtifact ["script", "js"] .program,
    .ofArtifact ["html"] .html,
    { names := ["plan"]
      grammar :=
        { switches := outputSwitch :: { long := "compact" } :: compilerSwitches
          plain := [.path]
          required := 1 }
      make := fun arguments mirror =>
        .plan arguments.input arguments.output? (arguments.has "compact")
          (arguments.compiler mirror) },
    { names := ["check"]
      grammar :=
        { switches := { long := "json" } :: compilerSwitches, plain := [.path], required := 1 }
      make := fun arguments mirror =>
        .check arguments.input (arguments.has "json") (arguments.compiler mirror) },
    { names := ["transitions"], grammar := {}, make := fun _ _ => .transitions },
    { names := ["stage"]
      grammar :=
        { switches := [outputSwitch], plain := [.text, .path], repeats := true, required := 2 }
      make := fun arguments _ =>
        .stage (arguments.plain.head?.getD "") (arguments.plain.tail.map .ofText)
          arguments.root },
    { names := ["version"], grammar := {}, make := fun _ _ => .about } ]

/-- The words that begin a command. -/
def commandWords : List String :=
  subcommands.flatMap Subcommand.names ++ ["help"]

/-- The grammar of the arguments in front of a command. -/
def topGrammar : Grammar where
  plain := [.path, .path]
  commands := commandWords
  hasVersion := true

/-- The command without a word for it: an article and a directory for its artifacts. -/
def Command.ofPlain : List String → Command
  | [] => .usage
  | input :: rest => .build (.ofText input) (.ofText (rest.head?.getD "output")) none {}

/-- The command that begins with a word. -/
def Command.ofWord (word : String) (arguments : List String) (mirror : Option String) :
    Option Command :=
  if word = "help" then
    match arguments with
    | [] => some .usage
    | [topic] => if topGrammar.commands.contains topic then some .usage else none
    | _ => none
  else
    match subcommands.find? (·.names.contains word) with
    | none => none
    | some subcommand =>
      match subcommand.grammar.read arguments with
      | .refused => none
      | .help => some .usage
      | .version => some .version
      | .complete given _ => some (subcommand.make given mirror)

/-- The command that arguments ask for, if they can be understood. -/
def Command.ofArguments (arguments : List String) (mirror : Option String) : Option Command :=
  match topGrammar.read arguments with
  | .refused => none
  | .help => some .usage
  | .version => some .version
  | .complete given none => some (.ofPlain given.plain)
  | .complete _ (some (word, rest)) => Command.ofWord word rest mirror

end CommandLine

end ScrollStory
