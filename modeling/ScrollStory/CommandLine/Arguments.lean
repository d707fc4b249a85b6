import ScrollStory.Decimal.Power
import ScrollStory.Storage.Table

/-!
# Arguments

The arguments of a command are read from left to right by its grammar: options by name, each at most
once, and plain arguments by position. The first argument that does not fit, and the first one that
asks for help or for the version, decides. Behind `--` all arguments are plain.
-/

namespace ScrollStory

namespace CommandLine

/-- What a value has to look like. -/
inductive ValueKind where
  /-- Any text. -/
  | text
  /-- A path, which is not empty. -/
  | path
  /-- A whole number below `2 ^ 32`. -/
  | word
  deriving DecidableEq, Repr

/-- The number that decimal digits stand for. -/
def digitsValue : List Char → Nat
  | cs => cs.foldl (fun n c => 10 * n + (c.toNat - '0'.toNat)) 0

/-- The number that a list of decimal digits stands for, if it is one. -/
def natural? (cs : List Char) : Option Nat :=
  if cs ≠ [] ∧ cs.all (fun c => '0' ≤ c ∧ c ≤ '9') then some (digitsValue cs) else none

/-- The whole number below `2 ^ 32` that a text stands for. A sign is allowed. -/
def word? (text : String) : Option Nat :=
  match text.toList with
  | '+' :: digits => (natural? digits).filter (· < twoTo 32)
  | '-' :: digits => (natural? digits).filter (· = 0)
  | digits => (natural? digits).filter (· < twoTo 32)

/-- Whether a text is a value of a kind. -/
def ValueKind.fits (text : String) : ValueKind → Bool
  | .text => true
  | .path => !text.isEmpty
  | .word => (word? text).isSome

/-- An option of a command. -/
structure Switch where
  long : String
  short : Option Char := none
  /-- The kind of its value, if it takes one. -/
  value : Option ValueKind := none
  deriving DecidableEq, Repr

/-- The arguments that a command takes. -/
structure Grammar where
  switches : List Switch := []
  /-- The kinds of the plain arguments. -/
  plain : List ValueKind := []
  /-- Whether the last plain argument may be repeated. -/
  repeats : Bool := false
  /-- The number of plain arguments that have to be there. -/
  required : Nat := 0
  /-- The words that end the arguments of this command and begin those of another one. -/
  commands : List String := []
  /-- Whether the version can be asked for. -/
  hasVersion : Bool := false
  deriving DecidableEq, Repr

namespace Grammar

/-- The option with a long name. -/
def long? (grammar : Grammar) (name : String) : Option Switch :=
  grammar.switches.find? (·.long = name)

/-- The option with a short name. -/
def short? (grammar : Grammar) (name : Char) : Option Switch :=
  grammar.switches.find? (·.short = some name)

/-- The kind of the plain argument with an index. -/
def plainKind? (grammar : Grammar) (index : Nat) : Option ValueKind :=
  match grammar.plain[index]? with
  | some kind => some kind
  | none => if grammar.repeats then grammar.plain.getLast? else none

end Grammar

/-- The arguments that have been read. -/
structure Arguments where
  /-- The values of the options by their long names; an option without a value has an empty one. -/
  named : Table String String := []
  plain : List String := []
  deriving DecidableEq, Repr

namespace Arguments

/-- The value of an option. -/
def value? (arguments : Arguments) (long : String) : Option String :=
  Table.get? arguments.named long

/-- Whether an option was given. -/
def has (arguments : Arguments) (long : String) : Bool :=
  (arguments.value? long).isSome

/-- Adds an option that takes no value. -/
def addFlag (arguments : Arguments) (switch : Switch) : Option Arguments :=
  if arguments.has switch.long then none
  else some { arguments with named := Table.put arguments.named switch.long "" }

/-- Adds an option with a value of a kind. -/
def addValue (arguments : Arguments) (long : String) (kind : ValueKind) (value : String) :
    Option Arguments :=
  if arguments.has long ∨ kind.fits value = false then none
  else some { arguments with named := Table.put arguments.named long value }

/-- Adds a plain argument. -/
def addPlain (arguments : Arguments) (grammar : Grammar) (text : String) : Option Arguments :=
  match grammar.plainKind? arguments.plain.length with
  | none => none
  | some kind =>
    if kind.fits text then some { arguments with plain := arguments.plain ++ [text] } else none

end Arguments

/-- What an argument is by its form. -/
inductive Form where
  /-- Two dashes. -/
  | ending
  /-- A long name, and a value behind an equals sign. -/
  | long (name : String) (value : Option String)
  /-- A short name with what stands behind it. -/
  | short (name : Char) (rest : List Char)
  | plain
  deriving DecidableEq, Repr

/-- The form of a long name with or without a value. -/
def Form.ofLong (cs : List Char) : Form :=
  match cs.dropWhile (· != '=') with
  | [] => .long (String.ofList cs) none
  | _ :: value => .long (String.ofList (cs.takeWhile (· != '='))) (some (String.ofList value))

/-- The form of an argument. One dash alone is plain. -/
def Form.of (argument : String) : Form :=
  match argument.toList with
  | ['-', '-'] => .ending
  | '-' :: '-' :: cs => .ofLong cs
  | '-' :: c :: cs => .short c cs
  | _ => .plain

/-- How the reading of arguments ended. -/
inductive Gathering where
  | refused
  | help
  | version
  /-- All arguments are read, or those in front of the word of another command. -/
  | complete (arguments : Arguments) (next : Option (String × List String))
  deriving DecidableEq, Repr

/-- What one argument does. -/
inductive Effect where
  | refused
  | help
  | version
  | proceed (arguments : Arguments)
  /-- The value of an option is to come. -/
  | await (long : String) (kind : ValueKind)
  /-- All arguments behind it are plain. -/
  | endOptions
  deriving DecidableEq, Repr

namespace Effect

/-- Goes on if an argument could be added. -/
def ofAdded : Option Arguments → Effect
  | some arguments => .proceed arguments
  | none => .refused

/-- The effect of an option by its long name. -/
def ofLong (grammar : Grammar) (arguments : Arguments) (name : String) (value : Option String) :
    Effect :=
  match grammar.long? name, value with
  | some ⟨long, _, some kind⟩, some value => ofAdded (arguments.addValue long kind value)
  | some ⟨long, _, some kind⟩, none => .await long kind
  | some switch, none => ofAdded (arguments.addFlag switch)
  | some _, some _ => .refused
  | none, some _ => .refused
  | none, none =>
    if name = "help" then .help
    else if name = "version" ∧ grammar.hasVersion then .version
    else .refused

/-- The effect of an option by its short name. Its value may stand right behind it. -/
def ofShort (grammar : Grammar) (arguments : Arguments) (name : Char) (rest : List Char) :
    Effect :=
  match grammar.short? name with
  | some ⟨long, _, some kind⟩ =>
    match rest with
    | [] => .await long kind
    | '=' :: value => ofAdded (arguments.addValue long kind (String.ofList value))
    | value => ofAdded (arguments.addValue long kind (String.ofList value))
  | some switch => if rest.isEmpty then ofAdded (arguments.addFlag switch) else .refused
  | none =>
    if name = 'h' then .help
    else if name = 'V' ∧ grammar.hasVersion then .version
    else .refused

/-- The effect of an argument that is not the value of an option. -/
def of (grammar : Grammar) (arguments : Arguments) (argument : String) : Effect :=
  match Form.of argument with
  | .ending => .endOptions
  | .long name value => ofLong grammar arguments name value
  | .short name rest => ofShort grammar arguments name rest
  | .plain => ofAdded (arguments.addPlain grammar argument)

end Effect

/-- Adds plain arguments. -/
def addAllPlain (grammar : Grammar) : Arguments → List String → Option Arguments
  | arguments, [] => some arguments
  | arguments, text :: rest => do
    let arguments ← arguments.addPlain grammar text
    addAllPlain grammar arguments rest

/-- Reads arguments from left to right; `awaited` is the option whose value is to come, which does
not look like an option itself. -/
def gather (grammar : Grammar) :
    Arguments → Option (String × ValueKind) → List String → Gathering
  | arguments, none, [] => .complete arguments none
  | _, some _, [] => .refused
  | arguments, some (long, kind), value :: rest =>
    match Form.of value, arguments.addValue long kind value with
    | .plain, some arguments => gather grammar arguments none rest
    | _, _ => .refused
  | arguments, none, argument :: rest =>
    if grammar.commands.contains argument then .complete arguments (some (argument, rest))
    else
      match Effect.of grammar arguments argument with
      | .refused => .refused
      | .help => .help
      | .version => .version
      | .proceed arguments => gather grammar arguments none rest
      | .await long kind => gather grammar arguments (some (long, kind)) rest
      | .endOptions =>
        match addAllPlain grammar arguments rest with
        | some arguments => .complete arguments none
        | none => .refused

/-- Reads the arguments of a command, which have to be complete unless another command follows. -/
def Grammar.read (grammar : Grammar) (arguments : List String) : Gathering :=
  match gather grammar {} none arguments with
  | .complete given none =>
    if grammar.required ≤ given.plain.length then .complete given none else .refused
  | result => result

end CommandLine

end ScrollStory
