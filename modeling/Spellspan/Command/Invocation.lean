import Spellspan.Command.Arguments
import Spellspan.Numeric.Reading

/-!
The command line of the program: which command is given, with which arguments.
-/
set_option autoImplicit false

namespace Spellspan.Command

inductive ReportFormat where
  | pretty
  | json
  deriving DecidableEq, Repr

def ReportFormat.ofName? : String → Option ReportFormat
  | "pretty" => some .pretty
  | "json" => some .json
  | _ => none

structure CheckArguments where
  paths : List String
  config : Option String := none
  engineCommand : Option String := none
  engineUrl : Option String := none
  timeoutMs : Option Nat := none
  format : ReportFormat := .pretty
  deriving DecidableEq, Repr

structure ScopesArguments where
  file : String
  config : Option String := none
  checkedOnly : Bool := false
  deriving DecidableEq, Repr

inductive Task where
  | check (arguments : CheckArguments)
  | scopes (arguments : ScopesArguments)
  deriving DecidableEq, Repr

structure Invocation where
  verbose : Bool
  task : Task
  deriving DecidableEq, Repr

def pathProblem? (text : String) : Option UsageError :=
  if text = "" then some .invalidValue else none

def formatProblem? (text : String) : Option UsageError :=
  if (ReportFormat.ofName? text).isNone then some .invalidValue else none

def natural? (text : String) : Option Nat :=
  let digits := match text.toList with
    | '+' :: rest => rest
    | digits => digits
  (Numeric.natural? 10 digits).filter (· < UInt64.size)

def naturalProblem? (text : String) : Option UsageError :=
  if (natural? text).isNone then some .unreadableValue else none

def verboseFlag : Parameter := { name := "verbose", letter := some 'v', action := .flag }

def helpFlag : Parameter := { name := "help", letter := some 'h', action := .help }

def versionFlag : Parameter := { name := "version", letter := some 'V', action := .version }

def configOption : Parameter := { name := "config", letter := some 'c', problem? := pathProblem? }

def mainSignature : Signature where
  parameters := [verboseFlag, helpFlag, versionFlag]
  limit := some 0

def checkSignature : Signature where
  parameters := [
    configOption, { name := "engine-cmd" }, { name := "engine-url" },
      { name := "timeout-ms", problem? := naturalProblem? },
    { name := "format", letter := some 'f', problem? := formatProblem? }, verboseFlag, helpFlag]
  limit := none
  problem? := pathProblem?

def scopesSignature : Signature where
  parameters := [configOption, { name := "checked-only", action := .flag }, verboseFlag, helpFlag]
  limit := some 1
  problem? := pathProblem?

/-- Reads the arguments of checking. Two ways to an engine exclude each other. -/
def checkCommand (verbose : Bool) (arguments : List String) : Except UsageError Invocation := do
  let given ← checkSignature.parse arguments
  let value? (name : String) := given.values.lookup name
  if (value? "engine-cmd").isSome && (value? "engine-url").isSome then .error .conflict
  else if given.positional.isEmpty then .error .missingArgument
  else
    .ok {
      verbose := verbose || given.flags.contains "verbose"
      task := .check {
        paths := given.positional
        config := value? "config"
        engineCommand := value? "engine-cmd"
        engineUrl := value? "engine-url"
        timeoutMs := (value? "timeout-ms").bind natural?
        format := ((value? "format").bind ReportFormat.ofName?).getD .pretty } }

def scopesCommand (verbose : Bool) (arguments : List String) : Except UsageError Invocation := do
  let given ← scopesSignature.parse arguments
  match given.positional with
  | [] => .error .missingArgument
  | file :: _ =>
    .ok {
      verbose := verbose || given.flags.contains "verbose"
      task := .scopes {
        file
        config := given.values.lookup "config"
        checkedOnly := given.flags.contains "checked-only" } }

def commandNames : List String :=
  ["check", "lint", "scopes", "help"]

def helpCommand : List String → Except UsageError Invocation
  | [] => .error .help
  | [name] => if commandNames.contains name then .error .help else .error .unknownCommand
  | _ => .error .unknownCommand

def commandNamed? (verbose : Bool) (arguments : List String) :
    String → Option (Except UsageError Invocation)
  | "check" => some (checkCommand verbose arguments)
  | "lint" => some (checkCommand verbose arguments)
  | "scopes" => some (scopesCommand verbose arguments)
  | "help" => some (helpCommand arguments)
  | _ => none

def invocationFrom (state : State) : List String → Except UsageError Invocation
  | [] => .error (if state.given.flags.isEmpty then .helpForNothing else .missingCommand)
  | argument :: rest =>
    match commandNamed? (!state.given.flags.isEmpty) rest argument with
    | some invocation => if state.trailing then .error .unknownArgument else invocation
    | none =>
      if state.trailing || argument.toList.head? ≠ some '-' || argument =
        "-" then .error .unknownCommand
      else
        match mainSignature.take state argument with
        | .ok state => invocationFrom state rest
        | .error error => .error error

def Invocation.parse (arguments : List String) : Except UsageError Invocation :=
  invocationFrom {} arguments

end Spellspan.Command
