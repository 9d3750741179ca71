import Spellspan.Command.Invocation
import Spellspan.Engine.Process
import Spellspan.Files.Collect
import Spellspan.Report.Pretty
import Spellspan.Report.Run

/-!
Carrying out a command in a directory: what is written to the two outputs, and the exit code. What a
run reports is part of the theory; how it is asked for and printed is not.
-/
set_option autoImplicit false

namespace Spellspan.Command

open Engine (EngineSettings)
open Files (FileSystem)
open Report (Checker RunReport)

structure Output where
  code : Nat
  stdout : String := ""
  stderr : String := ""
  deriving DecidableEq, Repr

/-- The exit code of a command that fails, or of a check with files that fail. -/
def failureCode : Nat := 2

/-- The files that hold settings when none is named, in the order in which they are looked for. -/
def settingsNames : List String :=
  ["wordscope.yaml", ".wordscope.yaml", "wordscope.json"]

def readSettings (system : FileSystem) (path : String) : Except String Settings :=
  let unreadable (reason : String) := s!"failed to parse config {path}: {reason}"
  match system.readText path with
  | .error problem =>
      .error (unreadable (if problem.code?.isSome then problem.message else Engine.particulars))
  | .ok (text, _) =>
    match Settings.ofText? text with
    | none => .error (unreadable Engine.particulars)
    | some settings =>
      match settings.problem? with
      | some problem => .error s!"invalid config {path}: {problem}"
      | none => .ok settings

/-- The settings of a file that is named or found, or else the defaults. -/
def loadSettings (system : FileSystem) (named : Option String) : Except String Settings :=
  match named.or (settingsNames.find? system.contains) with
  | some path => readSettings system path
  | none => .ok {}

/-- The engine of the settings, changed by the arguments. A time limit alone makes no engine. -/
def engineSettings (settings : Settings) (arguments : CheckArguments) : Option EngineSettings :=
  let base := settings.engine.getD {}
  let engine := match arguments.engineCommand, arguments.engineUrl with
    | some command, _ => some { base with command := Text.wordsOf command, url := none }
    | none, some url => some { base with command := [], url := some url }
    | none, none => settings.engine
  engine.map fun engine => { engine with timeoutMs := arguments.timeoutMs.getD engine.timeoutMs }

def missingEngine : String :=
  "no engine configured: set `engine` in the config or pass --engine-cmd/--engine-url " ++
    "(use `wordscope scopes` to inspect selection without an engine)"

def exitCode (report : RunReport) : Nat :=
  if 0 < report.failedFiles then failureCode else if report.isClean then 0 else 1

def runCheck (system : FileSystem) (color verbose : Bool) (arguments : CheckArguments) :
    Except String Output := do
  let settings ← loadSettings system arguments.config
  if arguments.timeoutMs = some 0 then .error "--timeout-ms must be greater than zero"
  else
    match (engineSettings settings arguments).filter EngineSettings.isUsable with
    | none => .error missingEngine
    | some engine =>
      let paths ← Files.collect system settings arguments.paths
      if paths.isEmpty then .ok { code := 0, stderr := "Warning: no files to check\n" }
      else
        let checker : Checker :=
          { options := settings.options, transport := engine.transport system }
        let report := (checker.run system paths).report
        let text := match arguments.format with
          | .json => report.jsonText
          | .pretty => report.prettyText color verbose
        .ok { code := exitCode report, stdout := text }

def runScopes (system : FileSystem) (color : Bool) (arguments : ScopesArguments) :
    Except String Output := do
  let settings ← loadSettings system arguments.config
  let file ← (Files.load system arguments.file).mapError Files.LoadError.message
  let checker : Checker := { options := settings.options }
  let selection ← (Select.select checker.options checker.table file).mapError
    Tree.CycleError.message
  let candidates :=
    if arguments.checkedOnly then selection.candidates.filter fun candidate =>
      candidate.range.isSome
    else selection.candidates
  .ok {
    code := 0
    stdout := Report.scopesText color file.filename file.text candidates
    stderr := String.join (checker.configDiagnostics.map fun diagnostic =>
      s!"Warning: {diagnostic.render}\n") }

def Invocation.run (invocation : Invocation) (system : FileSystem) (color : Bool) :
    Except String Output :=
  match invocation.task with
  | .check arguments => runCheck system color invocation.verbose arguments
  | .scopes arguments => runScopes system color arguments

end Spellspan.Command
