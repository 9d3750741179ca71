import Spellspan.Surroundings.Process.Shell.Lines
import Spellspan.Surroundings.Process.Shell.Lookup
import Spellspan.Surroundings.Process.Shell.Redirection

/-!
Commands of words: functions, builtins and programs are found and run, with the redirections and the
variables that belong to them.
-/
set_option autoImplicit false

namespace Spellspan.Process

open Expansion (expandWord expandText)
open Redirecting (targetsOf redirectAll)

namespace Shell

def maxFunctionDepth : Nat := 1000

/-- Runs a function. Its arguments are those of the script as long as it runs. -/
def call (run : Runner) (body : Command) (isTested : Bool) (arguments : List String) (shell : Shell)
    : Shell :=
  if maxFunctionDepth ≤ shell.functionDepth then
    shell.fail s!"Maximum function recursion depth ({maxFunctionDepth}) reached"
  else
    let after := run body isTested
      { shell with
        parameters := arguments, functionDepth := shell.functionDepth + 1, loopDepth := 0, hidden :=
          [] :: shell.hidden
        optionPlace := (1, none) }
    let restored := (after.hidden.headD []).foldl
      (fun after (name, entry) => after.putVariable name entry) after
    { restored with
      parameters := shell.parameters, functionDepth := shell.functionDepth, loopDepth :=
        shell.loopDepth
      hidden := shell.hidden, optionPlace := shell.optionPlace
      flow := if after.flow == .returns then .next else after.flow }

/-- The program that a name stands for, or the complaint and the status when there is none. -/
def findProgram (shellProgram : String → Program) (shell : Shell) (name : String) :
    Except (String × Nat) Program :=
  if shell.finds name then .ok ((Program.named? name).getD (shellProgram name))
  else if name.toList.contains '/' then
    match shell.files.resolveFrom shell.directory (nameOfText name) with
    | .ok _ => .error (s!"{name}: Permission denied", 126)
    | .error problem =>
      let status := if problem == .permissionDenied then 126 else 127
      .error (s!"{name}: " ++ Redirecting.reason "not found" problem, status)
  else
    let isThere (directory : String) : Bool :=
      let path := if directory == "" then name else s!"{directory}/{name}"
      (shell.files.resolveFrom shell.directory (nameOfText path)).isOk
    if ["", ".", ".."].contains name || shell.searchPath.any isThere then
      .error (s!"{name}: Permission denied", 127)
    else if Files.FileSystem.maxName < name.length then .error (s!"{name}: File name too long", 127)
    else .error (s!"{name}: not found", 127)

def replace (shellProgram : String → Program) (words : List String) (shell : Shell) : Shell :=
  match words with
  | [] => { shell with status := 0 }
  | name :: arguments =>
    match findProgram shellProgram shell name with
    | .error (complaint, status) =>
        shell.fail complaint (if complaint == s!"{name}: Permission denied" then 126 else status)
    | .ok program =>
      let (shell, status) := shell.runProgram program arguments
      match status, shell.isInner with
      | .signal number, false => { shell with flow := .killed number }
      | status, _ => ({ shell with traps := [] }.reportSignal status).exit status.toNat

/-- Runs a builtin. Its complaint may end the script. -/
def runBuiltin (builtin : Builtin) (name : String) (isDecisive : Bool) (arguments : List String)
    (shell : Shell) : Shell :=
  let speaker := shell.speaker
  match (builtin arguments).run { shell with speaker := some name } with
  | (.ok status, after) => { after with speaker, status }
  | (.error complaint, after) =>
    let after := { after.complain complaint with speaker, status := 2 }
    if isDecisive then after.exit 2 else after

def runInside (run : Runner) (speaker text : String) (shell : Shell) : Shell :=
  let after := runText run text { shell with speaker := some speaker }
  { after with speaker := shell.speaker, line := shell.line }

def readIn (run : Runner) (path : String) (shell : Shell) : Shell :=
  let told := { shell with speaker := some "." }
  let found : Except String ByteArray :=
    if path.toList.contains '/' then
      match shell.environment.read path with
      | .ok bytes => .ok bytes
      | .error .isDirectory => .ok .empty
      | .error problem =>
          .error (s!"cannot open {path}: " ++ Redirecting.reason "No such file" problem)
    else .error s!"{path}: not found"
  match found with
  | .error complaint => told.fail complaint
  | .ok bytes =>
    let after := { shell with loopDepth := 0 }.runInside run path (textOfBytes bytes)
    { after with loopDepth := shell.loopDepth, flow := if after.flow == .returns then .next
      else after.flow }

/-- Drops the options before a command that is run without functions: whether it is only asked
about, and the command. -/
def commandOptions : List String → Except String (List Char × List String)
  | [] => .ok ([], [])
  | "--" :: rest => .ok ([], rest)
  | word :: rest =>
    match word.toList with
    | '-' :: first :: others =>
      match (first :: others).find? fun letter => !"pvV".toList.contains letter with
      | some letter => .error s!"Illegal option -{letter}"
      | none => (commandOptions rest).map fun (letters, words) =>
          (first :: others ++ letters, words)
    | _ => .ok ([], word :: rest)

structure Dispatch where
  run : Runner
  shellProgram : String → Program
  isTested : Bool

/-- Runs a command by its words. Functions come behind the special builtins and before all others.
-/
def dispatch (how : Dispatch) (usesFunctions isDecisive : Bool) : Nat → List String → Shell → Shell
  | 0, _, shell => shell
  | _ + 1, [], shell => { shell with status := shell.innerStatus.getD 0 }
  | bound + 1, name :: arguments, shell =>
    let function := if usesFunctions && !specialBuiltins.contains name then shell.functions.lookup
      name else none
    match function with
    | some (_, body) => shell.call how.run body how.isTested arguments
    | none =>
      match name with
      | "eval" =>
        if arguments.isEmpty then { shell with status := 0 }
        else shell.runInside how.run "eval" (" ".intercalate arguments)
      | "." =>
        match ((ShellAction.options "" arguments).run shell).1 with
        | .error complaint => shell.runBuiltin (fun _ => throw complaint) "." true []
        | .ok (_, []) => { shell with status := 0 }
        | .ok (_, path :: _) => shell.readIn how.run path
      | "exec" => { { shell with speaker := some "exec" }.replace how.shellProgram arguments
          with speaker := shell.speaker }
      | "command" =>
        match commandOptions arguments with
        | .error complaint => shell.runBuiltin (fun _ => throw complaint) "command" false []
        | .ok (letters, words) =>
          if letters.contains 'V' then shell.runBuiltin (Builtin.describe Builtin.isBuiltin)
            "command" false (words.take 1)
          else if letters.contains 'v' then
            match words.head?.map (Builtin.commandPath? shell Builtin.isBuiltin) with
            | none => { shell with status := 0 }
            | some none => { shell with status := 127 }
            | some (some path) => { shell.print (path ++ "\n") with status := 0 }
          else if words.isEmpty then { shell with status := 0 }
          else dispatch how false false bound words shell
      | name =>
        match Builtin.named? name with
        | some builtin => shell.runBuiltin builtin name
            (isDecisive && specialBuiltins.contains name) arguments
        | none =>
          match findProgram how.shellProgram shell name with
          | .error (complaint, status) => { shell.complain complaint with status }
          | .ok program =>
            let (shell, status) := shell.runProgram program arguments
            { shell.reportSignal status with status := status.toNat }

/-- Gives the variables of a command their values, one after the other, with their texts for a
report. -/
def assignAll (run : Runner) (isPassedOn : Bool) : List (String × Word) → List String → Shell →
    List String × Shell
  | [], texts, shell => (texts.reverse, shell)
  | (name, word) :: rest, texts, shell =>
    let (value, shell) := expandText (capture run) word shell
    let shell := if shell.goesOn then shell.assign name value else shell
    let shell := match isPassedOn, shell.variableNamed? name with
      | true, some entry => shell.putVariable name (some { entry with isExported := true })
      | _, _ => shell
    if shell.goesOn then assignAll run isPassedOn rest (s!"{name}={value}" :: texts) shell
    else ([], shell)

/-- The words of a command. Behind a builtin that assigns, assignments are not split. -/
def commandWords (run : Runner) : List Word → Shell → List String × Shell
  | [], shell => ([], shell)
  | word :: rest, shell =>
    let (texts, shell) := expandWord (capture run) word shell
    match texts with
    | [] => if shell.goesOn then commandWords run rest shell else ([], shell)
    | name :: _ =>
      let step (state : List String × Shell) (word : Word) : List String × Shell :=
        if !state.2.goesOn then state
        else if Builtin.takesAssignments name && (assignment? word).isSome then
          let (text, shell) := expandText (capture run) word state.2
          (state.1 ++ [text], shell)
        else
          let (texts, shell) := expandWord (capture run) word state.2
          (state.1 ++ texts, shell)
      if shell.goesOn then rest.foldl step (texts, shell) else ([], shell)

def trace (descriptors : List (Nat × Nat)) (texts : List String) (shell : Shell) : Shell :=
  if shell.has 'x' then
    let own := shell.descriptors
    let mark := (shell.value? "PS4").getD ""
    { { shell with descriptors }.print (mark ++ " ".intercalate texts ++ "\n") 2 with descriptors :=
      own }
  else shell

/-- Runs a command of words: its words are expanded, its redirections are made, its variables get
their values, and then it is found and run. -/
def runSimple (how : Dispatch) (assignments : List (String × Word)) (words : List Word)
    (redirections : List Redirection) (shell : Shell)
    : Shell :=
  let shell := { shell with innerStatus := none }
  let (words, shell) := commandWords how.run words shell
  if !shell.goesOn then shell
  else
    let (targets, shell) := targetsOf (capture how.run) redirections shell
    if !shell.goesOn then shell
    else
      let outer := shell.descriptors
      let isSpecial := words.head?.any fun name => specialBuiltins.contains name
      let keeps := words.isEmpty || isSpecial
      let (isRedirected, shell) := redirectAll targets shell
      if !isRedirected then
        let shell := { shell with descriptors := outer }
        if isSpecial then shell.exit 2 else shell
      else
        let before := assignments.map fun (name, _) => (name, shell.variableNamed? name)
        let isExec := words.head? == some "exec"
        let (texts, shell) :=
          assignAll how.run (!keeps || (isExec && 1 < words.length)) assignments [] shell
        if !shell.goesOn then { shell with descriptors := outer }
        else
          let shell := trace outer (texts ++ words) shell
          let after := dispatch how true true (words.length + 2) words shell
          let after := if isExec && after.goesOn then after else { after with descriptors := outer }
          if keeps then after
          else before.foldl (fun after (name, entry) => after.putVariable name entry) after

def runRedirected (run : Runner) (redirections : List Redirection) (part : Shell → Shell)
    (shell : Shell) : Shell :=
  let (targets, shell) := targetsOf (capture run) redirections shell
  if !shell.goesOn then shell
  else
    let outer := shell.descriptors
    let (isRedirected, shell) := redirectAll targets shell
    { if isRedirected then part shell else shell with descriptors := outer }

end Shell
end Spellspan.Process
