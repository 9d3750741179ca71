import Spellspan.Surroundings.Process.Program
import Spellspan.Surroundings.Process.Script.Parser
import Spellspan.Surroundings.Process.Shell.Signals
import Spellspan.Surroundings.Process.Shell.Variables

/-!
What the names of commands stand for: functions of the script, builtins, and programs.
-/
set_option autoImplicit false

namespace Spellspan.Process

def shellNames : List String :=
  ["sh", "dash"]

def isProgram (path : String) : Bool :=
  ((Program.nameAt? path).any fun name => shellNames.contains name) || (Program.named? path).isSome

def Shell.finds (shell : Shell) (path : String) : Bool :=
  isProgram path && (path.toList.contains '/' || shell.searchPath.any fun directory =>
    ["/bin", "/usr/bin"].contains directory)

namespace Builtin

/-- What a name stands for, in words, unless it is that of a program or of a builtin without a
special meaning. -/
def description? (shell : Shell) (name : String) : Option String :=
  if keywords.contains name then some s!"{name} is a shell keyword"
  else if let some value := shell.aliases.lookup name then some s!"{name} is an alias for {value}"
  else if specialBuiltins.contains name then some s!"{name} is a special shell builtin"
  else if (shell.functions.lookup name).isSome then some s!"{name} is a shell function"
  else none

/-- What a command with a name runs: the name itself, or the path of a program. -/
def commandPath? (shell : Shell) (isBuiltin : String → Bool) (name : String) : Option String :=
  if (description? shell name).isSome || isBuiltin name then some name
  else if shell.finds name then some (if name.toList.contains '/' then name
    else s!"/usr/bin/{name}")
  else none

def describe (isBuiltin : String → Bool) : Builtin := fun names => do
  let shell ← get
  let step (name : String) : String × Bool :=
    match description? shell name with
    | some text => (text, true)
    | none =>
      if isBuiltin name then (s!"{name} is a shell builtin", true)
      else
        match commandPath? shell isBuiltin name with
        | some path => (s!"{name} is {path}", true)
        | none => (s!"{name}: not found", false)
  let steps := names.map step
  printed "type" (String.join (steps.map fun (text, _) => text ++ "\n"))
    (if steps.all Prod.snd then 0 else 127)

def remember (isBuiltin : String → Bool) : Builtin := fun arguments => do
  let (_, names) ← ShellAction.options "rv" arguments
  let mut status := 0
  for name in names do
    if (commandPath? (← get) isBuiltin name).isNone then
      ShellAction.warn s!"{name}: not found"
      status := 1
  return status

def renameCommands : Builtin := fun arguments => do
  let line (entry : String × String) : String := s!"{entry.1}={singleQuoted entry.2}\n"
  if arguments.isEmpty then printed "alias" (String.join ((← get).aliases.map line))
  else
    let mut status := 0
    for argument in arguments do
      match definition argument with
      | (name, some value) =>
        modify fun shell =>
          { shell with aliases := shell.aliases.filter (fun entry => entry.1 != name) ++
            [(name, value)] }
      | (name, none) =>
        match (← get).aliases.lookup name with
        | some value => status ← printed "alias" (line (name, value)) status
        | none =>
          modify fun shell => shell.print s!"alias: {name} not found\n" 2
          status := 1
    return status

def forgetNames : Builtin := fun arguments => do
  let (letters, names) ← ShellAction.options "a" arguments
  if letters.contains 'a' then
    modify fun shell => { shell with aliases := [] }
    return 0
  let mut status := 0
  for name in names do
    if ((← get).aliases.lookup name).isNone then
      modify fun shell => shell.print s!"unalias: {name} not found\n" 2
      status := 1
    modify fun shell => { shell with aliases := shell.aliases.filter fun entry => entry.1 != name }
  return status

def plain : List (String × Builtin) := [
  (":", constant 0), ("true", constant 0), ("false", constant 1), ("echo", echo), ("printf", print),
    ("test", test),
  ("[", bracket), ("cd", changeDirectory), ("chdir", changeDirectory), ("pwd", printDirectory),
    ("export", exportNames),
  ("readonly", protectNames), ("unset", unsetNames), ("local", localNames), ("set", changeSettings),
    ("shift", shiftArguments),
  ("read", readLine), ("getopts", takeOption), ("exit", leaveShell), ("return", leaveFunction),
  ("break", leaveLoops Flow.leavesLoops), ("continue", leaveLoops Flow.nextRound), ("kill", kill),
    ("trap", trap), ("wait", wait),
  ("fg", resume), ("bg", resume),
    ("jobs", fun arguments => do let _ ← ShellAction.options "lp" arguments; return 0),
  ("umask", fun arguments => if arguments.isEmpty then printed "umask" "0022\n" else return 0),
  ("ulimit", fun arguments => if arguments.isEmpty then printed "ulimit" "unlimited\n"
    else return 0),
  ("times", fun _ => printed "times" "0m0.000000s 0m0.000000s\n0m0.000000s 0m0.000000s\n"),
  ("alias", renameCommands), ("unalias", forgetNames)]

/-- The names of the builtins that run commands, or tell what names stand for. -/
def others : List String :=
  [".", "eval", "exec", "command", "type", "hash"]

def isBuiltin (name : String) : Bool :=
  others.contains name || (plain.lookup name).isSome

def named? (name : String) : Option Builtin :=
  match name with
  | "type" => some (describe isBuiltin)
  | "hash" => some (remember isBuiltin)
  | name => plain.lookup name

/-- Builtins that take values as assignments do, without splitting them. -/
def takesAssignments (name : String) : Bool :=
  ["export", "readonly", "local"].contains name

end Builtin
end Spellspan.Process
