import Spellspan.Surroundings.Process.Shell.Compound
import Spellspan.Surroundings.Process.Shell.Simple

/-!
Running commands of all kinds.
-/
set_option autoImplicit false

namespace Spellspan.Process

open Expansion (expandWords expandText)

namespace Shell

def runCommand (run : Runner) (shellProgram : String → Program) (command : Command)
    (isTested : Bool) (shell : Shell) : Shell :=
  match command with
  | .empty => shell
  | .simple line assignments words redirections =>
    checked isTested (runSimple { run, shellProgram, isTested } assignments words redirections
      { shell with line })
  | .pipeline commands false =>
    let start := shell.world.elapsed
    checked isTested (pipe run start commands shell)
  | .pipeline commands true =>
    launch run (fun inner => pipe run inner.world.elapsed commands inner) shell
  | .both first second =>
    let shell := run first true shell
    if shell.goesOn && shell.status == 0 then run second isTested shell else shell
  | .either first second =>
    let shell := run first true shell
    if shell.goesOn && shell.status != 0 then run second isTested shell else shell
  | .sequence commands =>
      commands.foldl (fun shell command => if shell.goesOn then run command isTested shell
        else shell) shell
  | .negation command =>
    let shell := run command true shell
    if shell.goesOn then { shell with status := if shell.status == 0 then 1 else 0 } else shell
  | .background line command redirections =>
    launch run (runRedirected run redirections (run command false)) { shell with line }
  | .subshell line body redirections =>
    let part (inner : Shell) : Shell :=
      runRedirected run redirections (run body isTested) inner
    checked isTested (fork run part { shell with line })
  | .redirected line body redirections =>
      runRedirected run redirections (run body isTested) { shell with line }
  | .conditional test body otherwise =>
    let shell := run test true shell
    if !shell.goesOn then shell
    else if shell.status == 0 then run body isTested shell
    else match otherwise with
      | .empty => { shell with status := 0 }
      | otherwise => run otherwise isTested shell
  | .loop isUntil test body =>
    let after := rounds run isUntil test body isTested (shell.world.budget + 1) 0
      { shell with loopDepth := shell.loopDepth + 1 }
    { after with loopDepth := shell.loopDepth }
  | .iteration line name words body =>
    let (words, shell) := expandWords (capture run) words { shell with line }
    if !shell.goesOn then shell
    else
      let after := iterate run name body isTested words { shell with loopDepth := shell.loopDepth + 1, status := 0 }
      { after with loopDepth := shell.loopDepth }
  | .selection line word branches =>
    let (text, shell) := expandText (capture run) word { shell with line }
    if !shell.goesOn then shell
    else
      let (body, shell) := select run text branches shell
      match body with
      | some .empty => { shell with status := 0 }
      | some body => run body isTested shell
      | none => if shell.goesOn then { shell with status := 0 } else shell
  | .function line name body =>
    let others := shell.functions.filter fun entry => entry.1 != name
    { shell with functions := (name, line, body) :: others, status := 0 }

/-- Runs a command, which is counted. A script that runs too many is taken to be endless. -/
def runCounted (run : Runner) (shellProgram : String → Program) :
    Runner := fun command isTested shell =>
  if !shell.goesOn then shell
  else if shell.world.budget == 0 then { shell with flow := .endless }
  else
    let shell := { shell with world := { shell.world with budget := shell.world.budget - 1 } }
    (runCommand run shellProgram command isTested shell).runPending run

end Shell
end Spellspan.Process
