import Spellspan.Surroundings.Process.Script.Parser
import Spellspan.Surroundings.Process.Shell.Signals

/-!
Running the lines of a text, and parts of a script in shells of their own. What runs a command is a
parameter, so that the depth of commands, functions and scripts inside each other is the only thing
that must be bounded.
-/
set_option autoImplicit false

namespace Spellspan.Process

/-- Runs a command. The failure of a command that is tested never ends the script. -/
abbrev Runner := Command → Bool → Shell → Shell

namespace Shell

/-- A shell behind one that ran inside it: what they share, and how the inner one ended the script,
if it did. -/
def behind (shell inner : Shell) : Shell :=
  let flow := match inner.flow with
    | .killed signal => .killed signal
    | .endless => .endless
    | _ => shell.flow
  { shell with world := inner.world, flow }

/-- The shell that runs a part of the script on its own. Signals that are passed over stay so. -/
def forked (shell : Shell) : Shell :=
  { shell with
    isInner := true, traps := shell.traps.filter fun entry => entry.2 == "", pendingSignals :=
      [], jobs := [], loopDepth := 0
    lastLine := 1 }

/-- Runs the lines of a text, at most so many. The complaint about a line that cannot be read ends
the shell. The status is that of the last command, or the given one if there is none. -/
def runLines (run : Runner) (echoes : Bool) : Nat → ScriptInput → Nat → Shell → Shell
  | 0, _, status, shell => { shell with status }
  | bound + 1, input, status, shell =>
    match nextLine input with
    | .error error =>
      let shell := if echoes && shell.has 'v' then shell.print (String.ofList input.rest) 2
        else shell
      { shell with line := error.line }.fail error.message
    | .ok (command, after) =>
      let shell :=
        if echoes && shell.has 'v' then
          shell.print (String.ofList (input.rest.take (input.rest.length - after.rest.length))) 2
        else shell
      let shell := { shell with documents := after.documents, lastLine := after.line }
      match command with
      | none => { shell with status }
      | some .empty => runLines run echoes bound after status shell
      | some command =>
        let shell := if shell.has 'n' then shell else run command false shell
        if shell.goesOn then runLines run echoes bound after shell.status shell else shell

def runText (run : Runner) (text : String) (shell : Shell) (echoes : Bool := false) : Shell :=
  let chars := text.toList
  runLines run echoes (chars.length + 1)
    { rest := chars, size := chars.length, documents := shell.documents, nextDocument :=
      shell.documents.length } 0 shell

/-- Runs the actions for signals that have arrived. They leave the status as it was, unless they end
the script. -/
def runPending (run : Runner) (shell : Shell) : Shell :=
  let step (shell : Shell) (signal : Nat) : Shell :=
    if shell.goesOn then
      let after := runText run ((shell.traps.lookup signal).getD "") shell
      if after.goesOn then { after with status := shell.status } else after
    else shell
  if shell.pendingSignals.isEmpty then shell
  else shell.pendingSignals.foldl step { shell with pendingSignals := [] }

/-- Ends a shell: the action for the end is run, and may change the status. -/
def finish (run : Runner) (shell : Shell) : Shell :=
  match shell.flow, shell.traps.lookup 0 with
  | .killed _, _ => shell
  | .endless, _ => shell
  | _, none => { shell with flow := .exits }
  | _, some action =>
    let others := shell.traps.filter fun entry => entry.1 != 0
    let after := runText run action { shell with traps := others, flow := .next }
    match after.flow with
    | .killed _ => after
    | .endless => after
    | .exits => after
    | _ => { after with status := shell.status, flow := .exits }

def fork (run : Runner) (part : Shell → Shell) (shell : Shell) : Shell :=
  let inner := (part shell.forked).finish run
  { shell.behind inner with status := inner.status % 256 }.receiveSent

def capture (run : Runner) : Capture := fun command shell =>
  let (index, shell) := shell.addStream (.sink .empty)
  let output := shell.descriptors.lookup 1
  let after := shell.fork run fun inner => run command false (inner.setDescriptor 1 index)
  let bytes := match after.world.streams[index]? with
    | some (.sink bytes) => bytes
    | _ => .empty
  let after := match output with
    | some output => after.setDescriptor 1 output
    | none => after.closeDescriptor 1
  ({ after with innerStatus := some after.status, status := shell.status }, bytes)

def runProgram (program : Program) (arguments : List String) (shell : Shell) : Shell × ExitStatus :=
  let stdin := (shell.readable? 0).getD .empty
  let outcome := program shell.environment arguments stdin
  let write (shell : Shell) (chunk : Chunk) : Shell :=
    shell.write (if chunk.isError then 2 else 1) chunk.bytes
  let shell := outcome.output.foldl write (shell.leaveUnread 0 outcome.unread)
  let system := (if shell.away.isSome then none else outcome.system).getD shell.world.system
  ({ shell with world :=
    { shell.world with system, elapsed := shell.world.elapsed + outcome.elapsed } }, outcome.status)

end Shell
end Spellspan.Process
