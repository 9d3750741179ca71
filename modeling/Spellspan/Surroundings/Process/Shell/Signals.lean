import Spellspan.Surroundings.Process.Shell.Builtin

/-!
Builtins that decide where a script goes on: they leave loops, functions and the script itself, send
signals and prepare for them, and wait for commands that run on their own.
-/
set_option autoImplicit false

namespace Spellspan.Process

def firstFreeSignal : Nat := 34

/-- The name of a signal for scripts. The signals without a purpose are counted from both of their
ends. -/
def signalName (number : Nat) : String :=
  let up := number - firstFreeSignal
  let down := maxSignal - number
  if number < firstFreeSignal then
    match signalNumbered? number with
    | some known => if number == 16 then "16" else known.name
    | none => toString number
  else if up == 0 then "RTMIN"
  else if down == 0 then "RTMAX"
  else if up ≤ 15 then s!"RTMIN+{up}"
  else s!"RTMAX-{down}"

/-- The signal with a name or a number. Upper and lower case are the same in names, and zero stands
for the end of a script. -/
def signalOf? (text : String) : Option Nat :=
  if !text.isEmpty && text.toList.all Char.isDigit then text.toNat?.filter fun number =>
    decide (number ≤ maxSignal)
  else
    let name := String.ofList (text.toList.map Char.toUpper)
    if name == "EXIT" then some 0
    else ((List.range (maxSignal + 1)).drop 1).find? fun number => signalName number == name

namespace Shell

/-- Sends a signal to the script. It is passed over, or an action is run for it later, if the script
has made provision for it, unless the signal cannot be provided for. -/
def receive (shell : Shell) (signal : Nat) : Shell :=
  match if signal == 9 || signal == 19 then none else shell.traps.lookup signal with
  | some "" => shell
  | some _ => { shell with pendingSignals := shell.pendingSignals ++ [signal] }
  | none =>
    match effectOf signal with
    | .nothing => shell
    | .stops => { shell with flow := .endless }
    | .ends => { shell with flow := .killed signal }

/-- Sends a signal to the first shell of the script, where it arrives when the shells inside it have
ended. -/
def sendOwn (shell : Shell) (signal : Nat) : Shell :=
  if shell.isInner then
    { shell with world :=
      { shell.world with signals := shell.world.signals ++ [(signal, shell.world.elapsed)] } }
  else shell.receive signal

/-- Lets the signals arrive that the shells inside this one have sent. One that ends the script does
so when it was sent. -/
def receiveSent (shell : Shell) : Shell :=
  if shell.isInner then shell
  else
    let step (shell : Shell) (sent : Nat × Nat) : Shell :=
      let after := shell.receive sent.1
      match shell.flow, after.flow with
      | .killed _, _ => shell
      | _, .killed _ => { after with world := { after.world with elapsed := sent.2 } }
      | _, _ => after
    shell.world.signals.foldl step { shell with world := { shell.world with signals := [] } }

def job? (shell : Shell) (process : Nat) : Option Job :=
  shell.jobs.find? fun job => job.process == process

def putJob (shell : Shell) (job : Job) : Shell :=
  { shell with jobs := shell.jobs.map fun other =>
    if other.process == job.process then job else other }

def waitUntil (shell : Shell) (moment : Nat) : Shell :=
  { shell with world := { shell.world with elapsed := max shell.world.elapsed moment } }

/-- Says of a command that a signal ended it, but for the signals that need no word. -/
def reportSignal (shell : Shell) : ExitStatus → Shell
  | .signal number =>
    if number == 2 || number == 13 then shell
    else
      let text := match signalNumbered? number with
        | some known => known.description
        | none =>
          if number < firstFreeSignal then s!"Unknown signal {number}"
          else s!"Real-time signal {number - firstFreeSignal}"
      shell.print (text ++ "\n") 2
  | .code _ => shell

end Shell

namespace Builtin

open ShellAction

def leaveShell : Builtin := fun arguments => do
  let status ← match arguments with
    | [] => pure (← get).status
    | text :: _ => number text
  modify fun shell => { shell with flow := .exits }
  return status

/-- Goes on behind a function, or behind a script that is read in. -/
def leaveFunction : Builtin := fun arguments => do
  let status ← match arguments with
    | [] => pure (← get).status
    | text :: _ => number text
  modify fun shell => { shell with flow := .returns }
  return status

def leaveLoops (flow : Nat → Flow) : Builtin := fun arguments => do
  let count ← match arguments with
    | [] => pure 1
    | text :: _ => do
      let count ← number text
      if count == 0 then throw s!"Illegal number: {text}"
      pure count
  let depth := (← get).loopDepth
  if depth != 0 then modify fun shell => { shell with flow := flow (min count depth) }
  return 0

def killUsage : String :=
  "Usage: kill [-s sigspec | -signum | -sigspec] [pid | job]... or\nkill -l [exitstatus]"

def sendSignal (signal : Nat) (target : String) : ShellAction Bool := do
  let digits := if target.toList.head? == some '-' then String.ofList (target.toList.drop 1)
    else target
  if target.toList.head? == some '%' then throw s!"No such job: {target}"
  let process ← number digits
  let shell ← get
  if process == Shell.ownProcess || process == 0 then
    set (shell.sendOwn signal)
    return true
  match shell.job? process with
  | some job =>
    if shell.world.elapsed < job.finish && effectOf signal == .ends then
      set (shell.putJob { job with status := .signal signal, finish := shell.world.elapsed })
    return true
  | none =>
    warn "No such process\n"
    return false

def listSignals : Builtin := fun operands => do
  match operands with
  | [] =>
    printed "kill" ("0\n" ++ String.join (((List.range (maxSignal + 1)).drop 1).map fun number =>
      signalName number ++ "\n"))
  | text :: _ =>
    let status ← number text
    let signal := if 128 < status then status - 128 else status
    if signal == 0 || maxSignal < signal then throw s!"invalid signal number or exit status: {text}"
    printed "kill" (signalName signal ++ "\n")

def sendSignals (signal : Nat) (targets : List String) : ShellAction Nat := do
  if targets.isEmpty then throw killUsage
  let sent ← targets.mapM (sendSignal signal)
  return if sent.all id then 0 else 1

/-- Takes the options before the processes to send a signal to: the signal, which may be asked about
only. -/
def killOptions : Option Nat → List String → ShellAction Nat
  | signal, [] => sendSignals (signal.getD 15) []
  | signal, "--" :: rest => sendSignals (signal.getD 15) rest
  | signal, argument :: rest => do
    match argument.toList, rest with
    | ['-', 'l'], rest => listSignals rest
    | ['-', 's'], [] => throw "No arg for -s option"
    | ['-', 's'], name :: rest =>
      match signalOf? name with
      | some signal => killOptions (some signal) rest
      | none => throw s!"invalid signal number or name: {name}"
    | '-' :: 's' :: name, rest =>
      match signalOf? (String.ofList name) with
      | some signal => killOptions (some signal) rest
      | none => throw s!"invalid signal number or name: {String.ofList name}"
    | '-' :: letter :: _, _ => throw s!"Illegal option -{letter}"
    | _, _ => sendSignals (signal.getD 15) (argument :: rest)

def kill : Builtin := fun arguments => do
  match arguments with
  | [] => throw killUsage
  | first :: rest =>
    match first.toList with
    | '-' :: name =>
      let isEnd := name.map Char.toUpper == "EXIT".toList
      match if isEnd then none else signalOf? (String.ofList name) with
      | some signal => sendSignals signal rest
      | none => killOptions none arguments
    | _ => sendSignals 15 arguments

/-- Says what is done when signals arrive, or when the script ends. Without arguments, what is done
is listed. -/
def trap : Builtin := fun arguments => do
  let (_, operands) ← options "" (if arguments.head? == some "-" then "--" :: arguments
    else arguments)
  let setAll (action : Option String) (names : List String) : ShellAction Nat := do
    for name in names do
      match signalOf? name with
      | none =>
        modify fun shell => shell.print s!"trap: {name}: bad trap\n" 2
        return 1
      | some signal =>
        modify fun shell =>
          let others := shell.traps.filter fun entry => entry.1 != signal
          { shell with traps := (action.toList.map fun action => (signal, action)) ++ others }
    return 0
  match operands with
  | [] =>
    let sorted := (← get).traps.mergeSort fun a b => a.1 ≤ b.1
    printed "trap" (String.join (sorted.map fun (signal, action) =>
      s!"trap -- {singleQuoted action} " ++ (if signal == 0 then "EXIT" else signalName signal) ++ "\n"))
  | [name] => setAll none [name]
  | action :: names =>
    if !action.isEmpty && action.toList.all Char.isDigit && (signalOf? action).isSome then
      setAll none operands
    else setAll (if action == "-" then none else some action) names

/-- Waits for jobs; without arguments, for all. -/
def wait : Builtin := fun arguments => do
  let (_, operands) ← options "" arguments
  if operands.isEmpty then
    modify fun shell => shell.jobs.foldl (fun shell job => shell.waitUntil job.finish) shell
    return 0
  let mut status := 0
  for operand in operands do
    if operand.toList.head? == some '%' then throw s!"No such job: {operand}"
    let process ← number operand
    match (← get).job? process with
    | none => status := 127
    | some job =>
      modify fun shell => (shell.waitUntil job.finish).reportSignal job.status
      status := job.status.toNat
  return status

/-- A job in the foreground or behind it, of which there is none. -/
def resume : Builtin := fun _ =>
  throw "No current job"

end Builtin
end Spellspan.Process
