import Spellspan.Surroundings.Process.Shell.Lines

/-!
Loops, selections, pipelines, and commands that are not waited for.
-/
set_option autoImplicit false

namespace Spellspan.Process

open Expansion (expandPattern)

namespace Shell

/-- Where the script goes on behind a round of a loop: whether with another round. -/
def behindRound (shell : Shell) : Bool × Shell :=
  match shell.flow with
  | .next => (true, shell)
  | .leavesLoops count =>
      (false, { shell with flow := if count ≤ 1 then .next else .leavesLoops (count - 1) })
  | .nextRound count =>
    if count ≤ 1 then (true, { shell with flow := .next })
    else (false, { shell with flow := .nextRound (count - 1) })
  | _ => (false, shell)

def rounds (run : Runner) (isUntil : Bool) (test body : Command) (isTested : Bool) :
    Nat → Nat → Shell → Shell
  | 0, _, shell => { shell with flow := .endless }
  | bound + 1, status, shell =>
    let shell := run test true shell
    let holds := (shell.status == 0) != isUntil
    match shell.flow with
    | .next =>
      if holds then
        let shell := run body isTested shell
        let status := shell.status
        let (goesOn, shell) := shell.behindRound
        if goesOn then rounds run isUntil test body isTested bound status shell
        else { shell with status }
      else { shell with status }
    | .returns => shell
    | _ =>
      let (goesOn, shell) := shell.behindRound
      if goesOn then rounds run isUntil test body isTested bound status shell
      else if shell.goesOn then { shell with status } else shell

def iterate (run : Runner) (name : String) (body : Command) (isTested : Bool) :
    List String → Shell → Shell
  | [], shell => shell
  | word :: rest, shell =>
    let shell := shell.assign name word
    if shell.goesOn then
      let (goesOn, shell) := (run body isTested shell).behindRound
      if goesOn then iterate run name body isTested rest shell else shell
    else shell

def select (run : Runner) (text : String) : List (List Word × Command) → Shell →
    Option Command × Shell
  | [], shell => (none, shell)
  | (patterns, body) :: rest, shell =>
    let step (state : Bool × Shell) (word : Word) : Bool × Shell :=
      if state.1 || !state.2.goesOn then state
      else
        let (pattern, shell) := expandPattern (capture run) word state.2
        (shell.goesOn && Pattern.isMatch pattern text.toList, shell)
    let (isFound, shell) := patterns.foldl step (false, shell)
    if isFound then (some body, shell)
    else if shell.goesOn then select run text rest shell
    else (none, shell)

/-- Runs the commands of a pipeline, each on what the one before it wrote. They begin at the same
time. -/
def pipe (run : Runner) (start : Nat) : List Command → Shell → Shell
  | [], shell => shell
  | command :: rest, shell =>
    let shell := { shell with world := { shell.world with elapsed := start } }
    let outer := shell.descriptors
    let (index, shell) := shell.addStream (if rest.isEmpty then .null else .sink .empty)
    let stage := if rest.isEmpty then shell else shell.setDescriptor 1 index
    let after := stage.fork run (run command false)
    let finish := after.world.elapsed
    if rest.isEmpty || !after.goesOn then { after with descriptors := outer }
    else
      let bytes := match after.world.streams[index]? with
        | some (.sink bytes) => bytes
        | _ => .empty
      let (input, after) := { after with descriptors := outer }.addStream (.source bytes)
      let next := { after.setDescriptor 0 input with status := shell.status }
      ({ pipe run start rest next with descriptors := outer }).waitUntil finish

/-- Ends the script when a command fails that is not tested, if that is asked for. -/
def checked (isTested : Bool) (shell : Shell) : Shell :=
  if shell.goesOn && shell.has 'e' && !isTested &&
    shell.status != 0 then { shell with flow := .exits } else shell

def launch (run : Runner) (part : Shell → Shell) (shell : Shell) : Shell :=
  let (index, shell) := shell.addStream .null
  let process := shell.world.nextProcess
  let shell := { shell with world := { shell.world with nextProcess := process + 1 } }
  let inner := (part (shell.forked.setDescriptor 0 index)).finish run
  let finish := if inner.flow == .endless then forever else inner.world.elapsed
  let world := { inner.world with elapsed := shell.world.elapsed, budget := shell.world.budget }
  let flow := match inner.flow with
    | .killed signal => .killed signal
    | _ => shell.flow
  { shell with
    world, flow, status := 0
    jobs := { process, status := .code (inner.status % 256), finish } :: shell.jobs }.receiveSent

end Shell
end Spellspan.Process
