import Spellspan.Surroundings.Process.Shell.Run

/-!
The shell as a program, and finding programs. Engines that are programs are started through this;
the theory of the checker does not reach it.
-/
set_option autoImplicit false

namespace Spellspan.Process

namespace Shell

def firstVariables (environment : Environment) : List (String × Variable) :=
  let own := [
    ("IFS", " \t\n"), ("OPTIND", "1"), ("PPID", toString (ownProcess - 1)), ("PS1", "$ "),
      ("PS2", "> "), ("PS4", "+ ")]
  let directory := Builtin.pathOf environment.directory
  ("PWD", { value := some directory, isExported := true }) ::
    own.map (fun (name, value) => (name, { value := some value })) ++
    environment.bindings.map fun (name, value) =>
      (name, { value := some value, isExported := true })

def start (environment : Environment) (name : String) (stdin : ByteArray) : Shell where
  world := { system := environment.system, streams :=
    #[.source stdin, .output false, .output true] }
  descriptors := [(0, 0), (1, 1), (2, 2)]
  directory := environment.directory
  name := name
  bindings := firstVariables environment

def runInput (run : Runner) (shell : Shell) : Shell :=
  runText run (textOfBytes ((shell.readable? 0).getD .empty))
    ((shell.leaveUnread 0 .empty).setOption 's' true) true

/-- Runs the script that the arguments of a shell ask for: the first of them, a file, or the input.
-/
def runScript (run : Runner) (requests : Builtin.Requests) (operands : List String) (shell : Shell)
    : Shell :=
  let hasJobs := shell.has 'i' || shell.has 'm'
  let shell := if hasJobs then shell.complain "can't access tty; job control turned off" else shell
  let shell := shell.setOption 'm' false
  match requests.isCommand, operands with
  | true, [] => shell.fail "-c requires an argument"
  | true, text :: rest =>
    let shell := runText run text { shell with name := rest.headD shell.name, parameters := rest.tail }
    if shell.has 's' && shell.goesOn then shell.runInput run else shell
  | false, [] => shell.runInput run
  | false, path :: rest =>
    if shell.has 's' then { shell with parameters := operands }.runInput run
    else
      match shell.environment.read path with
      | .ok bytes => runText run (textOfBytes bytes) { shell with name := path, parameters := rest } true
      | .error .isDirectory => shell
      | .error problem =>
          shell.fail (s!"cannot open {path}: " ++ Redirecting.reason "No such file" problem)

def outcome (shell : Shell) : Outcome where
  status := match shell.flow with
    | .killed signal => .signal signal
    | _ => .code (shell.status % 256)
  output := (shell.world.output.reverse.mergeSort fun a b => a.1 ≤ b.1).map Prod.snd
  unread := match shell.world.streams.toList.head? with
    | some (.source bytes) => bytes
    | _ => .empty
  elapsed := if shell.flow == .endless then forever else shell.world.elapsed
  system := some shell.world.system

end Shell

/-- The shell: runs the script that it is given. -/
def Program.shell (run : Runner) (name : String) : Program := fun environment arguments stdin =>
  let shell := Shell.start environment name stdin
  match (Builtin.takeOptions true arguments.length arguments {}).run shell with
  | (.error complaint, shell) => (shell.fail complaint).outcome
  | (.ok (operands, requests), shell) =>
      ((shell.runScript run requests operands).finish run).outcome

namespace Shell

/-- Runs commands that are nested at most so deep. Functions deeper than that call each other
without an end. -/
def runNested : Nat → Runner
  | 0 => fun _ _ shell =>
    if shell.functionDepth == 0 then { shell with flow := .endless }
    else shell.fail s!"Maximum function recursion depth ({maxFunctionDepth}) reached"
  | depth + 1 => runCounted (runNested depth) (Program.shell (runNested depth))

def maxDepth : Nat := 4000

end Shell

def firstEnvironment : List (String × String) :=
  [("PATH", "/usr/local/sbin:/usr/local/bin:/usr/sbin:/usr/bin:/sbin:/bin"), ("HOME", "/root")]

/-- Finds the program of a command: by its name, or at a path, where only programs of the system can
be run. The names for a directory itself and for the one above it are found too, and cannot be run.
-/
def find (system : Files.FileSystem) (path : String) : Except Files.FileProblem Program :=
  if (Program.nameAt? path).any fun name => shellNames.contains name then
    .ok (Program.shell (Shell.runNested Shell.maxDepth) path)
  else
    match Program.named? path with
    | some program => .ok program
    | none =>
      if path.toList.contains '/' then
        match system.resolve path with
        | .ok _ => .error .permissionDenied
        | .error problem =>
            .error (if systemDirectories.contains path then .permissionDenied else problem)
      else if path = "." || path = ".." then .error .permissionDenied
      else if Files.FileSystem.maxName < path.utf8ByteSize then .error .nameTooLong
      else .error .notFound

def runIn (system : Files.FileSystem) (program : Program) (arguments : List String)
    (stdin : ByteArray) : Outcome :=
  program { system, bindings := firstEnvironment } (arguments.map byteText) stdin

end Spellspan.Process
