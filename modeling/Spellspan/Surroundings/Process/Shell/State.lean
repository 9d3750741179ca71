import Spellspan.Surroundings.Process.Outcome
import Spellspan.Surroundings.Process.Script.Input

/-!
The state of a running script: its variables and settings, what its descriptors lead to, and what
all commands of it share. The shell is part of the surroundings.
-/
set_option autoImplicit false

namespace Spellspan.Process

open Files (FileSystem)

inductive Stream where
  | output (isError : Bool)
  | source (bytes : ByteArray)
  | sink (bytes : ByteArray)
  /-- A file, with the place in it where it is read or written next. -/
  | file (place : Files.Place) (offset : Nat) (isAppending isReadable isWritable : Bool)
  | directory
  | null

structure World where
  system : FileSystem
  streams : Array Stream
  /-- What the script wrote to its two outputs and when, the last first. -/
  output : List (Nat × Chunk) := []
  elapsed : Nat := 0
  /-- How many commands may still be run before the script is taken to be endless. -/
  budget : Nat := 100000
  nextProcess : Nat := 1000
  /-- Signals that the shells inside the first one have sent to it, and when. -/
  signals : List (Nat × Nat) := []

structure Variable where
  value : Option String := none
  isExported : Bool := false
  isReadOnly : Bool := false

structure ShellOptions where
  letters : List Char := []

inductive Flow where
  | next
  | leavesLoops (count : Nat)
  | nextRound (count : Nat)
  | returns
  /-- Nowhere: this shell ends. -/
  | exits
  /-- Nowhere: a signal ends the script with all its shells. -/
  | killed (signal : Nat)
  /-- Nowhere: the script does not end. -/
  | endless
  deriving DecidableEq

structure Job where
  process : Nat
  status : ExitStatus
  finish : Nat

structure Shell where
  world : World
  descriptors : List (Nat × Nat)
  directory : Files.Place := []
  /-- The directory of the system in which the script is, if it has left its own. No other files are
  found there. -/
  away : Option String := none
  name : String := "sh"
  /-- The builtin, or the file that is read in, from which complaints come. -/
  speaker : Option String := none
  parameters : List String := []
  bindings : List (String × Variable) := []
  functions : List (String × Nat × Command) := []
  options : ShellOptions := {}
  status : Nat := 0
  /-- How the last command inside the words of the present one ended. -/
  innerStatus : Option Nat := none
  flow : Flow := .next
  line : Nat := 0
  lastLine : Nat := 0
  documents : List (Nat × Word) := []
  /-- Actions for signals; zero stands for the end of the script. -/
  traps : List (Nat × String) := []
  pendingSignals : List Nat := []
  previous : Files.Place × Option String := ([], none)
  loopDepth : Nat := 0
  functionDepth : Nat := 0
  /-- Values of variables from before the functions that are running, the innermost first. -/
  hidden : List (List (String × Option Variable)) := []
  jobs : List Job := []
  isInner : Bool := false
  /-- Where options are looked for next: the argument, counted from one, and how much of the one
  before it is taken. -/
  optionPlace : Nat × Option Nat := (1, none)
  aliases : List (String × String) := []

namespace Shell

def ownProcess : Nat := 999

def has (shell : Shell) (letter : Char) : Bool :=
  shell.options.letters.contains letter

def setOption (shell : Shell) (letter : Char) (isOn : Bool) : Shell :=
  let others := shell.options.letters.filter (· != letter)
  { shell with options := ⟨if isOn then letter :: others else others⟩ }

def files (shell : Shell) : FileSystem :=
  if shell.away.isSome then {} else shell.world.system

def streamOf? (shell : Shell) (descriptor : Nat) : Option (Nat × Stream) := do
  let index ← shell.descriptors.lookup descriptor
  let stream ← shell.world.streams[index]?
  some (index, stream)

def setStream (shell : Shell) (index : Nat) (stream : Stream) : Shell :=
  { shell with world :=
    { shell.world with streams := shell.world.streams.setIfInBounds index stream } }

def addStream (shell : Shell) (stream : Stream) : Nat × Shell :=
  (shell.world.streams.size,
    { shell with world := { shell.world with streams := shell.world.streams.push stream } })

def setDescriptor (shell : Shell) (descriptor index : Nat) : Shell :=
  { shell with descriptors := (descriptor, index) :: shell.descriptors.filter fun entry =>
    entry.1 != descriptor }

def closeDescriptor (shell : Shell) (descriptor : Nat) : Shell :=
  { shell with descriptors := shell.descriptors.filter fun entry => entry.1 != descriptor }

/-- A file with some bytes from a place in it on; a gap before them is filled with zeros. -/
def overwritten (content : ByteArray) (offset : Nat) (bytes : ByteArray) : ByteArray :=
  let gap : ByteArray := ⟨(List.replicate (offset - content.size) (0 : UInt8)).toArray⟩
  content.extract 0 offset ++ gap ++ bytes ++ content.extract (offset + bytes.size) content.size

/-- Writes bytes to a descriptor. There is nothing when that cannot be done. -/
def write? (shell : Shell) (descriptor : Nat) (bytes : ByteArray) : Option Shell := do
  let (index, stream) ← shell.streamOf? descriptor
  match stream with
  | .output isError =>
    let written := (shell.world.elapsed, Chunk.mk isError bytes)
    some { shell with world := { shell.world with output := written :: shell.world.output } }
  | .sink before => some (shell.setStream index (.sink (before ++ bytes)))
  | .null => some shell
  | .file place offset isAppending isReadable true =>
    let content := ((shell.world.system.fileAt? place).map Files.Content.bytes).getD .empty
    let offset := if isAppending then content.size else offset
    let system := shell.world.system.put place { bytes := overwritten content offset bytes }
    let shell := { shell with world := { shell.world with system } }
    some (shell.setStream index (.file place (offset + bytes.size) isAppending isReadable true))
  | _ => none

def write (shell : Shell) (descriptor : Nat) (bytes : ByteArray) : Shell :=
  (shell.write? descriptor bytes).getD shell

/-- What can be read from a descriptor. There is nothing when it cannot be read. -/
def readable? (shell : Shell) (descriptor : Nat) : Option ByteArray := do
  let (_, stream) ← shell.streamOf? descriptor
  match stream with
  | .source bytes => some bytes
  | .null => some .empty
  | .file place offset _ true _ =>
    let content := ((shell.world.system.fileAt? place).map Files.Content.bytes).getD .empty
    some (content.extract offset content.size)
  | _ => none

/-- Leaves the last bytes of those that can be read from a descriptor. -/
def leaveUnread (shell : Shell) (descriptor : Nat) (unread : ByteArray) : Shell :=
  match shell.streamOf? descriptor with
  | some (index, .source _) => shell.setStream index (.source unread)
  | some (index, .file place _ isAppending true isWritable) =>
    let content := ((shell.world.system.fileAt? place).map Files.Content.bytes).getD .empty
    shell.setStream index (.file place (content.size - unread.size) isAppending true isWritable)
  | _ => shell

def print (shell : Shell) (text : String) (descriptor : Nat := 1) : Shell :=
  shell.write descriptor (bytesOfText text)

/-- A complaint, with the name of the script, the line, and where it comes from. -/
def complain (shell : Shell) (text : String) : Shell :=
  let speaker := (shell.speaker.map fun speaker => speaker ++ ": ").getD ""
  shell.print s!"{shell.name}: {shell.line}: {speaker}{text}\n" 2

def exit (shell : Shell) (status : Nat) : Shell :=
  { shell with status, flow := .exits }

def fail (shell : Shell) (text : String) (status : Nat := 2) : Shell :=
  (shell.complain text).exit status

def goesOn (shell : Shell) : Bool :=
  shell.flow == .next

def variableNamed? (shell : Shell) (name : String) : Option Variable :=
  shell.bindings.lookup name

def value? (shell : Shell) (name : String) : Option String :=
  (shell.variableNamed? name).bind Variable.value

def putVariable (shell : Shell) (name : String) (entry : Option Variable) : Shell :=
  let others := shell.bindings.filter fun other => other.1 != name
  { shell with bindings := (entry.toList.map fun entry => (name, entry)) ++ others }

/-- Gives a variable a value. There is nothing when it cannot be changed. -/
def assign? (shell : Shell) (name value : String) : Option Shell :=
  let before := (shell.variableNamed? name).getD {}
  if before.isReadOnly then none
  else some (shell.putVariable name
    (some { before with value := some value, isExported := before.isExported || shell.has 'a' }))

def assign (shell : Shell) (name value : String) : Shell :=
  (shell.assign? name value).getD (shell.fail s!"{name}: is read only")

def searchPath (shell : Shell) : List String :=
  ((shell.value? "PATH").map fun text => Text.piecesOf ':' text).getD []

def exported (shell : Shell) : List (String × String) :=
  shell.bindings.filterMap fun (name, entry) =>
    if entry.isExported then entry.value.map fun value => (name, value) else none

def environment (shell : Shell) : Environment where
  system := shell.files
  directory := shell.directory
  bindings := shell.exported
  inputProblem := match shell.streamOf? 0 with
    | some (_, .directory) => some .isDirectory
    | _ => none

def separators (shell : Shell) : List Char :=
  ((shell.value? "IFS").getD " \t\n").toList

end Shell
end Spellspan.Process
