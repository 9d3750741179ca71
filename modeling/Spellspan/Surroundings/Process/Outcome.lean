import Spellspan.Files.System
import Spellspan.Surroundings.Process.ByteText

/-!
Programs that read one stream and write two. They see the files of a directory, and end with a
status or by a signal. These modules stand for the system in which engines are started, with its
shell and a few of its programs. They are surroundings of the checker and no part of its theory,
which holds for every transport.
-/
set_option autoImplicit false

namespace Spellspan.Process

open Files (FileSystem)

inductive ExitStatus where
  | code (value : Nat)
  | signal (number : Nat)
  deriving DecidableEq, Repr

/-- A signal: its number, its name, and what is said of a program that it ended. -/
structure Signal where
  number : Nat
  name : String
  description : String

def signals : List Signal := [
  ⟨1, "HUP", "Hangup"⟩, ⟨2, "INT", "Interrupt"⟩, ⟨3, "QUIT", "Quit"⟩,
    ⟨4, "ILL", "Illegal instruction"⟩,
  ⟨5, "TRAP", "Trace/breakpoint trap"⟩, ⟨6, "ABRT", "Aborted"⟩, ⟨7, "BUS", "Bus error"⟩,
  ⟨8, "FPE", "Floating point exception"⟩, ⟨9, "KILL", "Killed"⟩,
    ⟨10, "USR1", "User defined signal 1"⟩,
  ⟨11, "SEGV", "Segmentation fault"⟩, ⟨12, "USR2", "User defined signal 2"⟩,
    ⟨13, "PIPE", "Broken pipe"⟩,
  ⟨14, "ALRM", "Alarm clock"⟩, ⟨15, "TERM", "Terminated"⟩, ⟨16, "STKFLT", "Stack fault"⟩,
    ⟨17, "CHLD", "Child exited"⟩,
  ⟨18, "CONT", "Continued"⟩, ⟨19, "STOP", "Stopped (signal)"⟩, ⟨20, "TSTP", "Stopped"⟩,
    ⟨21, "TTIN", "Stopped (tty input)"⟩,
  ⟨22, "TTOU", "Stopped (tty output)"⟩, ⟨23, "URG", "Urgent I/O condition"⟩,
    ⟨24, "XCPU", "CPU time limit exceeded"⟩,
  ⟨25, "XFSZ", "File size limit exceeded"⟩, ⟨26, "VTALRM", "Virtual timer expired"⟩,
    ⟨27, "PROF", "Profiling timer expired"⟩,
  ⟨28, "WINCH", "Window changed"⟩, ⟨29, "IO", "I/O possible"⟩, ⟨30, "PWR", "Power failure"⟩,
    ⟨31, "SYS", "Bad system call"⟩]

def maxSignal : Nat := 64

def signalNumbered? (number : Nat) : Option Signal :=
  signals.find? fun signal => signal.number == number

/-- What a signal does to a program that has made no provision for it. -/
inductive SignalEffect where
  | nothing
  | stops
  | ends
  deriving DecidableEq, Repr

def effectOf (signal : Nat) : SignalEffect :=
  if [0, 17, 18, 23, 28].contains signal then .nothing
  else if [19, 20, 21, 22].contains signal then .stops
  else .ends

namespace ExitStatus

def success : ExitStatus := .code 0

def render : ExitStatus → String
  | .code value => s!"exit status: {value}"
  | .signal number =>
    match signalNumbered? number with
    | some known => s!"signal: {number} (SIG{known.name})"
    | none => s!"signal: {number}"

def toNat : ExitStatus → Nat
  | .code value => value
  | .signal number => 128 + number

end ExitStatus

/-- What is written at once, to the first or to the second stream. -/
structure Chunk where
  isError : Bool
  bytes : ByteArray

structure Outcome where
  status : ExitStatus := .success
  output : List Chunk := []
  unread : ByteArray := .empty
  elapsed : Nat := 0
  system : Option FileSystem := none

/-- A time longer than any that a program is given, in milliseconds. -/
def forever : Nat := UInt64.size

namespace Outcome

def written (outcome : Outcome) (isError : Bool) : ByteArray :=
  (outcome.output.filter fun chunk => chunk.isError == isError).foldl
    (fun bytes chunk => bytes ++ chunk.bytes) .empty

def stdout (outcome : Outcome) : ByteArray :=
  outcome.written false

def stderr (outcome : Outcome) : ByteArray :=
  outcome.written true

def failure (stdin : ByteArray) (complaint : String) (code : Nat := 1) : Outcome :=
  { status := .code code, output := [⟨true, bytesOfText (complaint ++ "\n")⟩], unread := stdin }

def printing (stdin : ByteArray) (text : String) : Outcome :=
  { output := [⟨false, bytesOfText text⟩], unread := stdin }

end Outcome

structure Environment where
  system : FileSystem
  directory : Files.Place := []
  bindings : List (String × String) := []
  inputProblem : Option Files.FileProblem := none

abbrev Program := Environment → List String → ByteArray → Outcome

def systemDirectories : List String :=
  ["/", "/bin", "/dev", "/etc", "/home", "/lib", "/opt", "/proc", "/root", "/run", "/sbin", "/sys",
    "/tmp", "/usr", "/usr/bin", "/usr/lib", "/var"]

def Environment.read (environment : Environment) (path : String) :
    Except Files.FileProblem ByteArray :=
  if path = "/dev/null" then .ok .empty
  else if systemDirectories.contains path then .error .isDirectory
  else (environment.system.readFrom environment.directory (nameOfText path)).map Files.Content.bytes

end Spellspan.Process
