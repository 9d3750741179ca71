import Spellspan.Surroundings.Process.Condition
import Spellspan.Surroundings.Process.Format
import Spellspan.Surroundings.Process.Shell.Expansion

/-!
Commands that the shell runs itself: what they have in common, and those that print or look at
files.
-/
set_option autoImplicit false

namespace Spellspan.Process

/-- A step of a builtin. It may end with a complaint. -/
abbrev ShellAction := ExceptT String (StateM Shell)

/-- A builtin, which is given its arguments and tells its status. -/
abbrev Builtin := List String → ShellAction Nat

namespace ShellAction

/-- Takes the options at the beginning of the arguments, each a letter that is known. Two dashes end
them. -/
def options (letters : String) : List String → ShellAction (List Char × List String)
  | [] => return ([], [])
  | "--" :: rest => return ([], rest)
  | argument :: rest =>
    match argument.toList with
    | '-' :: first :: others => do
      if let some letter := (first :: others).find? fun letter =>
        !letters.toList.contains letter then
        throw s!"Illegal option -{letter}"
      let (found, operands) ← options letters rest
      return (first :: others ++ found, operands)
    | _ => return ([], argument :: rest)

def greatestNumber : Int := 2147483647

def number (text : String) : ShellAction Nat :=
  match Condition.number? text with
  | some value => if 0 ≤ value && value ≤ greatestNumber then return value.toNat
      else throw s!"Illegal number: {text}"
  | none => throw s!"Illegal number: {text}"

def print (text : String) : ShellAction Unit := do
  match (← get).write? 1 (bytesOfText text) with
  | some shell => set shell
  | none => if text != "" then throw "I/O error"

def warn (text : String) : ShellAction Unit :=
  modify fun shell => shell.complain text

end ShellAction

open ShellAction

def singleQuoted (text : String) : String :=
  let step (c : Char) : String := if c == '\'' then "'\"'\"'" else String.singleton c
  "'" ++ String.join (text.toList.map step) ++ "'"

namespace Builtin

def constant (status : Nat) : Builtin := fun _ =>
  return status

/-- Writes to the output what a builtin prints, with a warning when that cannot be done. -/
def printed (name text : String) (status : Nat := 0) : ShellAction Nat := do
  match (← get).write? 1 (bytesOfText text) with
  | some shell =>
    set shell
    return status
  | none =>
    if text == "" then return status
    warn s!"{name}: I/O error"
    return 1

def echo : Builtin := fun arguments =>
  printed "echo" (Format.line arguments)

def print : Builtin := fun arguments => do
  let (_, operands) ← options "" arguments
  match operands with
  | [] => throw "usage: printf format [arg ...]"
  | format :: values =>
    let result := Format.print format values
    let text := String.ofList result.text.reverse
    if result.isRefused then
      modify fun shell => shell.print text
      for complaint in result.complaints.dropLast do warn complaint
      throw (result.complaints.getLastD "")
    for complaint in result.complaints do warn complaint
    printed "printf" text (if result.complaints.isEmpty then 0 else 1)

def test : Builtin := fun arguments => do
  match Condition.evaluate (← get).environment false arguments with
  | .ok holds => return if holds then 0 else 1
  | .error complaint => throw complaint

/-- Tells whether a condition holds whose last argument begins with a bracket. -/
def bracket : Builtin := fun arguments =>
  if (arguments.getLastD "").toList.head? == some ']' then test arguments.dropLast
  else throw "missing ]"

def pathOf (place : Files.Place) : String :=
  "/".intercalate ("/tmp/work" :: place.map byteText)

def currentPath (shell : Shell) : String :=
  shell.away.getD (pathOf shell.directory)

/-- Whether a path leads above the directory of the script, from so deep below it. -/
def leavesFrom : Nat → List String → Bool
  | _, [] => false
  | 0, ".." :: _ => true
  | depth + 1, ".." :: rest => leavesFrom depth rest
  | depth, piece :: rest =>
      leavesFrom (if piece == "" || piece == "." then depth else depth + 1) rest

def goTo (place : Files.Place) (away : Option String) : ShellAction Unit :=
  modify fun shell =>
    let moved := { shell with directory := place, away, previous := (shell.directory, shell.away) }
    (moved.assign "OLDPWD" (currentPath shell)).assign "PWD" (currentPath moved)

/-- Goes to another directory; without an argument, to that of the user. -/
def changeDirectory : Builtin := fun arguments => do
  let (_, operands) ← options "LP" arguments
  let shell ← get
  let path := operands.headD ((shell.value? "HOME").getD "")
  if path == "" then return 0
  else if path == "-" then
    goTo shell.previous.1 shell.previous.2
    printed "cd" (currentPath (← get) ++ "\n")
  else if systemDirectories.contains path then
    goTo [] (some path)
    return 0
  else
    match shell.files.resolveFrom shell.directory (nameOfText path) with
    | .ok place =>
      if shell.files.isDirectoryAt place then
        goTo place (if leavesFrom shell.directory.length (Text.piecesOf '/' path) then some "/tmp"
          else shell.away)
        return 0
      else throw s!"can't cd to {path}"
    | .error _ => throw s!"can't cd to {path}"

def printDirectory : Builtin := fun arguments => do
  let _ ← options "LP" arguments
  printed "pwd" (currentPath (← get) ++ "\n")

end Builtin
end Spellspan.Process
