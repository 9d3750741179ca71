import Spellspan.Surroundings.Process.Shell.Expansion

/-!
Redirections: descriptors are led to files, to other descriptors, or to documents that are part of
the script.
-/
set_option autoImplicit false

namespace Spellspan.Process

open Files (FileSystem FileProblem)

inductive Target where
  | file (kind : RedirectionKind) (path : String)
  | descriptor (number : Nat)
  | closed
  | document (text : String)

namespace Redirecting

def newPlace (system : FileSystem) (start : Files.Place) (path : String) :
    Except FileProblem Files.Place := do
  let pieces := Text.piecesOf '/' path
  if path == "" || path.toList.head? == some '/' then throw .notFound
  let directory ← system.follow start pieces.dropLast
  let name := pieces.getLastD ""
  if !system.isDirectoryAt directory then throw .notDirectory
  else if name == "" then throw .isDirectory
  else if FileSystem.maxName < name.utf8ByteSize then throw .nameTooLong
  else return directory ++ [name]

/-- The place of a file to write to, and whether it is there already. -/
def placeToWrite (shell : Shell) (path : String) : Except FileProblem (Files.Place × Bool) :=
  let system := shell.files
  let name := nameOfText path
  match system.resolveFrom shell.directory name with
  | .ok place => if system.isDirectoryAt place then .error .isDirectory else .ok (place, true)
  | .error .notFound =>
    if shell.away.isSome then .error .notFound
    else (newPlace system shell.directory name).map fun place => (place, false)
  | .error problem => .error problem

/-- A problem with a file, in a complaint about one that is not found in some way. -/
def reason (ifMissing : String) : FileProblem → String
  | .notFound => ifMissing
  | .notDirectory => ifMissing
  | problem => problem.reason

def deviceDescriptor? : String → Option Nat
  | "/dev/stdin" => some 0
  | "/dev/stdout" => some 1
  | "/dev/stderr" => some 2
  | path =>
    if "/dev/fd/".toList.isPrefixOf path.toList then (String.ofList (path.toList.drop 8)).toNat?
    else none

def openToRead (shell : Shell) (path : String) : Except String (Nat × Shell) :=
  match shell.files.resolveFrom shell.directory (nameOfText path) with
  | .error problem => .error (s!"cannot open {path}: " ++ reason "No such file" problem)
  | .ok place =>
    if shell.files.isDirectoryAt place then .ok (shell.addStream .directory)
    else .ok (shell.addStream (.file place 0 false true false))

/-- The number of a stream that writes a file, which is made if it is not there. -/
def openToWrite (shell : Shell) (kind : RedirectionKind) (path : String) :
    Except String (Nat × Shell) :=
  match placeToWrite shell path with
  | .error problem => .error (s!"cannot create {path}: " ++ reason "Directory nonexistent" problem)
  | .ok (place, isThere) =>
    if kind == .write && isThere && shell.has 'C' then .error s!"cannot create {path}: File exists"
    else
      let isEmptied := kind == .write || kind == .clobber || !isThere
      let system := shell.world.system
      let system := if isEmptied then system.put place { bytes := .empty } else system
      let shell := { shell with world := { shell.world with system } }
      .ok (shell.addStream (.file place 0 (kind == .append) (kind == .readWrite) true))

def openFile (shell : Shell) (kind : RedirectionKind) (path : String) :
    Except String (Nat × Shell) :=
  if path == "/dev/null" then .ok (shell.addStream .null)
  else if path == "/dev/full" then .ok (shell.addStream .directory)
  else
    match (deviceDescriptor? path).bind fun descriptor => shell.descriptors.lookup descriptor with
    | some index => .ok (index, shell)
    | none => if kind == .read then openToRead shell path else openToWrite shell kind path

def redirect (shell : Shell) (descriptor : Nat) : Target → Except String Shell
  | .file kind path => (openFile shell kind path).map fun (index, shell) =>
      shell.setDescriptor descriptor index
  | .descriptor number =>
    match shell.descriptors.lookup number with
    | some index => .ok (shell.setDescriptor descriptor index)
    | none => .error s!"{number}: Bad file descriptor"
  | .closed => .ok (shell.closeDescriptor descriptor)
  | .document text =>
    let (index, shell) := shell.addStream (.source (bytesOfText text))
    .ok (shell.setDescriptor descriptor index)

/-- Leads descriptors to their targets. At the first that cannot be led there is a complaint, and
the rest is left as it is. A descriptor that would be led to another one is closed before that one
is looked for. -/
def redirectAll : List (Nat × Target) → Shell → Bool × Shell
  | [], shell => (true, shell)
  | (descriptor, target) :: rest, shell =>
    match redirect shell descriptor target with
    | .ok shell => redirectAll rest shell
    | .error complaint =>
      let shell := match target with
        | .descriptor _ => shell.closeDescriptor descriptor
        | _ => shell
      (false, { shell.complain complaint with status := 2 })

def targetOf (capture : Capture) (redirection : Redirection) (shell : Shell) :
    (Nat × Target) × Shell :=
  match redirection with
  | .target descriptor kind word =>
    let (text, shell) := Expansion.expandText capture word shell
    if kind == .duplicateInput || kind == .duplicateOutput then
      match text.toList with
      | ['-'] => ((descriptor, .closed), shell)
      | digits =>
        if digits.length == 1 &&
          digits.all Char.isDigit then ((descriptor, .descriptor (text.toNat?.getD 0)), shell)
        else ((descriptor, .closed),
          { shell with line := shell.lastLine }.fail "Syntax error: Bad fd number")
    else ((descriptor, .file kind text), shell)
  | .document descriptor number =>
    let (text, shell) :=
      Expansion.expandText capture ((shell.documents.lookup number).getD []) shell
    ((descriptor, .document text), shell)

def targetsOf (capture : Capture) : List Redirection → Shell → List (Nat × Target) × Shell
  | [], shell => ([], shell)
  | redirection :: rest, shell =>
    let (target, shell) := targetOf capture redirection shell
    if shell.goesOn then
      let (others, shell) := targetsOf capture rest shell
      (target :: others, shell)
    else ([], shell)

end Redirecting
end Spellspan.Process
