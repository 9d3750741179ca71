import Spellspan.Parse.Tree
import Spellspan.Text.Pieces

/-!
A directory with all that lies below it, as a value. A file holds bytes, and may come with the parse
of its text.
-/
set_option autoImplicit false

namespace Spellspan.Files

/-- The contents of a file. -/
structure Content where
  bytes : ByteArray
  /-- The parse of the text, for files in a language that can be parsed. -/
  parse : Option ParseTree := none

/-- Why an operation on files fails. -/
inductive FileProblem where
  | notFound
  | permissionDenied
  | notDirectory
  | isDirectory
  | nameTooLong
  | notText
  | nulInPath
  deriving DecidableEq, Repr

def FileProblem.reason : FileProblem → String
  | .notFound => "No such file or directory"
  | .permissionDenied => "Permission denied"
  | .notDirectory => "Not a directory"
  | .isDirectory => "Is a directory"
  | .nameTooLong => "File name too long"
  | .notText => "stream did not contain valid UTF-8"
  | .nulInPath => "file name contained an unexpected NUL byte"

def FileProblem.code? : FileProblem → Option Nat
  | .notFound => some 2
  | .permissionDenied => some 13
  | .notDirectory => some 20
  | .isDirectory => some 21
  | .nameTooLong => some 36
  | .notText => none
  | .nulInPath => none

def FileProblem.message (problem : FileProblem) : String :=
  match problem.code? with
  | some code => s!"{problem.reason} (os error {code})"
  | none => problem.reason

abbrev Place := List String

/-- A directory: the files and the directories below it, by their places. -/
structure FileSystem where
  files : List (Place × Content) := []
  directories : List Place := []

namespace FileSystem

def placeOf (path : String) : Place :=
  (Text.piecesOf '/' path).filter fun piece => piece != "" && piece != "."

def put (system : FileSystem) (place : Place) (content : Content) : FileSystem :=
  { system with files := system.files.filter (fun file => file.1 != place) ++ [(place, content)] }

def write (system : FileSystem) (path : String) (content : Content) : FileSystem :=
  system.put (placeOf path) content

def makeDirectory (system : FileSystem) (path : String) : FileSystem :=
  { system with directories := system.directories ++ [placeOf path] }

def fileAt? (system : FileSystem) (place : Place) : Option Content :=
  (system.files.find? fun file => file.1 == place).map Prod.snd

/-- Whether a place is a directory: it was made, or something lies below it. -/
def isDirectoryAt (system : FileSystem) (place : Place) : Bool :=
  place.isEmpty || system.directories.any (fun directory => place.isPrefixOf directory) ||
    system.files.any fun file => place.isPrefixOf file.1 && place != file.1

def namesAt (system : FileSystem) (place : Place) : List String :=
  let places := system.files.map Prod.fst ++ system.directories
  (places.filterMap fun other =>
    if place.isPrefixOf other then (other.drop place.length).head? else none).eraseDups

def maxName : Nat := 255

def maxPath : Nat := 4095

/-- Whether pieces of a path lead upwards only, if anywhere. -/
def areUpward (pieces : List String) : Bool :=
  pieces.all fun piece => ["", ".", ".."].contains piece

/-- Follows the pieces of a path from a place. Whatever has pieces behind it must be a directory.
Above the whole directory there are directories, and nothing else is found in them. -/
def follow (system : FileSystem) : Place → List String → Except FileProblem Place
  | place, [] => .ok place
  | place, piece :: rest =>
    if !system.isDirectoryAt place then .error .notDirectory
    else if piece = "" || piece = "." then follow system place rest
    else if piece = ".." then
      if place.isEmpty && !areUpward rest then .error .notFound
      else follow system place.dropLast rest
    else if maxName < piece.utf8ByteSize then .error .nameTooLong
    else
      let next := place ++ [piece]
      if system.isDirectoryAt next || (system.fileAt? next).isSome then follow system next rest
      else .error .notFound

/-- The place of something that exists, by a path that begins at another place. Only paths within
the directory exist. -/
def resolveFrom (system : FileSystem) (start : Place) (path : String) : Except FileProblem Place :=
  if path.toList.contains '\x00' then .error .nulInPath
  else if maxPath < path.utf8ByteSize then .error .nameTooLong
  else if path = "" || path.toList.head? = some '/' then .error .notFound
  else system.follow start (Text.piecesOf '/' path)

def resolve (system : FileSystem) (path : String) : Except FileProblem Place :=
  system.resolveFrom [] path

def contains (system : FileSystem) (path : String) : Bool :=
  (system.resolve path).isOk

def readFrom (system : FileSystem) (start : Place) (path : String) : Except FileProblem Content :=
  match system.resolveFrom start path with
  | .error problem => .error problem
  | .ok place =>
    match system.fileAt? place with
    | some content => .ok content
    | none => .error .isDirectory

def read (system : FileSystem) (path : String) : Except FileProblem Content :=
  system.readFrom [] path

def readText (system : FileSystem) (path : String) :
    Except FileProblem (String × Option ParseTree) :=
  match system.read path with
  | .error problem => .error problem
  | .ok content =>
    match String.fromUTF8? content.bytes with
    | some text => .ok (text, content.parse)
    | none => .error .notText

end FileSystem
end Spellspan.Files
