import Spellspan.Files.Path
import Spellspan.Files.System
import Spellspan.Settings

/-!
The files to check: those that are named, and the supported ones below the directories that are
named. Some directories are never searched, and paths may be left out.
-/
set_option autoImplicit false

namespace Spellspan.Files

def skippedDirectories : List String :=
  ["node_modules", "vendor", "dist", "build", "coverage"]

/-- Whether a directory below the one that is named is searched. -/
def isSearched (name : String) : Bool :=
  name.toList.head? != some '.' && !skippedDirectories.contains name

def join (directory : String) (place : Place) : String :=
  let separator := if directory.toList.getLast? = some '/' then "" else "/"
  directory ++ separator ++ Text.joined "/" place

def searchedBelow (system : FileSystem) (directory : String) (place : Place) : List String :=
  system.files.filterMap fun (file, _) =>
    let below := file.drop place.length
    if place.isPrefixOf file && !below.isEmpty && below.dropLast.all isSearched then
      some (join directory below) else none

def sorted (paths : List String) : List String :=
  paths.mergeSort fun left right => !precedesIn (components right) (components left)

/-- Drops every path that has the components of the one before it. -/
def withoutRepeats : List String → List String
  | [] => []
  | path :: rest =>
    match withoutRepeats rest with
    | [] => [path]
    | next :: others => if components path = components next then path :: others
        else path :: next :: others

def collectPath (system : FileSystem) (globs : List (List Glob.Token)) (path : String) :
    Except String (List String) :=
  match system.resolve path with
  | .error problem => .error s!"cannot access path {path}: {problem.message}"
  | .ok place =>
    if system.isDirectoryAt place then
      .ok ((searchedBelow system path place).filter fun file =>
        isSupported file && !Settings.isIgnored globs file)
    else .ok (if Settings.isIgnored globs path then [] else [path])

def collect (system : FileSystem) (settings : Settings) (paths : List String) :
    Except String (List String) := do
  let globs ← settings.ignoreGlobs
  let files ← paths.mapM (collectPath system globs)
  .ok (withoutRepeats (sorted files.flatten))

end Spellspan.Files
