import Spellspan.Engine.Transport
import Spellspan.Files.Path
import Spellspan.Files.System
import Spellspan.Parse.Conversion
import Spellspan.Tree.Bundle

/-!
Loading a file to check: a bundle holds its syntax tree, a source file is parsed.
-/
set_option autoImplicit false

namespace Spellspan.Files

/-- Why a file could not be loaded. -/
inductive LoadError where
  | unreadable (path : String) (problem : FileProblem)
  | invalidBundle (path : String)
  | invalidRoot
  | unsupported (path : String)
  | unparsed (path : String)
  deriving DecidableEq, Repr

def LoadError.message : LoadError → String
  | .unreadable path problem => s!"failed to read {path}: {problem.message}"
  | .invalidBundle path => s!"invalid ESTree bundle {path}: {Engine.particulars}"
  | .invalidRoot => Tree.Bundle.rootMessage
  | .unsupported path => s!"unsupported source file {path}"
  | .unparsed path => s!"failed to parse {path}"

def loadBundle (system : FileSystem) (path : String) : Except LoadError SourceFile :=
  match system.readText path with
  | .error problem => .error (.unreadable path problem)
  | .ok (text, _) =>
    match Tree.Bundle.ofText? text with
    | none => .error (.invalidBundle path)
    | some bundle =>
      match bundle.load? with
      | some file => .ok file
      | none => .error .invalidRoot

def loadSource (system : FileSystem) (path : String) : Except LoadError SourceFile :=
  match SourceLanguage.ofPath? path with
  | none => .error (.unsupported path)
  | some _ =>
    match system.readText path with
    | .error problem => .error (.unreadable path problem)
    | .ok (_, none) => .error (.unparsed path)
    | .ok (text, some parse) => .ok (Parse.load path text.toList parse)

def load (system : FileSystem) (path : String) : Except LoadError SourceFile :=
  if isBundle path then loadBundle system path else loadSource system path

end Spellspan.Files
