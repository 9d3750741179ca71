import Spellspan.Text.WhiteSpace
import Spellspan.Tree.Path

/-!
Scope paths: the labels from the root of a tree down to a node, each with the slot that leads
further in.
-/
set_option autoImplicit false

namespace Spellspan.Scope

/-- One step of a scope path. The innermost step of a node's path has no key. -/
structure ScopeEntry where
  label : String
  key : Option String := none
  deriving DecidableEq, Repr

/-- The text form `label` or `label[key]`. -/
def ScopeEntry.render (entry : ScopeEntry) : String :=
  match entry.key with
  | some key => entry.label ++ "[" ++ key ++ "]"
  | none => entry.label

/-- Steps from the root inwards. -/
structure ScopePath where
  entries : List ScopeEntry
  deriving DecidableEq, Repr

namespace ScopePath

def innermost? (path : ScopePath) : Option ScopeEntry :=
  path.entries.getLast?

def render (path : ScopePath) : String :=
  Text.joined " " (path.entries.map ScopeEntry.render)

/-- Puts the frames above a frame, the nearest first, before the steps below it. -/
def prependFrames (label : Tree.NodeId → String) : Tree.Frame → List Tree.Frame → List ScopeEntry →
    List ScopeEntry
  | _, [], entries => entries
  | below, frame :: above, entries =>
    prependFrames label frame above (⟨label frame.node, below.key.map Tree.SlotKey.name⟩ :: entries)

def ofPath (label : Tree.NodeId → String) (path : Tree.Path) : ScopePath :=
  ⟨prependFrames label path.current path.above [⟨label path.node, none⟩]⟩

/-- Reads `label` or `label[key]`; with a bracket, neither of them may be empty. -/
def parseEntry? (word : List Char) : Option ScopeEntry :=
  let label := word.takeWhile (· != '[')
  match word.drop label.length with
  | [] => some ⟨String.ofList word, none⟩
  | _ :: rest =>
    let key := rest.dropLast
    if rest.getLast? = some ']' && !key.isEmpty && !label.isEmpty then
      some ⟨String.ofList label, some (String.ofList key)⟩
    else none

/-- Reads the steps of a path in order; a word that is no step is given back. -/
def parseEntries : List (List Char) → Except String (List ScopeEntry)
  | [] => .ok []
  | word :: rest =>
    match parseEntry? word with
    | some entry => (parseEntries rest).map (entry :: ·)
    | none => .error (String.ofList word)

/-- Reads the text form of a path. The error is the first word that is no step. -/
def parse (text : String) : Except String ScopePath :=
  (parseEntries (Text.words text.toList)).map ScopePath.mk

def errorMessage (word : String) : String :=
  s!"invalid scope entry: {word}"

end ScopePath
end Spellspan.Scope
