import Spellspan.Surroundings.Process.Script.Basic

/-!
Scripts while they are read: what is left of the text, the last token, and documents that are still
to come.
-/
set_option autoImplicit false

namespace Spellspan.Process

inductive ScriptToken where
  | endOfFile
  | newline
  | operator (text : String)
  | redirection (descriptor : Nat) (kind : RedirectionKind)
  /-- A document that follows the line; tabs at the beginning of its lines may not count. -/
  | document (descriptor : Nat) (stripsTabs : Bool)
  | word (parts : Word)
  | keyword (text : String)

namespace ScriptToken

def name : ScriptToken → String
  | .endOfFile => "end of file"
  | .newline => "newline"
  | .operator text => s!"\"{text}\""
  | .redirection _ _ => "redirection"
  | .document _ _ => "redirection"
  | .word _ => "word"
  | .keyword text => s!"\"{text}\""

def isOperator (text : String) : ScriptToken → Bool
  | .operator found => found == text
  | _ => false

def isKeyword (text : String) : ScriptToken → Bool
  | .keyword found => found == text
  | _ => false

def endsList : ScriptToken → Bool
  | .endOfFile => true
  | .operator text => [")", ";;"].contains text
  | .keyword text => ["do", "done", "elif", "else", "esac", "fi", "then", "\x7d"].contains text
  | _ => false

end ScriptToken

def keywords : List String :=
  ["!", "case", "do", "done", "elif", "else", "esac", "fi", "for", "if", "in", "then", "until",
    "while", "\x7b", "\x7d"]

structure PendingDocument where
  number : Nat
  stripsTabs : Bool
  delimiter : List Char
  isLiteral : Bool

structure ScriptInput where
  rest : List Char
  /-- The number of characters of the whole script, which bounds all that is read of it. -/
  size : Nat
  line : Nat := 1
  last : ScriptToken := .endOfFile
  isPushed : Bool := false
  skipsNewlines : Bool := false
  seesKeywords : Bool := false
  pending : List PendingDocument := []
  documents : List (Nat × Word) := []
  nextDocument : Nat := 0

inductive ListKind where
  | line
  | block
  | lenient
  | single
  deriving DecidableEq

structure ScriptError where
  line : Nat
  message : String

abbrev ScriptParser := StateT ScriptInput (Except ScriptError)

abbrev NestedLists := ListKind → ScriptParser (Option Command)

namespace ScriptParser

def fail {α : Type} (message : String) : ScriptParser α := do
  throw { line := (← get).line, message := "Syntax error: " ++ message }

def unexpected {α : Type} (expected : Option String) : ScriptParser α := do
  let found := (← get).last.name
  fail (match expected with
    | some expected => s!"{found} unexpected (expecting {expected})"
    | none => s!"{found} unexpected")

def pass (chars : List Char) : ScriptParser Unit :=
  modify fun input =>
    { input with rest := input.rest.drop chars.length, line := input.line + chars.count '\n' }

/-- Passes over a backslash before a line break, any number of times. -/
def joinLines : Nat → ScriptParser Unit
  | 0 => pure ()
  | bound + 1 => do
    match (← get).rest with
    | '\\' :: '\n' :: _ => pass ['\\', '\n']; joinLines bound
    | _ => pure ()

def peek : ScriptParser (Option Char) := do
  joinLines (← get).size
  return (← get).rest.head?

def next : ScriptParser (Option Char) := do
  let c ← peek
  if let some c := c then pass [c]
  return c

def takeWhile (kind : Char → Bool) : ScriptParser (List Char) := do
  let chars := (← get).rest.takeWhile kind
  pass chars
  return chars

def push : ScriptParser Unit :=
  modify fun input => { input with isPushed := true }

def reach : ScriptParser Nat := do
  return (← get).size + 2

def expect (skipsNewlines seesKeywords : Bool) : ScriptParser Unit :=
  modify fun input => { input with skipsNewlines, seesKeywords }

end ScriptParser

end Spellspan.Process
