import Spellspan.Surroundings.Process.Script.Tokens

/-!
Reading scripts. The text is taken a line at a time: a command and all that belongs to it is read,
and what stands behind the line is left for later. What reads a list of commands is given a way to
read the lists inside it, one level deeper.
-/
set_option autoImplicit false

namespace Spellspan.Process

open ScriptParser

/-- The name of the parameter and the assigned word, when a word is an assignment. -/
def assignment? : Word → Option (String × Word)
  | .text false chars :: rest =>
    let name := chars.takeWhile (· != '=')
    if isName name && name.length < chars.length then
      let value := chars.drop (name.length + 1)
      some (String.ofList name, if value.isEmpty then rest else .text false value :: rest)
    else none
  | _ => none

def sequenced : List Command → Option Command
  | [] => none
  | [command] => some command
  | commands => some (.sequence commands.reverse)

def inBackground (line : Nat) : Command → Command
  | .pipeline commands _ => .pipeline commands true
  | .redirected line body redirections => .background line body redirections
  | command => .background line command []

/-- Builtins with a meaning of their own, whose names no function can have. -/
def specialBuiltins : List String :=
  [".", ":", "break", "continue", "eval", "exec", "exit", "export", "local", "readonly", "return",
    "set", "shift", "times", "trap", "unset"]

def keywordNext (nested : NestedLists) (text : String) : ScriptParser Unit := do
  let token ← readToken nested
  if token.isKeyword text then pure () else unexpected (some s!"\"{text}\"")

def block (nested : NestedLists) : ScriptParser Command := do
  return (← nested .block).getD .empty

/-- Reads the word behind the operator of a redirection, if a token is one. -/
def redirection? (nested : NestedLists) (token : ScriptToken) :
    ScriptParser (Option Redirection) := do
  match token with
  | .redirection descriptor kind =>
    match ← readToken nested with
    | .word parts => return some (.target descriptor kind parts)
    | _ => unexpected none
  | .document descriptor stripsTabs =>
    match ← readToken nested with
    | .word parts => do
      let number := (← get).nextDocument
      let document : PendingDocument :=
        { number, stripsTabs, delimiter := (plainText? parts).getD [], isLiteral :=
          isQuotedWord parts }
      modify fun input =>
        { input with nextDocument := number + 1, pending := input.pending ++ [document] }
      return some (.document descriptor number)
    | _ => unexpected none
  | _ => return none

/-- Reads the redirections behind a command. Only a keyword before the first of them is taken as
one. -/
def redirectionsBehind (nested : NestedLists) (seesKeywords : Bool) :
    Nat → ScriptParser (List Redirection)
  | 0 => return []
  | bound + 1 => do
    expect false seesKeywords
    let token ← readToken nested
    match ← redirection? nested token with
    | some redirection => do
      let others ← redirectionsBehind nested false bound
      return redirection :: others
    | none => do
      push
      return []

/-- Reads a condition with its branches, behind the keyword before it. -/
def conditionalCommand (nested : NestedLists) : Nat → ScriptParser Command
  | 0 => return .empty
  | bound + 1 => do
    let test ← block nested
    keywordNext nested "then"
    let body ← block nested
    let token ← readToken nested
    if token.isKeyword "elif" then do
      let otherwise ← conditionalCommand nested bound
      return .conditional test body otherwise
    else if token.isKeyword "else" then do
      let otherwise ← block nested
      return .conditional test body otherwise
    else do
      push
      return .conditional test body .empty

def loopBody (nested : NestedLists) : ScriptParser Command := do
  keywordNext nested "do"
  let body ← block nested
  keywordNext nested "done"
  return body

def loopCommand (nested : NestedLists) (isUntil : Bool) : ScriptParser Command := do
  let test ← block nested
  let body ← loopBody nested
  return .loop isUntil test body

def wordsBefore (nested : NestedLists) : Nat → ScriptParser (List Word)
  | 0 => return []
  | bound + 1 => do
    match ← readToken nested with
    | .word parts => do
      let others ← wordsBefore nested bound
      return parts :: others
    | _ => return []

def iterationCommand (nested : NestedLists) (line : Nat) : ScriptParser Command := do
  let name ← match ← readToken nested with
    | .word [.text false chars] => if isName chars then pure chars else fail "Bad for loop variable"
    | _ => fail "Bad for loop variable"
  expect true true
  let token ← readToken nested
  let words ←
    if token.isKeyword "in" then do
      let words ← wordsBefore nested (← reach)
      match (← get).last with
      | .newline => pure words
      | .operator ";" => pure words
      | _ => unexpected none
    else do
      if !token.isOperator ";" then push
      pure [[.parameter true "@" .value]]
  expect true true
  let body ← loopBody nested
  return .iteration line (String.ofList name) words body

def branchPatterns (nested : NestedLists) : Nat → ScriptToken → ScriptParser (List Word)
  | 0, _ => return []
  | bound + 1, token => do
    let pattern := match token with
      | .word parts => parts
      | .keyword text => [.text false text.toList]
      | _ => []
    let next ← readToken nested
    if next.isOperator "|" then do
      let token ← readToken nested
      let others ← branchPatterns nested bound token
      return pattern :: others
    else return [pattern]

def selectionBranches (nested : NestedLists) : Nat → ScriptParser (List (List Word × Command))
  | 0 => return []
  | bound + 1 => do
    expect true true
    let token ← readToken nested
    if token.isKeyword "esac" then return []
    else do
      let token ← if token.isOperator "(" then readToken nested else pure token
      let patterns ← branchPatterns nested (← reach) token
      if !(← get).last.isOperator ")" then unexpected (some "\")\"")
      else do
        let body := (← nested .lenient).getD .empty
        expect true true
        let token ← readToken nested
        if token.isKeyword "esac" then return [(patterns, body)]
        else if token.isOperator ";;" then do
          let others ← selectionBranches nested bound
          return (patterns, body) :: others
        else unexpected (some "\";;\"")

def selectionCommand (nested : NestedLists) (line : Nat) : ScriptParser Command := do
  match ← readToken nested with
  | .word parts => do
    expect true true
    keywordNext nested "in"
    let branches ← selectionBranches nested (← reach)
    return .selection line parts branches
  | _ => unexpected (some "word")

/-- Reads a function behind the bracket that opens its empty list of parameters. -/
def functionCommand (nested : NestedLists) (line : Nat) (word : Word) : ScriptParser Command := do
  let token ← readToken nested
  if !token.isOperator ")" then unexpected (some "\")\"")
  else do
    let name := (plainText? word).getD []
    if !isName name || isQuotedWord word || specialBuiltins.contains (String.ofList name) then
      fail "Bad function name"
    else do
      expect true true
      let body := (← nested .single).getD .empty
      return .function line (String.ofList name) body

/-- Reads a command of words, or the definition of a function, behind some of its parts, which are
in reverse order. -/
def simpleCommand (nested : NestedLists) (line : Nat) :
    Nat → List (String × Word) → List Word → List Redirection → ScriptParser Command
  | 0, _, _, _ => return .empty
  | bound + 1, assignments, words, redirections => do
    let token ← readToken nested
    match token with
    | .word parts =>
      match words, assignment? parts with
      | [], some assignment =>
          simpleCommand nested line bound (assignment :: assignments) [] redirections
      | _, _ => simpleCommand nested line bound assignments (parts :: words) redirections
    | _ => do
      match ← redirection? nested token with
      | some redirection =>
          simpleCommand nested line bound assignments words (redirection :: redirections)
      | none =>
        match token.isOperator "(", words, assignments, redirections with
        | true, [word], [], [] => functionCommand nested line word
        | _, _, _, _ => do
          push
          return .simple line assignments.reverse words.reverse redirections.reverse

def oneCommand (nested : NestedLists) : ScriptParser Command := do
  let token ← readToken nested
  let line := (← get).line
  let compound (command : Command) : ScriptParser Command := do
    let redirections ← redirectionsBehind nested true (← reach)
    return if redirections.isEmpty then command else .redirected line command redirections
  let simple : ScriptParser Command := do
    push
    simpleCommand nested line (← reach) [] [] []
  match token with
  | .word _ => simple
  | .redirection _ _ => simple
  | .document _ _ => simple
  | .operator "(" => do
    let body ← block nested
    let token ← readToken nested
    if token.isOperator ")" then do
      let redirections ← redirectionsBehind nested true (← reach)
      return .subshell line body redirections
    else unexpected (some "\")\"")
  | .keyword "\x7b" => do
    let body ← block nested
    keywordNext nested "\x7d"
    compound body
  | .keyword "if" => do
    let command ← conditionalCommand nested (← reach)
    keywordNext nested "fi"
    compound command
  | .keyword "while" => compound (← loopCommand nested false)
  | .keyword "until" => compound (← loopCommand nested true)
  | .keyword "for" => compound (← iterationCommand nested line)
  | .keyword "case" => compound (← selectionCommand nested line)
  | _ => unexpected none

def pipedCommands (nested : NestedLists) : Nat → ScriptParser (List Command)
  | 0 => return []
  | bound + 1 => do
    let token ← readToken nested
    if token.isOperator "|" then do
      expect true true
      let command ← oneCommand nested
      let others ← pipedCommands nested bound
      return command :: others
    else do
      push
      return []

def negatedPipeline (nested : NestedLists) : ScriptParser Command := do
  let token ← readToken nested
  let isNegated := token.isKeyword "!"
  if isNegated then expect false true else push
  let first ← oneCommand nested
  let others ← pipedCommands nested (← reach)
  let pipeline := if others.isEmpty then first else .pipeline (first :: others) false
  return if isNegated then .negation pipeline else pipeline

/-- Reads pipelines with conditions between them, behind the first. -/
def conditionalList (nested : NestedLists) : Nat → Command → ScriptParser Command
  | 0, first => return first
  | bound + 1, first => do
    let token ← readToken nested
    if token.isOperator "&&" || token.isOperator "||" then do
      expect true true
      let second ← negatedPipeline nested
      conditionalList nested bound (if token.isOperator "&&" then .both first second
        else .either first second)
    else do
      push
      return first

def commandsFrom (nested : NestedLists) (kind : ListKind) :
    Nat → List Command → ScriptParser (Option Command)
  | 0, before => return sequenced before
  | bound + 1, before => do
    let documents : ScriptParser Unit := do
      readDocuments nested ((← get).pending.length + 1)
    let atEnd : ScriptParser Unit := do
      documents
      modify fun input => { input with last := .endOfFile, isPushed := true }
    expect (kind != .line) true
    let token ← readToken nested
    match token with
    | .newline => do
      documents
      return sequenced before
    | .endOfFile => do
      atEnd
      return sequenced before
    | _ => do
      push
      if token.endsList && (kind == .lenient || (kind == .block && !before.isEmpty)) then
        return sequenced before
      else do
        let first ← negatedPipeline nested
        let command ← conditionalList nested (← reach) first
        let line := (← get).line
        let token ← readToken nested
        let commands := (if token.isOperator "&" then inBackground line command
          else command) :: before
        match token with
        | .endOfFile => do
          atEnd
          return sequenced commands
        | .newline => do
          push
          commandsFrom nested kind bound commands
        | _ =>
          if token.isOperator "&" || token.isOperator ";" then commandsFrom nested kind bound commands
          else if kind == .line then unexpected none
          else do
            push
            return sequenced commands

def listsOfDepth : Nat → NestedLists
  | 0, _ => fail "Nesting too deep"
  | depth + 1, kind => do
    match kind with
    | .single => return some (← oneCommand (listsOfDepth depth))
    | kind => commandsFrom (listsOfDepth depth) kind (← reach) []

/-- The commands of the next line of a script; there are none at its end. -/
def nextLine (input : ScriptInput) : Except ScriptError (Option Command × ScriptInput) :=
  match (listsOfDepth (input.size + 2) .line).run { input with isPushed := false } with
  | .error error => .error error
  | .ok (none, after) => if after.isPushed then .ok (none, after) else .ok (some .empty, after)
  | .ok (some command, after) => .ok (some command, after)

end Spellspan.Process
