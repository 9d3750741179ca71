import Spellspan.Surroundings.Process.Script.Words

/-!
Reading the tokens of a script, and the documents that follow a line.
-/
set_option autoImplicit false

namespace Spellspan.Process

open ScriptParser

/-- The lines of a document up to its delimiter, and what stands behind it. -/
def documentLines (document : PendingDocument) : Nat → List Char → List Char × List Char
  | 0, text => ([], text)
  | bound + 1, text =>
    if text.isEmpty then ([], [])
    else
      let line := text.takeWhile (· != '\n')
      let rest := text.drop (line.length + 1)
      let bare := if document.stripsTabs then line.dropWhile (· == '\t') else line
      if bare == document.delimiter then ([], rest)
      else
        let lineBreak := if line.length < text.length then ['\n'] else []
        let (lines, rest) := documentLines document bound rest
        (bare ++ lineBreak ++ lines, rest)

def readDocuments (nested : NestedLists) : Nat → ScriptParser Unit
  | 0 => pure ()
  | bound + 1 => do
    let input ← get
    match input.pending with
    | [] => pure ()
    | document :: others => do
      let (body, behind) := documentLines document (input.rest.length + 1) input.rest
      let line := input.line + (input.rest.take (input.rest.length - behind.length)).count '\n'
      let word ←
        if document.isLiteral then pure [Part.text true body]
        else do
          set { input with rest := body, pending := [], isPushed := false }
          wordParts nested (body.length + 2) .document
      modify fun inner =>
        { inner with
          rest := behind, line, last := input.last, isPushed := input.isPushed, pending := others
          documents := (document.number, word) :: inner.documents }
      readDocuments nested bound

def redirectionToken (descriptor : Option Nat) : ScriptParser ScriptToken := do
  let token (length : Nat) (standard : Nat) (kind : RedirectionKind) :
    ScriptParser ScriptToken := do
    pass ((← get).rest.take length)
    return .redirection (descriptor.getD standard) kind
  match (← get).rest with
  | '>' :: '>' :: _ => token 2 1 .append
  | '>' :: '|' :: _ => token 2 1 .clobber
  | '>' :: '&' :: _ => token 2 1 .duplicateOutput
  | '>' :: _ => token 1 1 .write
  | '<' :: '<' :: '-' :: _ => do
    pass ['<', '<', '-']
    return .document (descriptor.getD 0) true
  | '<' :: '<' :: _ => do
    pass ['<', '<']
    return .document (descriptor.getD 0) false
  | '<' :: '&' :: _ => token 2 0 .duplicateInput
  | '<' :: '>' :: _ => token 2 0 .readWrite
  | _ => token 1 0 .read

/-- Operators other than those of redirections, the longer first. -/
def operators : List String :=
  ["&&", "&", "||", "|", ";;", ";", "(", ")"]

def skipBlanks : Nat → ScriptParser Unit
  | 0 => pure ()
  | bound + 1 => do
    let _ ← takeWhile fun c => c == ' ' || c == '\t'
    match (← get).rest with
    | '\\' :: '\n' :: _ => do
      pass ['\\', '\n']
      skipBlanks bound
    | '#' :: _ => do
      let _ ← takeWhile (· != '\n')
      skipBlanks bound
    | _ => pure ()

def freshToken (nested : NestedLists) : ScriptParser ScriptToken := do
  skipBlanks (← reach)
  let rest := (← get).rest
  match rest, operators.find? fun operator => operator.toList.isPrefixOf rest with
  | [], _ => return .endOfFile
  | '\n' :: _, _ => do
    pass ['\n']
    return .newline
  | _, some operator => do
    pass operator.toList
    return .operator operator
  | '<' :: _, _ => redirectionToken none
  | '>' :: _, _ => redirectionToken none
  | digit :: behind, _ =>
    if digit.isDigit && (behind.head? == some '<' || behind.head? == some '>') then do
      pass [digit]
      redirectionToken (some (digit.toNat - '0'.toNat))
    else return .word (← wordParts nested (← reach) .bare)

/-- Takes the last token again, or reads one, over so many line breaks if they do not count. -/
def unclassifiedToken (nested : NestedLists) (skipsNewlines : Bool) : Nat → ScriptParser ScriptToken
  | 0 => return .endOfFile
  | bound + 1 => do
    let input ← get
    let token ← if input.isPushed then pure input.last else freshToken nested
    modify fun input => { input with isPushed := false, last := token }
    match skipsNewlines, token with
    | true, .newline => do
      readDocuments nested ((← get).pending.length + 1)
      unclassifiedToken nested true bound
    | _, token => return token

/-- Reads a token, or takes the last one again. A word may be a keyword. -/
def readToken (nested : NestedLists) : ScriptParser ScriptToken := do
  let input ← get
  let token ← unclassifiedToken nested input.skipsNewlines (← reach)
  let token := match input.seesKeywords, token with
    | true, .word [.text false chars] =>
      if keywords.contains (String.ofList chars) then .keyword (String.ofList chars) else token
    | _, token => token
  modify fun input => { input with last := token, skipsNewlines := false, seesKeywords := false }
  return token

end Spellspan.Process
