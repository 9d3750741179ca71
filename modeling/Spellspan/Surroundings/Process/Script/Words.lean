import Spellspan.Surroundings.Process.Script.Input

/-!
Reading words: their text, and the parameters, commands and expressions in them.
-/
set_option autoImplicit false

namespace Spellspan.Process

open ScriptParser

inductive WordPlace where
  | bare
  | quotes
  | braces (isQuoted : Bool)
  | expression (depth : Nat)
  | document

def WordPlace.isQuoted : WordPlace → Bool
  | .bare => false
  | .quotes => true
  | .braces isQuoted => isQuoted
  | .expression _ => true
  | .document => true

def startsName (c : Char) : Bool :=
  c.isAlpha || c == '_'

def isInName (c : Char) : Bool :=
  c.isAlphanum || c == '_'

def isName (text : List Char) : Bool :=
  text.head?.any startsName && text.all isInName

def isSpecialParameter (c : Char) : Bool :=
  c.isDigit || "@*#?-$!".toList.contains c

def endsWord (c : Char) : Bool :=
  " \t\n;&|()<>".toList.contains c

/-- Whether a backslash at a place takes the meaning of a character. -/
def WordPlace.escapes (place : WordPlace) (c : Char) : Bool :=
  match place with
  | .bare => true
  | .braces false => true
  | .quotes => "\\\x60$\"".toList.contains c
  | .braces true => "\\\x60$\"\x7d".toList.contains c
  | .expression _ => "\\\x60$".toList.contains c
  | .document => "\\\x60$".toList.contains c

def WordPlace.isOrdinary (place : WordPlace) (c : Char) : Bool :=
  !"\\$\x60".toList.contains c &&
    match place with
    | .bare => !endsWord c && c != '\'' && c != '"'
    | .quotes => c != '"'
    | .braces false => c != '\'' && c != '"' && c != '\x7d'
    | .braces true => c != '"' && c != '\x7d'
    | .expression _ => c != '(' && c != ')'
    | .document => true

/-- Text between backquotes: a backslash is dropped before some characters. -/
def unquoteCommand (isQuoted : Bool) : List Char → List Char
  | '\\' :: c :: rest =>
    if c == '\n' then unquoteCommand isQuoted rest
    else if "\\$\x60".toList.contains c ||
      (isQuoted && c == '"') then c :: unquoteCommand isQuoted rest
    else '\\' :: c :: unquoteCommand isQuoted rest
  | c :: rest => c :: unquoteCommand isQuoted rest
  | [] => []

def beforeBackquote : List Char → List Char × Bool
  | [] => ([], false)
  | '\x60' :: _ => ([], true)
  | '\\' :: c :: rest =>
    let (text, isClosed) := beforeBackquote rest
    ('\\' :: c :: text, isClosed)
  | c :: rest =>
    let (text, isClosed) := beforeBackquote rest
    (c :: text, isClosed)

def singleQuotedText : ScriptParser (List Char) := do
  let chars ← takeWhile (· != '\'')
  if (← get).rest.isEmpty then fail "Unterminated quoted string"
  else
    pass ['\'']
    return chars

/-- Reads the closing brace behind a parameter. In quotes, what is missing is the end of the quotes.
-/
def closingBrace (isQuoted : Bool) (part : Part) : ScriptParser Part := do
  if (← get).rest.isEmpty then fail (if isQuoted then "Unterminated quoted string"
  else "Missing '\x7d'")
  else
    pass ['\x7d']
    return part

def backquotePart (nested : NestedLists) (isQuoted : Bool) : ScriptParser Part := do
  let outer ← get
  let (text, isClosed) := beforeBackquote outer.rest
  if !isClosed then do
    pass text
    fail "EOF in backquote substitution"
  else do
    pass (text ++ ['\x60'])
    let behind ← get
    set { behind with rest := unquoteCommand isQuoted text, line := outer.line, isPushed := false, pending := [] }
    let body ← nested .lenient
    modify fun input =>
      { input with
        rest := behind.rest, line := behind.line, last := outer.last, isPushed :=
          outer.isPushed, pending := outer.pending }
    return .command isQuoted (body.getD .empty)

def commandPart (nested : NestedLists) (isQuoted : Bool) : ScriptParser Part := do
  let outer ← get
  set { outer with isPushed := false, pending := [] }
  let body ← nested .lenient
  let input ← get
  if input.last.isOperator ")" then do
    set { input with last := outer.last, pending := outer.pending, isPushed := outer.isPushed }
    return .command isQuoted (body.getD .empty)
  else unexpected (some "\")\"")

/-- The name of a parameter in braces, and whether its length is asked for. -/
def bracedName : ScriptParser (String × Bool) := do
  let rest := (← get).rest
  match rest with
  | '#' :: c :: _ =>
    if isInName c then do
      pass ['#']
      let name ← takeWhile (if c.isDigit then Char.isDigit else isInName)
      return (String.ofList name, true)
    else if isSpecialParameter c && (rest.drop 2).head? == some '\x7d' then do
      pass ['#', c]
      return (String.singleton c, true)
    else do
      pass ['#']
      return ("#", false)
  | c :: _ =>
    if startsName c then return (String.ofList (← takeWhile isInName), false)
    else if c.isDigit then return (String.ofList (← takeWhile Char.isDigit), false)
    else if isSpecialParameter c then do
      pass [c]
      return (String.singleton c, false)
    else return ("", false)
  | [] => return ("", false)

def bracedPart (isQuoted : Bool) (parts : WordPlace → ScriptParser Word) : ScriptParser Part := do
  let (name, isLength) ← bracedName
  let ifEmpty := !isLength && name != "" && (← peek) == some ':'
  if ifEmpty then pass [':']
  let unknown (taken : List Char) : ScriptParser Part := do
    pass taken
    let _ ← parts (.braces isQuoted)
    closingBrace isQuoted (.parameter isQuoted name .unknown)
  match ← peek with
  | none => closingBrace isQuoted (.parameter isQuoted name .unknown)
  | some c =>
    if c == '\x7d' then
      let operation := if isLength then .length else if ifEmpty ||
        name == "" then .unknown else .value
      closingBrace isQuoted (.parameter isQuoted name operation)
    else if isLength then unknown []
    else if name == "" then unknown [c]
    else
      match [('-', Fallback.substitute), ('=', .assign), ('?', .complain),
        ('+', .replace)].lookup c with
      | some kind => do
        pass [c]
        let word ← parts (.braces isQuoted)
        closingBrace isQuoted (.parameter isQuoted name (.fallback kind ifEmpty word))
      | none =>
        if (c == '%' || c == '#') && !ifEmpty then do
          pass [c]
          let longest := (← peek) == some c
          if longest then pass [c]
          let pattern ← parts (.braces false)
          closingBrace false (.parameter isQuoted name (.trim (c == '%') longest pattern))
        else unknown [c]

def arithmeticPart (isQuoted : Bool) (parts : WordPlace → ScriptParser Word) :
    ScriptParser Part := do
  let expression ← parts (.expression 0)
  if (← get).rest.isEmpty then fail "Missing '))'"
  else
    pass [')', ')']
    return .arithmetic isQuoted expression

def dollarPart (nested : NestedLists) (isQuoted : Bool) (parts : WordPlace → ScriptParser Word) :
    ScriptParser Part := do
  match ← peek with
  | some '(' => do
    pass ['(']
    if (← peek) == some '(' then do
      pass ['(']
      arithmeticPart isQuoted parts
    else commandPart nested isQuoted
  | some '\x7b' => do
    pass ['\x7b']
    bracedPart isQuoted parts
  | some c =>
    if startsName c then do
      let name ← takeWhile isInName
      return .parameter isQuoted (String.ofList name) .value
    else if isSpecialParameter c then do
      pass [c]
      return .parameter isQuoted (String.singleton c) .value
    else return .text isQuoted ['$']
  | none => return .text isQuoted ['$']

def wordParts (nested : NestedLists) : Nat → WordPlace → ScriptParser Word
  | 0, _ => fail "Word too long"
  | bound + 1, place => do
    let isQuoted := place.isQuoted
    let before (parts : Word) : ScriptParser Word := do
      let rest ← wordParts nested bound place
      return parts ++ rest
    match (← get).rest with
    | [] => return []
    | '\\' :: '\n' :: _ => do
      pass ['\\', '\n']
      before []
    | ['\\'] => do
      pass ['\\']
      before [.text true ['\\']]
    | '\\' :: c :: _ => do
      pass ['\\', c]
      before [.text true (if place.escapes c then [c] else ['\\', c])]
    | '$' :: _ => do
      pass ['$']
      let part ← dollarPart nested isQuoted (wordParts nested bound)
      before [part]
    | '\x60' :: _ => do
      pass ['\x60']
      let part ← backquotePart nested isQuoted
      before [part]
    | c :: others =>
      if place.isOrdinary c then do
        let chars ← takeWhile place.isOrdinary
        before [.text isQuoted chars]
      else
        match place, c with
        | .quotes, '"' => return []
        | .braces _, '\x7d' => return []
        | .expression depth, '(' => do
          pass ['(']
          let rest ← wordParts nested bound (.expression (depth + 1))
          return .text true ['('] :: rest
        | .expression (depth + 1), ')' => do
          pass [')']
          let rest ← wordParts nested bound (.expression depth)
          return .text true [')'] :: rest
        | .expression 0, ')' =>
          if others.head? == some ')' then return []
          else do
            pass [')']
            before [.text true [')']]
        | _, '\'' => do
          pass ['\'']
          let chars ← singleQuotedText
          before [.text true chars]
        | _, '"' => do
          pass ['"']
          let inner ← wordParts nested bound .quotes
          if (← get).rest.isEmpty then fail "Unterminated quoted string"
          else do
            pass ['"']
            before (if inner.length == 1 then inner else .text true [] :: inner)
        | _, _ => return []

end Spellspan.Process
