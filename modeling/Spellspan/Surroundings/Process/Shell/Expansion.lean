import Spellspan.Surroundings.Process.Arithmetic
import Spellspan.Surroundings.Process.Pattern
import Spellspan.Surroundings.Process.Script.Words
import Spellspan.Surroundings.Process.Shell.State

/-!
Words become texts: parameters, commands and expressions are replaced by their values, unquoted
values are split into fields, and fields that are patterns are replaced by the files that they
match.
-/
set_option autoImplicit false

namespace Spellspan.Process

inductive Piece where
  /-- A character. Outside of quotes it may be part of a pattern; as part of a value it may also
  separate fields. -/
  | char (c : Char) (isQuoted isValue : Bool)
  | boundary
  | anchor

abbrev Capture := Command → Shell → Shell × ByteArray

inductive ParameterValue where
  | unset
  | text (value : String)
  /-- All arguments; in quotes they may be joined. -/
  | list (values : List String) (isJoined : Bool)

namespace Expansion

def valuePieces (isQuoted : Bool) (text : String) : List Piece :=
  text.toList.map fun c => .char c isQuoted (!isQuoted)

def parameterValue (shell : Shell) (name : String) : ParameterValue :=
  match name with
  | "@" => .list shell.parameters false
  | "*" => .list shell.parameters true
  | "#" => .text (toString shell.parameters.length)
  | "?" => .text (toString shell.status)
  | "$" => .text (toString Shell.ownProcess)
  | "-" => .text (String.ofList ("pubaCEVvxsnmiIfe".toList.filter shell.has))
  | "!" => match shell.jobs with
    | job :: _ => .text (toString job.process)
    | [] => .unset
  | "0" => .text shell.name
  | "PPID" => .text (toString (Shell.ownProcess - 1))
  | name =>
    match name.toNat? with
    | some position =>
      match shell.parameters[position - 1]? with
      | some value => .text value
      | none => .unset
    | none =>
      match shell.value? name with
      | some value => .text value
      | none => .unset

def joined (shell : Shell) (values : List String) (isJoined : Bool) : String :=
  let separator := if isJoined then String.ofList (shell.separators.take 1) else " "
  separator.intercalate values

def piecesOf (shell : Shell) (isQuoted : Bool) : ParameterValue → List Piece
  | .unset => if isQuoted then [.anchor] else []
  | .text value => if isQuoted then .anchor :: valuePieces true value else valuePieces false value
  | .list values isJoined =>
    if isQuoted && isJoined then .anchor :: valuePieces true (joined shell values true)
    else
      let each (value : String) : List Piece :=
        if isQuoted then .anchor :: valuePieces true value else valuePieces false value
      (values.map each).intersperse [.boundary] |>.flatten

def textOf (shell : Shell) : ParameterValue → String
  | .unset => ""
  | .text value => value
  | .list values isJoined => joined shell values isJoined

def isSet (ifEmpty : Bool) : ParameterValue → Bool
  | .unset => false
  | .text value => !(ifEmpty && value == "")
  | .list values _ => !values.isEmpty && !(ifEmpty && values.all (· == ""))

def plainText (pieces : List Piece) : String :=
  String.ofList (pieces.filterMap fun piece =>
    match piece with
    | .char c _ _ => some c
    | .boundary => some ' '
    | .anchor => none)

def patternOf (pieces : List Piece) : List PatternItem :=
  Pattern.ofMarked (pieces.filterMap fun piece =>
    match piece with
    | .char c isQuoted _ => some (c, isQuoted)
    | _ => none)

/-- What a command writes, as a text: without line breaks at its end, and without zero bytes. -/
def capturedText (bytes : ByteArray) : String :=
  let chars := (textOfBytes bytes).toList.filter (· != '\x00')
  String.ofList (chars.reverse.dropWhile (· == '\n')).reverse

def arithmeticComplaint (expression : String) : ArithmeticError → String
  | .malformed expected => s!"arithmetic expression: expecting {expected}: \"{expression}\""
  | .divisionByZero => s!"arithmetic expression: division by zero: \"{expression}\""
  | .illegalNumber text => s!"Illegal number: {text}"

def arithmeticValue (shell : Shell) (expression : String) : String × Shell :=
  match Arithmetic.evaluate shell.value? expression with
  | .ok (value, assigned) =>
    (toString value, assigned.foldl
      (fun shell (name, value) => shell.assign name (toString value)) shell)
  | .error error => ("", shell.fail (arithmeticComplaint expression error))

mutual

/-- The pieces of the parts of a word. Text outside of quotes counts as a value inside of one. -/
def expandParts (capture : Capture) (isValue : Bool) : List Part → Shell → List Piece × Shell
  | [], shell => ([], shell)
  | part :: rest, shell =>
    let (pieces, shell) := expandPart capture isValue part shell
    if shell.goesOn then
      let (others, shell) := expandParts capture isValue rest shell
      (pieces ++ others, shell)
    else (pieces, shell)

def expandPart (capture : Capture) (isValue : Bool) : Part → Shell → List Piece × Shell
  | .text true [], shell => ([.anchor], shell)
  | .text isQuoted chars, shell =>
      (chars.map fun c => .char c isQuoted (isValue && !isQuoted), shell)
  | .parameter isQuoted name operation, shell =>
      expandOperation capture isQuoted name operation shell
  | .command isQuoted body, shell =>
    let (shell, bytes) := capture body shell
    (piecesOf shell isQuoted (.text (capturedText bytes)), shell)
  | .arithmetic isQuoted expression, shell =>
    let (pieces, shell) := expandParts capture false expression shell
    if shell.goesOn then
      let (value, shell) := arithmeticValue shell (plainText pieces)
      (piecesOf shell isQuoted (.text value), shell)
    else ([], shell)

def expandOperation (capture : Capture) (isQuoted : Bool) (name : String) :
    Operation → Shell → List Piece × Shell
  | .unknown, shell => ([], shell.fail "Bad substitution")
  | .value, shell =>
    let value := parameterValue shell name
    if shell.has 'u' && !isSet false value && name != "@" && name != "*" then
      ([], shell.fail s!"{name}: parameter not set")
    else (piecesOf shell isQuoted value, shell)
  | .length, shell =>
    let value := parameterValue shell name
    if shell.has 'u' && !isSet false value && name != "@" && name != "*" then
      ([], shell.fail s!"{name}: parameter not set")
    else
      (piecesOf shell isQuoted (.text (toString (textOf shell value).length)), shell)
  | .fallback kind ifEmpty word, shell =>
    let value := parameterValue shell name
    let hasValue := isSet ifEmpty value
    match kind, hasValue with
    | .replace, true => expandParts capture (!isQuoted) word shell
    | .replace, false => (if isQuoted then [.anchor] else [], shell)
    | _, true => (piecesOf shell isQuoted value, shell)
    | .substitute, false =>
      let (pieces, shell) := expandParts capture (!isQuoted) word shell
      (if isQuoted then .anchor :: pieces else pieces, shell)
    | .assign, false =>
      let (pieces, shell) := expandParts capture false word shell
      let text := plainText pieces
      if isName name.toList then
        let shell := shell.assign name text
        (piecesOf shell isQuoted (.text text), shell)
      else ([], shell.fail s!"{name}: bad variable name")
    | .complain, false =>
      let (pieces, shell) := expandParts capture false word shell
      let text := plainText pieces
      let complaint := if word.isEmpty then (if ifEmpty then "parameter not set or null"
        else "parameter not set") else text
      ([], if shell.goesOn then shell.fail s!"{name}: {complaint}" else shell)
  | .trim atEnd longest pattern, shell =>
    let (pieces, shell) := expandParts capture false pattern shell
    let value := textOf shell (parameterValue shell name)
    let trimmed := Pattern.trimmed atEnd longest (patternOf pieces) value.toList
    (piecesOf shell isQuoted (.text (String.ofList trimmed)), shell)

end

/-- The directory of a user without a name, at the beginning of a word or behind a mark in a value.
-/
def expandHome (shell : Shell) (word : Word) : Word :=
  match word with
  | .text false ('~' :: rest) :: others =>
    if rest.isEmpty && others.isEmpty || rest.head? == some '/' then
      match shell.value? "HOME" with
      | some home => .text true home.toList :: .text false rest :: others
      | none => word
    else word
  | word => word

structure Splitting where
  fields : List (List Pattern.Marked) := []
  field : List Pattern.Marked := []
  isStarted : Bool := false
  isBehindBlank : Bool := false

def Splitting.endField (splitting : Splitting) : Splitting :=
  { fields := splitting.field.reverse :: splitting.fields }

/-- Takes the next piece into account. A blank ends a field, another separator stands between two.
-/
def Splitting.step (separators : List Char) (splitting : Splitting) : Piece → Splitting
  | .anchor => { splitting with isStarted := true, isBehindBlank := false }
  | .boundary => if splitting.isStarted then splitting.endField
      else { splitting with isBehindBlank := false }
  | .char c isQuoted isValue =>
    if isValue && separators.contains c then
      if c == ' ' || c == '\t' || c == '\n' then
        if splitting.isStarted then { splitting.endField with isBehindBlank := true } else splitting
      else if splitting.isBehindBlank then { splitting with isBehindBlank := false }
      else splitting.endField
    else { splitting with field := (c, isQuoted) :: splitting.field, isStarted := true, isBehindBlank := false }

def fieldsOf (separators : List Char) (pieces : List Piece) : List (List Pattern.Marked) :=
  let splitting := pieces.foldl (Splitting.step separators) {}
  (if splitting.isStarted then splitting.endField else splitting).fields.reverse

def components : List Pattern.Marked → List (List Pattern.Marked)
  | [] => [[]]
  | (c, isQuoted) :: rest =>
    match components rest with
    | first :: others => if c == '/' then [] :: first :: others
        else ((c, isQuoted) :: first) :: others
    | [] => [[(c, isQuoted)]]

/-- Whether a name is hidden from patterns that do not begin with a dot. -/
def isHiddenFrom (pattern : List PatternItem) (name : List Char) : Bool :=
  name.head? == some '.' && pattern.head? != some (.literal '.')

/-- The paths that match the components of a pattern, below a directory. -/
def matchingPaths (system : Files.FileSystem) :
    Files.Place → String → List (List Pattern.Marked) → List String
  | _, _, [] => []
  | place, before, component :: rest =>
    let text := String.ofList (component.map Prod.fst)
    let pattern := Pattern.ofMarked component
    let next := before ++ text ++ "/"
    if rest.isEmpty then
      if Pattern.isWild pattern then
        (system.namesAt place).filterMap fun name =>
          let name := byteText name
          if Pattern.isMatch pattern name.toList && !isHiddenFrom pattern name.toList then
            some (before ++ name) else none
      else if text == "" then if system.isDirectoryAt place then [before] else []
      else if (system.resolveFrom place (nameOfText text)).isOk then [before ++ text]
      else []
    else if Pattern.isWild pattern then
      let names := (system.namesAt place).filter fun name =>
        let bytes := (byteText name).toList
        Pattern.isMatch pattern bytes && !isHiddenFrom pattern bytes &&
          system.isDirectoryAt (place ++ [name])
      names.flatMap fun name =>
        matchingPaths system (place ++ [name]) (before ++ byteText name ++ "/") rest
    else
      match system.resolveFrom place (if text == "" then "." else nameOfText text) with
      | .ok found => if system.isDirectoryAt found then matchingPaths system found next rest else []
      | .error _ => []

/-- The texts that a field stands for: the paths that it matches, or the field itself. -/
def textsOfField (shell : Shell) (field : List Pattern.Marked) : List String :=
  let text := String.ofList (field.map Prod.fst)
  let isPattern := field.any fun marked => !marked.2 && "*?[".toList.contains marked.1
  if isPattern && !shell.has 'f' && text.toList.head? != some '/' then
    match matchingPaths shell.files shell.directory "" (components field) with
    | [] => [text]
    | paths => paths.mergeSort fun a b => a ≤ b
  else [text]

def expandWord (capture : Capture) (word : Word) (shell : Shell) : List String × Shell :=
  let (pieces, shell) := expandParts capture false (expandHome shell word) shell
  ((fieldsOf shell.separators pieces).flatMap (textsOfField shell), shell)

def expandWords (capture : Capture) : List Word → Shell → List String × Shell
  | [], shell => ([], shell)
  | word :: rest, shell =>
    let (texts, shell) := expandWord capture word shell
    if shell.goesOn then
      let (others, shell) := expandWords capture rest shell
      (texts ++ others, shell)
    else (texts, shell)

def expandText (capture : Capture) (word : Word) (shell : Shell) : String × Shell :=
  let (pieces, shell) := expandParts capture false (expandHome shell word) shell
  (plainText pieces, shell)

def expandPattern (capture : Capture) (word : Word) (shell : Shell) : List PatternItem × Shell :=
  let (pieces, shell) := expandParts capture false (expandHome shell word) shell
  (patternOf pieces, shell)

end Expansion
end Spellspan.Process
