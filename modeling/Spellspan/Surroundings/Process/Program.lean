import Spellspan.Surroundings.Process.Condition
import Spellspan.Surroundings.Process.Format
import Spellspan.Surroundings.Process.Naming
import Spellspan.Surroundings.Process.Options

/-!
Programs that are found by their names.
-/
set_option autoImplicit false

namespace Spellspan.Process.Program

structure Showing where
  numbersLines : Bool := false
  skipsBlank : Bool := false
  squeezesBlank : Bool := false
  marksEnds : Bool := false
  marksTabs : Bool := false
  marksControls : Bool := false

def Showing.ofLetters (letters : List Char) : Showing where
  numbersLines := letters.contains 'n' || letters.contains 'b'
  skipsBlank := letters.contains 'b'
  squeezesBlank := letters.contains 's'
  marksEnds := letters.any fun letter => "eEA".toList.contains letter
  marksTabs := letters.any fun letter => "tTA".toList.contains letter
  marksControls := letters.any fun letter => "etvA".toList.contains letter

structure CopyState where
  line : Nat := 0
  isLineStart : Bool := true
  isBehindBlankLine : Bool := false

def lineNumber (number : Nat) : List Char :=
  let digits := (toString number).toList
  List.replicate (6 - digits.length) ' ' ++ digits ++ ['\t']

def shownSimple (showing : Showing) (code : Nat) : List Char :=
  if code == 9 && !showing.marksTabs then ['\t']
  else if code < 32 then ['^', Char.ofNat (code + 64)]
  else if code == 127 then ['^', '?']
  else [Char.ofNat code]

def shownByte (showing : Showing) (c : Char) : List Char :=
  if showing.marksControls then
    if c.toNat < 128 then shownSimple showing c.toNat
    else ['M', '-'] ++ shownSimple { showing with marksTabs := true } (c.toNat - 128)
  else if c == '\t' && showing.marksTabs then ['^', 'I']
  else [c]

/-- The bytes that are shown for those of a file, in reverse order behind others. -/
def shownBytes (showing : Showing) : CopyState → List Char → List Char → List Char × CopyState
  | state, shown, [] => (shown, state)
  | state, shown, c :: rest =>
    let isNumbered := showing.numbersLines && state.isLineStart &&
      !(c == '\n' && showing.skipsBlank)
    let number := if isNumbered then (lineNumber (state.line + 1)).reverse else []
    let line := if isNumbered then state.line + 1 else state.line
    if c == '\n' then
      if state.isLineStart && state.isBehindBlankLine &&
        showing.squeezesBlank then shownBytes showing state shown rest
      else
        let ending := if showing.marksEnds then ['\n', '$'] else ['\n']
        shownBytes showing ⟨line, true, state.isLineStart⟩ (ending ++ number ++ shown) rest
    else
      let isBeforeEnd := showing.marksEnds && !showing.marksControls && c == '\r' &&
        rest.head? == some '\n'
      let text := if isBeforeEnd then ['^', 'M'] else shownByte showing c
      shownBytes showing ⟨line, false, false⟩ (text.reverse ++ number ++ shown) rest

def shown (showing : Showing) (letters : List Char) (state : CopyState) (bytes : ByteArray) :
    ByteArray × CopyState :=
  if letters.all (· == 'u') then (bytes, state)
  else
    let (chars, state) := shownBytes showing state [] (textOfBytes bytes).toList
    (bytesOfText (String.ofList chars.reverse), state)

def copyFile (name : String) (environment : Environment) (letters : List Char)
    (progress : Outcome × CopyState) (path : String) :
    Outcome × CopyState :=
  let (outcome, state) := progress
  let isInput := ["-", "/dev/stdin", "/dev/fd/0"].contains path
  let input : Except Files.FileProblem ByteArray :=
    (environment.inputProblem.map .error).getD (.ok outcome.unread)
  match if isInput then input else environment.read path with
  | .ok content =>
    let (bytes, state) := shown (.ofLetters letters) letters state content
    ({ outcome with
        output := outcome.output ++ [⟨false, bytes⟩], unread := if isInput then .empty
          else outcome.unread }, state)
  | .error problem =>
    ({ outcome with
        status := .code 1
        output := outcome.output ++
          [⟨true, bytesOfText s!"{name}: {Naming.named path}: {problem.reason}\n"⟩] }, state)

def copyOptions (name : String) : OptionTable where
  program := name
  letters := "benstuvAET".toList
  words := [("number-nonblank", 'b'), ("number", 'n'), ("squeeze-blank", 's'),
    ("show-nonprinting", 'v'), ("show-ends", 'E'), ("show-tabs", 'T'), ("show-all", 'A')]

/-- Writes files one after the other; without files, the input. -/
def concatenate (name : String) : Program := fun environment arguments stdin =>
  (copyOptions name).run arguments stdin fun letters operands =>
    ((if operands.isEmpty then ["-"] else operands).foldl (copyFile name environment letters)
      ({ unread := stdin }, {})).1

def constant (code : Nat) : Program := fun _ _ stdin =>
  { status := .code code, unread := stdin }

def secondsIn : List (Char × Nat) :=
  [('s', 1), ('m', 60), ('h', 3600), ('d', 86400)]

/-- The exponent behind a mark, and what stands behind it. Without digits there is none. -/
def exponentOf (marks : List Char) (text : List Char) : Int × List Char :=
  match text with
  | mark :: rest =>
    let (sign, digits) : Int × List Char := match rest with
      | '-' :: digits => (-1, digits)
      | '+' :: digits => (1, digits)
      | digits => (1, digits)
    let found := digits.takeWhile Char.isDigit
    if marks.contains mark && !found.isEmpty then
      (sign * ((String.ofList found).toNat?.getD 0 : Nat), digits.drop found.length)
    else (0, text)
  | [] => (0, [])

def maxExponent : Nat := 400

def scaled (mantissa base : Nat) (exponent : Int) : Nat :=
  if mantissa = 0 then 0
  else if (maxExponent : Int) < exponent then forever
  else if exponent < -(4 * maxExponent : Int) then 0
  else if 0 ≤ exponent then min forever (mantissa * 1000 * Nat.pow base exponent.toNat)
  else mantissa * 1000 / Nat.pow base (-exponent).toNat

/-- Milliseconds from the seconds at the beginning of a text, and what stands behind them: a number
with a fraction and an exponent, in base ten or sixteen, or a word for a time without end. -/
def seconds? (text : List Char) : Option (Nat × List Char) :=
  let lower := text.map Char.toLower
  let (base, digits) := match lower with
    | '0' :: 'x' :: first :: _ =>
      if (Arithmetic.digitValue? 16 first).isSome || first == '.' then (16, text.drop 2)
      else (10, text)
    | _ => (10, text)
  let isDigit (c : Char) := (Arithmetic.digitValue? base c).isSome
  let whole := digits.takeWhile isDigit
  let (fraction, behind) := match digits.drop whole.length with
    | '.' :: rest => (rest.takeWhile isDigit, rest.dropWhile isDigit)
    | rest => ([], rest)
  if "infinity".toList.isPrefixOf lower then some (forever, text.drop 8)
  else if "inf".toList.isPrefixOf lower then some (forever, text.drop 3)
  else if whole.isEmpty && fraction.isEmpty then none
  else
    let mantissa := (whole ++ fraction).foldl
      (fun value c => value * base + (Arithmetic.digitValue? base c).getD 0) 0
    if base == 16 then
      let (exponent, rest) := exponentOf ['p', 'P'] behind
      some (scaled mantissa 2 (exponent - 4 * fraction.length), rest)
    else
      let (exponent, rest) := exponentOf ['e', 'E'] behind
      some (scaled mantissa 10 (exponent - fraction.length), rest)

def milliseconds? (text : String) : Option Nat := do
  let isBlank (c : Char) := " \t\n\x0b\x0c\r".toList.contains c
  let chars := text.toList.dropWhile isBlank
  let (isNegative, chars) := match chars with
    | '+' :: chars => (false, chars)
    | '-' :: chars => (true, chars)
    | chars => (false, chars)
  let (value, behind) ← seconds? chars
  let unit ← match behind with
    | [] => some 1
    | [letter] => secondsIn.lookup letter
    | _ => none
  if isNegative && value != 0 then none else some (value * unit)

def waitOptions (name : String) : OptionTable where
  program := name
  letters := []
  words := []

def wait (name : String) : Program := fun _ arguments stdin =>
  (waitOptions name).run arguments stdin fun _ durations =>
    let illegal := durations.filter fun duration => (milliseconds? duration).isNone
    if durations.isEmpty then (waitOptions name).misused stdin ["missing operand"]
    else if !illegal.isEmpty then
      (waitOptions name).misused stdin (illegal.map fun duration =>
        s!"invalid time interval {Naming.quoted duration}")
    else { unread := stdin, elapsed := (durations.filterMap milliseconds?).foldl Nat.add 0 }

/-- The settings that leading arguments of a line make: whether the line is left open, and whether
escapes count. -/
def lineSettings : Bool × Bool → List String → (Bool × Bool) × List String
  | settings, [] => (settings, [])
  | (isOpen, hasEscapes), word :: rest =>
    match word.toList with
    | '-' :: first :: others =>
      if (first :: others).all fun c => c == 'n' || c == 'e' || c == 'E' then
        let isOpen := isOpen || (first :: others).contains 'n'
        let hasEscapes := (first :: others).foldl (fun hasEscapes c =>
          if c == 'e' then true else if c == 'E' then false else hasEscapes) hasEscapes
        lineSettings (isOpen, hasEscapes) rest
      else ((isOpen, hasEscapes), word :: rest)
    | _ => ((isOpen, hasEscapes), word :: rest)

def echo : Program := fun _ arguments stdin =>
  let ((isOpen, hasEscapes), words) := lineSettings (false, false) arguments
  let text := " ".intercalate words
  let (text, isCut) :=
    if hasEscapes then
      let (chars, isCut) := Format.unescape (text.length + 1) text.toList
      (String.ofList chars, isCut)
    else (text, false)
  .printing stdin (text ++ if isOpen || isCut then "" else "\n")

def print : Program := fun _ arguments stdin =>
  match arguments with
  | [] => .failure stdin "printf: missing operand\nTry 'printf --help' for more information."
  | format :: values =>
    let printed := Format.print format values
    let complaints := printed.complaints.map fun complaint =>
      Chunk.mk true (bytesOfText s!"printf: {complaint}\n")
    { status := .code (if printed.complaints.isEmpty then 0 else 1)
      output := complaints ++ [⟨false, bytesOfText (String.ofList printed.text.reverse)⟩]
      unread := stdin }

def check (name : String) : Program := fun environment arguments stdin =>
  match Condition.evaluate environment false arguments with
  | .ok holds => { status := .code (if holds then 0 else 1), unread := stdin }
  | .error complaint => .failure stdin s!"{name}: {complaint}" 2

def checkBracketed (name : String) : Program := fun environment arguments stdin =>
  if arguments.getLast? == some "]" then check name environment arguments.dropLast stdin
  else .failure stdin s!"{name}: missing ']'" 2

/-- The bytes that a set of characters stands for, with ranges written out. -/
def membersOf : List Char → List Char
  | first :: '-' :: last :: rest =>
    (List.range (last.toNat + 1 - first.toNat)).map (fun step => Char.ofNat (first.toNat + step)) ++
      membersOf rest
  | c :: rest => c :: membersOf rest
  | [] => []

def setOf (text : String) : List Char :=
  membersOf (Format.unescape (text.length + 1) text.toList).1

/-- Copies the input with some bytes replaced by others, or left out. -/
def exchange : Program := fun _ arguments stdin =>
  let copied (change : Char → Option Char) : Outcome :=
    .printing .empty (String.ofList ((textOfBytes stdin).toList.filterMap change))
  match arguments with
  | ["-d", set] => copied fun c => if (setOf set).contains c then none else some c
  | [set, others] =>
    let replacements := setOf others
    let pairs := (setOf set).zipIdx.map fun (c, index) =>
      (c, replacements.getD index (replacements.getLastD c))
    copied fun c => some ((pairs.lookup c).getD c)
  | _ => .failure stdin "tr: missing operand\nTry 'tr --help' for more information."

def count : Program := fun _ arguments stdin =>
  match arguments with
  | ["-c"] => .printing .empty s!"{stdin.size}\n"
  | ["-l"] => .printing .empty s!"{stdin.toList.count 10}\n"
  | _ => .failure stdin "wc: invalid option"

def firstLines (number : Nat) (bytes : ByteArray) : ByteArray :=
  let rec take : Nat → List UInt8 → List UInt8
    | 0, _ => []
    | _ + 1, [] => []
    | number + 1, byte :: rest => if byte == 10 then byte :: take number rest
        else byte :: take (number + 1) rest
  ⟨(take number bytes.toList).toArray⟩

def beginning : Program := fun _ arguments stdin =>
  let copied (bytes : ByteArray) : Outcome := { output := [⟨false, bytes⟩] }
  match arguments with
  | [] => copied (firstLines 10 stdin)
  | ["-c", number] => copied (stdin.extract 0 (number.toNat?.getD 0))
  | ["-n", number] => copied (firstLines (number.toNat?.getD 0) stdin)
  | [option] =>
    match (String.ofList (option.toList.drop 1)).toNat? with
    | some number => copied (firstLines number stdin)
    | none => .failure stdin "head: invalid option"
  | _ => .failure stdin "head: invalid option"

/-- The name at the end of a path, for the paths at which programs are found. -/
def nameAt? (path : String) : Option String :=
  if !path.toList.contains '/' then some path
  else
    ["/bin/", "/usr/bin/"].findSome? fun directory =>
      let name := path.toList.drop directory.length
      if directory.toList.isPrefixOf path.toList &&
        !name.contains '/' then some (String.ofList name) else none

def named? (path : String) : Option Program :=
  match (nameAt? path).getD "" with
  | "cat" => some (concatenate path)
  | "true" => some (constant 0)
  | "false" => some (constant 1)
  | "sleep" => some (wait path)
  | "echo" => some echo
  | "printf" => some print
  | "test" => some (check path)
  | "[" => some (checkBracketed path)
  | "tr" => some exchange
  | "wc" => some count
  | "head" => some beginning
  | _ => none

end Spellspan.Process.Program
