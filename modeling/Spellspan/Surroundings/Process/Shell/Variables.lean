import Spellspan.Surroundings.Process.Shell.Builtin

/-!
Builtins that change the variables, the arguments and the settings of a script.
-/
set_option autoImplicit false

namespace Spellspan.Process.Builtin

open ShellAction

/-- The name and the value in an argument that gives a variable a value. -/
def definition (argument : String) : String × Option String :=
  let chars := argument.toList
  let name := chars.takeWhile (· != '=')
  (String.ofList name, if name.length < chars.length then
    some (String.ofList (chars.drop (name.length + 1))) else none)

/-- The name of a variable at the beginning of an argument, before an equals sign if there is one.
-/
def nameIn (argument : String) : ShellAction String := do
  let (name, _) := definition argument
  if isName name.toList then return name else throw s!"{name}: bad variable name"

def assign (argument value : String) : ShellAction Unit := do
  let name ← nameIn argument
  match (← get).assign? name value with
  | some shell => set shell
  | none => throw s!"{name}: is read only"

/-- The variables in the order of their names, each in a line behind a word. -/
def listing (word : String) (entries : List (String × Variable)) : String :=
  let sorted := entries.mergeSort fun a b => a.1 ≤ b.1
  String.join (sorted.map fun (name, entry) =>
    match entry.value with
    | some value => s!"{word}{name}={singleQuoted value}\n"
    | none => if word == "" then "" else s!"{word}{name}\n")

/-- Marks variables, which may be given values. Without arguments, those that are marked are listed.
-/
def marking (word : String) (mark : Variable → Variable) (isMarked : Variable → Bool) :
    Builtin := fun arguments => do
  let (letters, operands) ← options "p" arguments
  if operands.isEmpty || letters.contains 'p' then
    printed word (listing (word ++ " ") ((← get).bindings.filter fun entry => isMarked entry.2))
  else
    for operand in operands do
      let (name, value) := definition operand
      if let some value := value then assign name value
      let name ← nameIn name
      modify fun shell => shell.putVariable name (some (mark ((shell.variableNamed? name).getD {})))
    return 0

def exportNames : Builtin :=
  marking "export" (fun entry => { entry with isExported := true }) Variable.isExported

def protectNames : Builtin :=
  marking "readonly" (fun entry => { entry with isReadOnly := true }) Variable.isReadOnly

def unsetNames : Builtin := fun arguments => do
  let (letters, operands) ← options "fv" arguments
  for name in operands do
    if letters.contains 'f' then
      modify fun shell =>
        { shell with functions := shell.functions.filter fun entry => entry.1 != name }
    else
      let name ← nameIn name
      if ((← get).variableNamed? name).any Variable.isReadOnly then throw s!"{name}: is read only"
      modify fun shell => shell.putVariable name none
  return 0

def localNames : Builtin := fun arguments => do
  if (← get).functionDepth == 0 then throw "not in a function"
  for argument in arguments do
    let (name, value) := definition argument
    modify fun shell =>
      match shell.hidden with
      | innermost :: others =>
        if (innermost.lookup name).isSome then shell
        else { shell with hidden := ((name, shell.variableNamed? name) :: innermost) :: others }
      | [] => shell
    if let some value := value then assign name value
  return 0

/-- The settings by their names, in the order in which they are listed. -/
def settingNames : List (String × Char) := [
  ("errexit", 'e'), ("noglob", 'f'), ("ignoreeof", 'I'), ("interactive", 'i'), ("monitor", 'm'),
    ("noexec", 'n'), ("stdin", 's'),
  ("xtrace", 'x'), ("verbose", 'v'), ("vi", 'V'), ("emacs", 'E'), ("noclobber", 'C'),
    ("allexport", 'a'), ("notify", 'b'),
  ("nounset", 'u'), ("privileged", 'p'), ("nolog", '1'), ("debug", '2')]

/-- The settings, as a table or as commands that make them. At the start of a shell all of them
count as made. -/
def settingsListing (shell : Shell) (isStart asCommands : Bool) : String :=
  let line (name : String) (letter : Char) : String :=
    let isOn := isStart || shell.has letter
    if asCommands then (if isOn then "set -o " else "set +o ") ++ name ++ "\n"
    else name ++ String.ofList (List.replicate (16 - name.length) ' ') ++
      (if isOn then "on\n" else "off\n")
  let title := if asCommands then "" else "Current option settings\n"
  title ++ String.join (settingNames.map fun (name, letter) => line name letter)

structure Requests where
  isCommand : Bool := false
  hasOperands : Bool := false

/-- Takes the letters of an option. The next argument may be the name of a setting. -/
def takeLetters (isStart isOn : Bool) : List Char → List String → Requests →
    ShellAction (List String × Requests)
  | [], rest, requests => return (rest, requests)
  | letter :: letters, rest, requests => do
    if isStart && letter == 'c' then takeLetters isStart isOn letters rest { requests with isCommand := true }
    else if isStart && letter == 'l' then takeLetters isStart isOn letters rest requests
    else if letter == 'o' then
      match rest with
      | [] =>
        ShellAction.print (settingsListing (← get) isStart (!isOn))
        takeLetters isStart isOn letters [] requests
      | name :: rest =>
        match settingNames.lookup name with
        | some letter =>
          modify fun shell => shell.setOption letter isOn
          takeLetters isStart isOn letters rest requests
        | none => throw ((if isOn then "Illegal option -o " else "Illegal option +o ") ++ name)
    else if settingNames.any fun entry => entry.2 == letter && letter.isAlpha then
      modify fun shell => shell.setOption letter isOn
      takeLetters isStart isOn letters rest requests
    else throw s!"Illegal option -{letter}"

/-- Takes the options of a shell, at its start or later, at most so many. -/
def takeOptions (isStart : Bool) : Nat → List String → Requests →
    ShellAction (List String × Requests)
  | 0, arguments, requests => return (arguments, requests)
  | _ + 1, [], requests => return ([], requests)
  | bound + 1, argument :: rest, requests => do
    match argument.toList with
    | ['-'] =>
      if !isStart then modify fun shell => (shell.setOption 'x' false).setOption 'v' false
      return (rest, requests)
    | ['-', '-'] => return (rest, { requests with hasOperands := true })
    | '-' :: letters =>
      let (rest, requests) ← takeLetters isStart true letters rest requests
      takeOptions isStart bound rest requests
    | '+' :: letters =>
      let (rest, requests) ← takeLetters isStart false letters rest requests
      takeOptions isStart bound rest requests
    | _ => return (argument :: rest, requests)

/-- Changes the settings and the arguments of the script. Without arguments, the variables are
listed. -/
def changeSettings : Builtin := fun arguments => do
  if arguments.isEmpty then printed "set" (listing "" (← get).bindings)
  else
    let (operands, requests) ← takeOptions false arguments.length arguments {}
    if requests.hasOperands || !operands.isEmpty then
      modify fun shell => { shell with parameters := operands, optionPlace := (1, none) }
    return 0

def shiftArguments : Builtin := fun arguments => do
  let count ← match arguments with
    | [] => pure 1
    | text :: _ => number text
  if (← get).parameters.length < count then throw "can't shift that many"
  modify fun shell =>
    { shell with parameters := shell.parameters.drop count, optionPlace := (1, none) }
  return 0

/-- A line of the input: its characters, those that an escape protects being marked, whether it is
ended by a line break, and what is left. -/
def lineOf (isRaw : Bool) : List Char → List (Char × Bool) × Bool × List Char
  | [] => ([], false, [])
  | '\n' :: rest => ([], true, rest)
  | '\x00' :: rest => lineOf isRaw rest
  | '\\' :: rest =>
    if isRaw then
      let (line, isEnded, behind) := lineOf isRaw rest
      (('\\', false) :: line, isEnded, behind)
    else
      match rest with
      | [] => ([], false, [])
      | '\n' :: rest => lineOf isRaw rest
      | c :: rest =>
        let (line, isEnded, behind) := lineOf isRaw rest
        ((c, true) :: line, isEnded, behind)
  | c :: rest =>
    let (line, isEnded, behind) := lineOf isRaw rest
    ((c, false) :: line, isEnded, behind)

/-- Fields of a line, at most so many. The last takes all that is left, but for blanks at its end
and for a separator that only ends it. -/
def lineFields (separators : List Char) : Nat → List (Char × Bool) → List String
  | 0, _ => []
  | count + 1, line =>
    let isSeparator (marked : Char × Bool) := !marked.2 && separators.contains marked.1
    let isBlank (marked : Char × Bool) := isSeparator marked && " \t\n".toList.contains marked.1
    let line := line.dropWhile isBlank
    let field := line.takeWhile fun marked => !isSeparator marked
    let behind := (line.drop field.length).dropWhile isBlank
    let behind := match behind with
      | next :: others => if isSeparator next then others.dropWhile isBlank else behind
      | [] => []
    let textOf (chars : List (Char × Bool)) := String.ofList (chars.map Prod.fst)
    if count == 0 && !behind.isEmpty then [textOf (line.reverse.dropWhile isBlank).reverse]
    else textOf field :: lineFields separators count behind

def readLine : Builtin := fun arguments => do
  let (letters, operands) ← options "rp" arguments
  let names := if letters.contains 'p' then operands.drop 1 else operands
  if names.isEmpty then throw "arg count"
  let shell ← get
  match shell.readable? 0 with
  | none =>
    for name in names do assign name ""
    return 1
  | some bytes =>
    let (line, isEnded, behind) := lineOf (letters.contains 'r') (textOfBytes bytes).toList
    MonadStateOf.set (shell.leaveUnread 0 (bytesOfText (String.ofList behind)))
    let fields := lineFields shell.separators names.length line
    for (name, index) in names.zipIdx do assign name (fields.getD index "")
    return if isEnded then 0 else 1

/-- Finds the next option among arguments, from an argument and a place in the one before it on.
What was found, the value that belongs to it, and where to go on. -/
def nextOption (arguments : List String) (place : Nat × Option Nat) :
    Option (Char × List Char) × (Nat × Option Nat) :=
  let (index, offset) := place
  let open? (text : List Char) := if text.isEmpty then none else some text
  match offset.bind fun offset => open? (((arguments[index - 2]?).getD "").toList.drop offset) with
  | some (letter :: rest) => (some (letter, rest), place)
  | _ =>
    match (arguments[index - 1]?).map String.toList with
    | some ('-' :: letter :: rest) =>
      if letter == '-' && rest.isEmpty then (none, (index + 1, none))
      else (some (letter, rest), (index + 1, some 1))
    | _ => (none, (index, none))

/-- Whether a letter is a known option, and whether a value belongs to it. -/
def optionKind? (letter : Char) : List Char → Option Bool
  | [] => none
  | first :: ':' :: rest => if first == letter then some true else optionKind? letter rest
  | first :: rest => if first == letter then some false else optionKind? letter rest

def takeOption : Builtin := fun arguments => do
  match arguments with
  | letters :: name :: operands =>
    let shell ← get
    let operands := if operands.isEmpty then shell.parameters else operands
    let index := ((shell.value? "OPTIND").bind fun text => text.toNat?).getD 1
    let place := if index == shell.optionPlace.1 then shell.optionPlace else (max index 1, none)
    let (found, (index, offset)) := nextOption operands place
    let finish (letter : Char) (index : Nat) (offset : Option Nat) (status : Nat) :
      ShellAction Nat := do
      assign "OPTIND" (toString index)
      assign name (String.singleton letter)
      modify fun shell => { shell with optionPlace := (index, offset) }
      return status
    let isQuiet := letters.toList.head? == some ':'
    let complain (letter : Char) (text : String) : ShellAction Unit :=
      if isQuiet then assign "OPTARG" (String.singleton letter)
      else modify fun shell => (shell.print (text ++ "\n") 2).putVariable "OPTARG" none
    match found with
    | none => finish '?' index none 1
    | some (letter, rest) =>
      let used := (offset.getD 0) + 1
      match if letter == ':' then none else optionKind? letter letters.toList with
      | none =>
        complain letter s!"Illegal option -{letter}"
        finish '?' index (some used) 0
      | some false =>
        assign "OPTARG" ""
        finish letter index (some used) 0
      | some true =>
        match rest, operands[index - 1]? with
        | _ :: _, _ =>
          assign "OPTARG" (String.ofList rest)
          finish letter index none 0
        | [], some value =>
          assign "OPTARG" value
          finish letter (index + 1) none 0
        | [], none =>
          complain letter s!"No arg for -{letter} option"
          finish (if isQuiet then ':' else '?') index none 0
  | _ => throw "Usage: getopts optstring var [arg]"

end Spellspan.Process.Builtin
