import Spellspan.Surroundings.Process.Outcome

/-!
Conditions on texts, numbers and files, as the arguments of a command.
-/
set_option autoImplicit false

namespace Spellspan.Process.Condition

inductive Role where
  | unary
  | binary
  | negation
  | conjunction
  | disjunction
  | opening
  | closing
  deriving DecidableEq

def unaryOperators : List String := [
  "-r", "-w", "-x", "-e", "-f", "-d", "-c", "-b", "-p", "-u", "-g", "-k", "-s", "-t", "-z", "-n",
    "-h", "-O", "-G", "-L", "-S"]

def binaryOperators : List String :=
  ["=", "!=", "<", ">", "-eq", "-ne", "-ge", "-gt", "-le", "-lt", "-nt", "-ot", "-ef"]

def role? (text : String) : Option Role :=
  if unaryOperators.contains text then some .unary
  else if binaryOperators.contains text then some .binary
  else match text with
    | "!" => some .negation
    | "-a" => some .conjunction
    | "-o" => some .disjunction
    | "(" => some .opening
    | ")" => some .closing
    | _ => none

/-- The meaning of the first of some arguments. An operator before an operand is none when there is
no operand, or when what follows is an operator between two; an opening bracket is none when nothing
follows. -/
def roleAt? : List String → Option Role
  | [] => none
  | text :: rest =>
    match role? text, rest with
    | some .unary, [] => none
    | some .unary, [_] => some .unary
    | some .unary, next :: _ => if role? next = some .binary then none else some .unary
    | some .opening, [] => none
    | role, _ => role

def number? (text : String) : Option Int :=
  let isBlank (c : Char) := " \t\n\x0b\x0c\r".toList.contains c
  let chars := text.toList.dropWhile isBlank
  let (isNegative, digits) := match chars with
    | '-' :: digits => (true, digits)
    | '+' :: digits => (false, digits)
    | digits => (false, digits)
  let found := digits.takeWhile Char.isDigit
  if found.isEmpty || !(digits.dropWhile Char.isDigit).all isBlank then none
  else
    let value := (found.foldl (fun value c => value * 10 + (c.toNat - '0'.toNat)) 0 : Nat)
    if UInt64.size / 2 ≤ value then none else some (if isNegative then -(value : Int) else value)

abbrev Verdict := Except String

def numberOf (text : String) : Verdict Int :=
  match number? text with
  | some value => .ok value
  | none => .error s!"Illegal number: {text}"

/-- Whether a file is of some kind. Every file can be read and written, and none can be run. -/
def holdsOfFile (environment : Environment) (operator path : String) : Bool :=
  let device := ["/dev/null", "/dev/stdin", "/dev/stdout", "/dev/stderr"].contains path
  match environment.system.resolveFrom environment.directory (nameOfText path) with
  | .error _ => device && ["-e", "-r", "-w", "-c"].contains operator
  | .ok place =>
    let content := environment.system.fileAt? place
    let isDirectory := environment.system.isDirectoryAt place
    match operator with
    | "-f" => content.isSome
    | "-d" => isDirectory
    | "-x" => isDirectory
    | "-s" => isDirectory || content.any fun content => content.bytes.size != 0
    | "-e" => true
    | "-r" => true
    | "-w" => true
    | "-O" => true
    | "-G" => true
    | _ => false

def holdsUnary (environment : Environment) (operator operand : String) : Verdict Bool :=
  match operator with
  | "-z" => .ok (operand == "")
  | "-n" => .ok (operand != "")
  | "-t" => (numberOf operand).map fun _ => false
  | operator => .ok (holdsOfFile environment operator operand)

def holdsBinary (environment : Environment) (left operator right : String) : Verdict Bool :=
  let compared (holds : Int → Int → Bool) : Verdict Bool := do
    let left ← numberOf left
    let right ← numberOf right
    return holds left right
  match operator with
  | "=" => .ok (left == right)
  | "!=" => .ok (left != right)
  | "<" => .ok (left < right)
  | ">" => .ok (right < left)
  | "-eq" => compared (· == ·)
  | "-ne" => compared (· != ·)
  | "-ge" => compared fun a b => b ≤ a
  | "-gt" => compared fun a b => b < a
  | "-le" => compared fun a b => a ≤ b
  | "-lt" => compared fun a b => a < b
  | "-ef" =>
    let place (path : String) :=
      (environment.system.resolveFrom environment.directory (nameOfText path)).toOption
    .ok ((place left).isSome && place left == place right)
  | _ => .ok false

def complaint (operator text : String) : String :=
  if operator == "" then text else s!"{operator}: {text}"

/-- Whether the condition at the beginning of some arguments holds, and the arguments from its last
one on. -/
abbrev Evaluation := List String → Verdict (Bool × List String)

/-- Evaluates a simple condition: a text, or one with an operator. -/
def primary (environment : Environment) (inner : Option Role → Evaluation) (role : Option Role) :
    Evaluation := fun arguments =>
  match role, arguments with
  | _, [] => .ok (false, [])
  | some .opening, _ :: rest =>
    if roleAt? rest = some .closing then .ok (false, rest)
    else do
      let (holds, behind) ← inner (roleAt? rest) rest
      match behind.tail with
      | ")" :: _ => .ok (holds, behind.tail)
      | _ => .error "closing paren expected"
  | some .unary, operator :: rest =>
    match rest with
    | [] => .error (complaint operator "argument expected")
    | operand :: _ => (holdsUnary environment operator operand).map fun holds => (holds, rest)
  | _, left :: rest =>
    match rest, roleAt? rest with
    | operator :: behind, some .binary =>
      match behind with
      | [] => .error (complaint operator "argument expected")
      | right :: _ => (holdsBinary environment left operator right).map fun holds => (holds, behind)
    | _, _ => .ok (left != "", left :: rest)

def negation (environment : Environment) (inner : Option Role → Evaluation) :
    Nat → Option Role → Evaluation
  | 0, _, arguments => .ok (false, arguments)
  | bound + 1, role, arguments =>
    if role = some .negation then
      let rest := arguments.tail
      let next := if rest.isEmpty then arguments else rest
      (negation environment inner bound (roleAt? rest) (if rest.isEmpty then [] else rest)).map
        fun (holds, behind) =>
        (!holds, if rest.isEmpty then next else behind)
    else primary environment inner role arguments

def conjunction (environment : Environment) (inner : Option Role → Evaluation) :
    Nat → Bool → Option Role → Evaluation
  | 0, holds, _, arguments => .ok (holds, arguments)
  | bound + 1, before, role, arguments => do
    let (holds, behind) ← negation environment inner (arguments.length + 1) role arguments
    if roleAt? behind.tail = some .conjunction then
      let rest := behind.tail.tail
      conjunction environment inner bound (before && holds) (roleAt? rest) rest
    else .ok (before && holds, behind)

def disjunction (environment : Environment) : Nat → Option Role → Evaluation
  | 0, _, arguments => .ok (false, arguments)
  | bound + 1, role, arguments => do
    let (holds, behind) ← conjunction environment (disjunction environment bound)
      (arguments.length + 1) true role arguments
    if roleAt? behind.tail = some .disjunction then
      let rest := behind.tail.tail
      let (others, behind) ← disjunction environment bound (roleAt? rest) rest
      .ok (holds || others, behind)
    else .ok (holds, behind)

/-- Evaluates all arguments with a meaning for the first of them. -/
def whole (environment : Environment) (role : Option Role) (arguments : List String) :
    Verdict Bool := do
  let (holds, behind) ← disjunction environment (arguments.length + 1) role arguments
  match behind with
  | operator :: _ :: _ => .error (complaint operator "unexpected operator")
  | _ => .ok holds

/-- Whether a condition holds. With three or four arguments, brackets around them and an exclamation
mark before them come first, unless there is an operator between two operands. -/
def evaluate (environment : Environment) : Bool → List String → Verdict Bool
  | isNegated, [] => .ok isNegated
  | isNegated, [left, operator, right] =>
    if role? operator = some .binary then (whole environment none [left, operator, right]).map
      (· != isNegated)
    else if left = "(" && right = ")" then (whole environment (roleAt? [operator]) [operator]).map
      (· != isNegated)
    else if left = "!" then evaluate environment (!isNegated) [operator, right]
    else (whole environment (roleAt? [left, operator, right]) [left, operator, right]).map
      (· != isNegated)
  | isNegated, [first, second, third, fourth] =>
    if first = "(" && fourth =
      ")" then (whole environment (roleAt? [second, third]) [second, third]).map (· != isNegated)
    else if first = "!" then evaluate environment (!isNegated) [second, third, fourth]
    else
      (whole environment (roleAt? [first, second, third, fourth])
        [first, second, third, fourth]).map (· != isNegated)
  | isNegated, arguments => (whole environment (roleAt? arguments) arguments).map (· != isNegated)

end Spellspan.Process.Condition
