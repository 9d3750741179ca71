/-!
Expressions over integers of 64 bits, with variables and assignments.
-/
set_option autoImplicit false

namespace Spellspan.Process

inductive ArithmeticError where
  | malformed (expected : String)
  | divisionByZero
  | illegalNumber (text : String)
  deriving DecidableEq, Repr

namespace Arithmetic

inductive Token where
  | number (value : Int)
  | variable (name : String)
  | operator (text : String)
  | other
  deriving DecidableEq, Repr

def wrapped (value : Int) : Int :=
  value.bmod UInt64.size

def greatest : Int :=
  UInt64.size / 2 - 1

def digitValue? (base : Nat) (c : Char) : Option Nat :=
  let value :=
    if c.isDigit then c.toNat - '0'.toNat
    else if 'a' ≤ c && c ≤ 'z' then c.toNat - 'a'.toNat + 10
    else if 'A' ≤ c && c ≤ 'Z' then c.toNat - 'A'.toNat + 10
    else base
  if value < base then some value else none

/-- The digits of a number at the beginning of a text, its base, and what stands behind it. -/
def digitsOf (text : List Char) : Nat × List Char × List Char :=
  let inBase (base : Nat) (digits : List Char) :=
    (base, digits.takeWhile fun c => (digitValue? base c).isSome, digits.dropWhile fun c =>
      (digitValue? base c).isSome)
  match text with
  | '0' :: mark :: first :: rest =>
    if (mark == 'x' || mark == 'X') && (digitValue? 16 first).isSome then inBase 16 (first :: rest)
    else inBase 8 text
  | '0' :: _ => inBase 8 text
  | _ => inBase 10 text

/-- A number at the beginning of a text, and what stands behind it. Numbers that are too great are
the greatest. -/
def numberOf (text : List Char) : Int × List Char :=
  let (base, digits, rest) := digitsOf text
  let value := digits.foldl (fun value c => value * base + (digitValue? base c).getD 0) 0
  (min (value : Int) greatest, rest)

def operators : List String := [
  "<<=", ">>=", "<<", ">>", "<=", ">=", "==", "!=", "&&", "||", "+=", "-=", "*=", "/=", "%=", "&=",
    "|=", "^=", "<", ">", "=",
  "!", "~", "&", "|", "^", "+", "-", "*", "/", "%", "?", ":", "(", ")"]

def isBlank (c : Char) : Bool :=
  c == ' ' || c == '\t' || c == '\n'

def tokens : Nat → List Char → List Token
  | 0, _ => []
  | _ + 1, [] => []
  | bound + 1, c :: rest =>
    if isBlank c then tokens bound rest
    else if c.isDigit then
      let (value, behind) := numberOf (c :: rest)
      .number value :: tokens bound behind
    else if c.isAlpha || c == '_' then
      let isInName (c : Char) := c.isAlphanum || c == '_'
      .variable (String.ofList (c :: rest.takeWhile isInName)) :: tokens bound
        (rest.dropWhile isInName)
    else
      match operators.find? fun operator => operator.toList.isPrefixOf (c :: rest) with
      | some operator => .operator operator :: tokens bound ((c :: rest).drop operator.length)
      | none => [.other]

structure State where
  tokens : List Token
  assigned : List (String × Int) := []

abbrev Evaluation := StateT State (Except ArithmeticError)

def levels : List (List String) :=
  [["|"], ["^"], ["&"], ["==", "!="], ["<", ">", "<=", ">="], ["<<", ">>"], ["+", "-"],
    ["*", "/", "%"]]

def ofBool (value : Bool) : Int :=
  if value then 1 else 0

def bits (value : Int) : UInt64 :=
  UInt64.ofNat (value.emod UInt64.size).toNat

def ofBits (value : UInt64) : Int :=
  wrapped value.toNat

def apply (operator : String) (a b : Int) : Except ArithmeticError Int :=
  match operator with
  | "+" => .ok (wrapped (a + b))
  | "-" => .ok (wrapped (a - b))
  | "*" => .ok (wrapped (a * b))
  | "/" => if b = 0 then .error .divisionByZero else .ok (wrapped (a.tdiv b))
  | "%" => if b = 0 then .error .divisionByZero else .ok (wrapped (a.tmod b))
  | "<<" => .ok (ofBits (bits a <<< (bits b % 64)))
  | ">>" => .ok (wrapped (a.fdiv (Nat.pow 2 (bits b % 64).toNat)))
  | "<" => .ok (ofBool (a < b))
  | ">" => .ok (ofBool (b < a))
  | "<=" => .ok (ofBool (a ≤ b))
  | ">=" => .ok (ofBool (b ≤ a))
  | "==" => .ok (ofBool (a == b))
  | "!=" => .ok (ofBool (a != b))
  | "&" => .ok (ofBits (bits a &&& bits b))
  | "^" => .ok (ofBits (bits a ^^^ bits b))
  | "|" => .ok (ofBits (bits a ||| bits b))
  | _ => .ok b

/-- Operators that assign, with the operator that they apply first. -/
def assigning : List (String × String) := [
  ("=", ""), ("+=", "+"), ("-=", "-"), ("*=", "*"), ("/=", "/"), ("%=", "%"), ("<<=", "<<"),
    (">>=", ">>"), ("&=", "&"),
  ("|=", "|"), ("^=", "^")]

/-- The number that is the value of a variable; without a value it is zero. -/
def numberInText (text : String) : Except ArithmeticError Int :=
  let chars := text.toList.dropWhile isBlank
  let (isNegative, digits) := match chars with
    | '-' :: digits => (true, digits)
    | '+' :: digits => (false, digits)
    | digits => (false, digits)
  let (value, rest) := numberOf digits
  if chars.isEmpty then .ok 0
  else if digits.head?.any Char.isDigit &&
    rest.all isBlank then .ok (if isNegative then -value else value)
  else .error (.illegalNumber text)

def valueOf (bindings : String → Option String) (name : String) : Evaluation Int := do
  match (← get).assigned.lookup name with
  | some value => return value
  | none =>
    match numberInText ((bindings name).getD "") with
    | .ok value => return value
    | .error error => throw error

def operator? (texts : List String) : Evaluation (Option String) := do
  match (← get).tokens with
  | .operator text :: rest =>
    if texts.contains text then
      modify fun state => { state with tokens := rest }
      return some text
    else return none
  | _ => return none

/-- Evaluates what stands in brackets, a number, a variable, or one of these behind a sign. -/
def primary (bindings : String → Option String) (isIdle : Bool) (inner : Bool → Evaluation Int) :
    Nat → Evaluation Int
  | 0 => throw (.malformed "primary")
  | bound + 1 => do
    match (← get).tokens with
    | .number value :: rest => do
      modify fun state => { state with tokens := rest }
      return value
    | .variable name :: rest => do
      modify fun state => { state with tokens := rest }
      if isIdle then return 0 else valueOf bindings name
    | .operator "(" :: rest => do
      modify fun state => { state with tokens := rest }
      let value ← inner isIdle
      match ← operator? [")"] with
      | some _ => return value
      | none => throw (.malformed "')'")
    | .operator sign :: rest =>
      if ["+", "-", "!", "~"].contains sign then do
        modify fun state => { state with tokens := rest }
        let value ← primary bindings isIdle inner bound
        return match sign with
          | "-" => wrapped (-value)
          | "!" => ofBool (value == 0)
          | "~" => wrapped (-value - 1)
          | _ => value
      else throw (.malformed "primary")
    | _ => throw (.malformed "primary")

/-- Evaluates values with operators of one kind between them, the first of which is read. -/
def chain (isIdle : Bool) (operators : List String) (operand : Evaluation Int) :
    Nat → Int → Evaluation Int
  | 0, value => return value
  | bound + 1, value => do
    match ← operator? operators with
    | none => return value
    | some operator => do
      let right ← operand
      match if isIdle then .ok right else apply operator value right with
      | .ok value => chain isIdle operators operand bound value
      | .error error => throw error

/-- Evaluates operators that bind as tightly as those of some levels. -/
def binary (isIdle : Bool) (operand : Evaluation Int) : List (List String) → Evaluation Int
  | [] => operand
  | operators :: tighter => do
    let value ← binary isIdle operand tighter
    chain isIdle operators (binary isIdle operand tighter) ((← get).tokens.length + 1) value

/-- Evaluates conjunctions. What cannot change the value any more is read and not evaluated. -/
def conjunction (bindings : String → Option String) (inner : Bool → Evaluation Int) :
    Nat → Bool → Evaluation Int
  | 0, _ => throw (.malformed "primary")
  | bound + 1, isIdle => do
    let value ← binary isIdle (primary bindings isIdle inner ((← get).tokens.length + 1)) levels
    match ← operator? ["&&"] with
    | none => return value
    | some _ => do
      let right ← conjunction bindings inner bound (isIdle || value == 0)
      return ofBool (value != 0 && right != 0)

def disjunction (bindings : String → Option String) (inner : Bool → Evaluation Int) :
    Nat → Bool → Evaluation Int
  | 0, _ => throw (.malformed "primary")
  | bound + 1, isIdle => do
    let value ← conjunction bindings inner ((← get).tokens.length + 1) isIdle
    match ← operator? ["||"] with
    | none => return value
    | some _ => do
      let right ← disjunction bindings inner bound (isIdle || value != 0)
      return ofBool (value != 0 || right != 0)

def choice (bindings : String → Option String) (inner : Bool → Evaluation Int) :
    Nat → Bool → Evaluation Int
  | 0, _ => throw (.malformed "primary")
  | bound + 1, isIdle => do
    let value ← disjunction bindings inner ((← get).tokens.length + 1) isIdle
    match ← operator? ["?"] with
    | none => return value
    | some _ => do
      let first ← inner (isIdle || value == 0)
      match ← operator? [":"] with
      | none => throw (.malformed "':'")
      | some _ => do
        let second ← choice bindings inner bound (isIdle || value != 0)
        return if value != 0 then first else second

def assignment (bindings : String → Option String) : Nat → Bool → Evaluation Int
  | 0, _ => throw (.malformed "primary")
  | bound + 1, isIdle => do
    match (← get).tokens with
    | .variable name :: .operator text :: rest =>
      match assigning.lookup text with
      | some operator => do
        modify fun state => { state with tokens := rest }
        let right ← assignment bindings bound isIdle
        if isIdle then return right
        else do
          let before ← if operator == "" then pure 0 else valueOf bindings name
          match apply operator before right with
          | .ok value => do
            modify fun state => { state with assigned := (name, value) :: state.assigned }
            return value
          | .error error => throw error
      | none => choice bindings (assignment bindings bound) bound isIdle
    | _ => choice bindings (assignment bindings bound) bound isIdle

/-- The value of an expression, and the variables that it assigns, the first first. -/
def evaluate (bindings : String → Option String) (text : String) :
    Except ArithmeticError (Int × List (String × Int)) :=
  let found := tokens (text.length + 1) text.toList
  match (assignment bindings (found.length + 2) false).run { tokens := found } with
  | .error error => .error error
  | .ok (value, state) =>
    if state.tokens.isEmpty then .ok (value, state.assigned.reverse) else .error (.malformed "EOF")

end Arithmetic
end Spellspan.Process
