/-!
Patterns of the shell: a star matches any bytes, a question mark one, and a class in brackets one of
some. Quoted characters stand for themselves.
-/
set_option autoImplicit false

namespace Spellspan.Process

inductive PatternItem where
  | literal (c : Char)
  | one
  | any
  | oneOf (isNegated : Bool) (ranges : List (Char × Char)) (classes : List String)
  deriving DecidableEq, Repr

namespace Pattern

abbrev Marked := Char × Bool

def isInClass (c : Char) : String → Bool
  | "alpha" => c.isAlpha
  | "digit" => c.isDigit
  | "alnum" => c.isAlphanum
  | "upper" => c.isUpper
  | "lower" => c.isLower
  | "space" => " \t\n\r\x0b\x0c".toList.contains c
  | "blank" => c == ' ' || c == '\t'
  | "punct" => '!' ≤ c && c ≤ '~' && !c.isAlphanum
  | "print" => ' ' ≤ c && c ≤ '~'
  | "graph" => '!' ≤ c && c ≤ '~'
  | "cntrl" => c < ' ' || c == '\x7f'
  | "xdigit" => c.isDigit || ('a' ≤ c && c ≤ 'f') || ('A' ≤ c && c ≤ 'F')
  | _ => false

def isOneOf (isNegated : Bool) (ranges : List (Char × Char)) (classes : List String) (c : Char) :
    Bool :=
  (ranges.any (fun range => range.1 ≤ c && c ≤ range.2) || classes.any (isInClass c)) != isNegated

/-- A named class, behind the bracket and the colon before its name. -/
def className? (text : List Marked) : Option (String × List Marked) :=
  let name := text.takeWhile fun marked => marked.1.isAlpha
  match text.drop name.length with
  | (':', _) :: (']', _) :: rest => some (String.ofList (name.map Prod.fst), rest)
  | _ => none

/-- The members of a class up to the bracket that closes it. The bracket itself may be the first
member. -/
def members? : Nat → Bool → List (Char × Char) → List String → List Marked →
    Option (List (Char × Char) × List String × List Marked)
  | 0, _, _, _, _ => none
  | _ + 1, _, _, _, [] => none
  | bound + 1, isFirst, ranges, classes, (c, isQuoted) :: rest =>
    if c == ']' && !isQuoted && !isFirst then some (ranges, classes, rest)
    else
      let named := if c == '[' && !isQuoted && rest.head? == some (':', false) then
        className? rest.tail else none
      match named, rest with
      | some (name, behind), _ => members? bound false ranges (name :: classes) behind
      | none, ('-', false) :: (last, isLastQuoted) :: behind =>
        if last == ']' && !isLastQuoted then members? bound false ((c, c) :: ranges) classes rest
        else members? bound false ((c, last) :: ranges) classes behind
      | none, _ => members? bound false ((c, c) :: ranges) classes rest

/-- Reads a pattern. A bracket that is never closed stands for itself. -/
def parse : Nat → List Marked → List PatternItem
  | 0, _ => []
  | _ + 1, [] => []
  | bound + 1, (c, isQuoted) :: rest =>
    if isQuoted then .literal c :: parse bound rest
    else if c == '*' then .any :: parse bound rest
    else if c == '?' then .one :: parse bound rest
    else if c == '[' then
      let (isNegated, inner) := match rest with
        | ('!', false) :: inner => (true, inner)
        | ('^', false) :: inner => (true, inner)
        | inner => (false, inner)
      match members? (inner.length + 1) true [] [] inner with
      | some (ranges, classes, behind) => .oneOf isNegated ranges classes :: parse bound behind
      | none => .literal c :: parse bound rest
    else .literal c :: parse bound rest

def ofMarked (text : List Marked) : List PatternItem :=
  parse (text.length + 1) text

def matchesSomeEnd (isMatch : List Char → Bool) : List Char → Bool
  | [] => isMatch []
  | c :: rest => isMatch (c :: rest) || matchesSomeEnd isMatch rest

def isMatch : List PatternItem → List Char → Bool
  | [], text => text.isEmpty
  | .any :: pattern, text => matchesSomeEnd (isMatch pattern) text
  | .literal c :: pattern, text =>
    match text with
    | first :: rest => first == c && isMatch pattern rest
    | [] => false
  | .one :: pattern, text =>
    match text with
    | _ :: rest => isMatch pattern rest
    | [] => false
  | .oneOf isNegated ranges classes :: pattern, text =>
    match text with
    | first :: rest => isOneOf isNegated ranges classes first && isMatch pattern rest
    | [] => false

def isWild (pattern : List PatternItem) : Bool :=
  pattern.any fun item =>
    match item with
    | .literal _ => false
    | _ => true

/-- What is left of a text when the shortest or the longest part that a pattern matches is taken off
at an end. -/
def trimmed (atEnd longest : Bool) (pattern : List PatternItem) (text : List Char) : List Char :=
  let lengths := List.range (text.length + 1)
  let lengths := if longest then lengths.reverse else lengths
  let fits (length : Nat) : Bool :=
    isMatch pattern (if atEnd then text.drop (text.length - length) else text.take length)
  match lengths.find? fits with
  | some length => if atEnd then text.take (text.length - length) else text.drop length
  | none => text

end Pattern
end Spellspan.Process
