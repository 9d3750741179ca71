import Spellspan.Text.Quoted

/-!
Globs over the bytes of a path, and when they match. Wildcards cross separators. Two stars are
special only between separators, where they stand for any number of directories. Like YAML, globs
stand for a library that the settings rely on, and are no part of the theory.
-/
set_option autoImplicit false

namespace Spellspan.Glob

inductive Token where
  | literal (c : Char)
  | any
  | zeroOrMore
  | recursivePrefix
  | recursiveSuffix
  | recursiveZeroOrMore
  | oneOf (negated : Bool) (ranges : List (Char × Char))
  | alternates (branches : List (List Token))

def separator : UInt8 := 47

def charBytes (c : Char) : List UInt8 :=
  String.utf8EncodeChar c

def pathBytes (path : String) : List UInt8 :=
  path.toList.flatMap charBytes

/-- Whether a range of characters, taken byte by byte, holds a byte: the bytes of its two ends, and
if these are different all between the last byte of the first and the first byte of the last. -/
def rangeHolds (byte : UInt8) (range : Char × Char) : Bool :=
  let first := charBytes range.1
  let last := charBytes range.2
  first.contains byte || last.contains byte ||
    (range.1 != range.2 && first.getLastD 0 ≤ byte && byte ≤ last.headD 0)

/-- For every place in a path, from the first byte to behind the last, whether what follows it is
matched by the rest of a glob. -/
abbrev Verdicts := List Bool

namespace Verdicts

/-- When nothing is left of a glob: only behind the last byte. -/
def atEnd (bytes : List UInt8) : Verdicts :=
  bytes.map (fun _ => false) ++ [true]

def either (first second : Verdicts) : Verdicts :=
  List.zipWith or first second

def afterByte (kind : UInt8 → Bool) : List UInt8 → Verdicts → Verdicts
  | byte :: bytes, _ :: rest => (kind byte && rest.headD false) :: afterByte kind bytes rest
  | _, rest => rest.map fun _ => false

def afterBytes (expected bytes : List UInt8) (rest : Verdicts) : Verdicts :=
  expected.foldr (fun byte rest => afterByte (· == byte) bytes rest) rest

def afterAny : Verdicts → Verdicts
  | [] => []
  | verdict :: rest =>
    let others := afterAny rest
    (verdict || others.headD false) :: others

def afterSeparator (bytes : List UInt8) (rest : Verdicts) : Verdicts :=
  afterAny (afterByte (· == separator) bytes rest)

end Verdicts

mutual

/-- Whether a part says nothing: alternatives that are all empty. -/
def Token.isBlank : Token → Bool
  | .alternates branches => areBlank branches
  | _ => false

def isBlankBranch : List Token → Bool
  | [] => true
  | token :: rest => token.isBlank && isBlankBranch rest

def areBlank : List (List Token) → Bool
  | [] => true
  | branch :: rest => isBlankBranch branch && areBlank rest

end

mutual

/-- Where a part matches some bytes and the rest is matched after them. -/
def Token.verdicts (bytes : List UInt8) : Token → Verdicts → Verdicts
  | .literal c, rest => rest.afterBytes (charBytes c) bytes
  | .any, rest => rest.afterByte (fun _ => true) bytes
  | .zeroOrMore, rest => rest.afterAny
  | .recursivePrefix, rest => rest.either (rest.afterSeparator bytes)
  | .recursiveSuffix, rest => rest.afterAny.afterByte (· == separator) bytes
  | .recursiveZeroOrMore, rest =>
      (rest.either (rest.afterSeparator bytes)).afterByte (· == separator) bytes
  | .oneOf negated ranges, rest =>
      rest.afterByte (fun byte => ranges.any (rangeHolds byte) != negated) bytes
  | .alternates branches, rest => if areBlank branches then rest
      else verdictsOfSome bytes branches rest

/-- Where the parts match one after the other, and the rest is matched after them. -/
def verdictsOfAll (bytes : List UInt8) : List Token → Verdicts → Verdicts
  | [], rest => rest
  | token :: more, rest => token.verdicts bytes (verdictsOfAll bytes more rest)

/-- Where one of the alternatives matches; those that say nothing do not count. -/
def verdictsOfSome (bytes : List UInt8) : List (List Token) → Verdicts → Verdicts
  | [], rest => rest.map fun _ => false
  | branch :: more, rest =>
    let others := verdictsOfSome bytes more rest
    if isBlankBranch branch then others else (verdictsOfAll bytes branch rest).either others

end

/-- Whether a list of parts matches all bytes of a path. On their own, directories before nothing
match anything. -/
def matchesBytes (tokens : List Token) (bytes : List UInt8) : Bool :=
  match tokens with
  | [.recursivePrefix] => true
  | tokens => (verdictsOfAll bytes tokens (.atEnd bytes)).headD false

def Token.char? : Token → Option Char
  | .literal c => some c
  | _ => none

def areLiteral (tokens : List Token) : Bool :=
  tokens.all fun token => token.char?.isSome

/-- Whether parts are a name: literal, and without a separator. -/
def areName (tokens : List Token) : Bool :=
  tokens.all fun token => token.char?.isSome && token.char? != some '/'

def withoutPrefix : List Token → List Token
  | .recursivePrefix :: rest => rest
  | tokens => tokens

def isLastName : List Token → Bool
  | .recursivePrefix :: token :: rest => areName (token :: rest)
  | _ => false

def isExtension (tokens : List Token) : Bool :=
  match withoutPrefix tokens with
  | .zeroOrMore :: .literal '.' :: rest => areName rest && rest.all fun token =>
      token.char? != some '.'
  | _ => false

def isStart (tokens : List Token) : Bool :=
  match tokens.getLast? with
  | some .zeroOrMore => areLiteral tokens.dropLast && 1 < tokens.length
  | some .recursiveSuffix => areLiteral tokens.dropLast
  | _ => !tokens.isEmpty && areLiteral tokens

def withoutStar : List Token → List Token
  | .zeroOrMore :: rest => rest
  | tokens => tokens

def isEnd (tokens : List Token) : Bool :=
  let rest := withoutStar (withoutPrefix tokens)
  !rest.isEmpty && areLiteral rest

/-- Whether a glob is decided by the last name of a path: it gives that name, only its extension, or
ends in an extension after parts that are not literal. -/
def isDecidedByName (tokens : List Token) : Bool :=
  isLastName tokens ||
    (!areLiteral tokens && (isExtension tokens || (!isStart tokens && !isEnd tokens)))

/-- Whether a glob that is decided by the last name asks for a name that ends with a dot. -/
def asksFinalDot (tokens : List Token) : Bool :=
  isDecidedByName tokens && tokens.getLast?.bind Token.char? == some '.'

def lastName (bytes : List UInt8) : List UInt8 :=
  (bytes.reverse.takeWhile (· != separator)).reverse

def isNameless (bytes : List UInt8) : Bool :=
  lastName bytes == pathBytes ".."

/-- Whether a glob matches a path. One that is decided by the last name does not match a path that
has none. -/
def isMatch (tokens : List Token) (path : String) : Bool :=
  let bytes := pathBytes path
  !(asksFinalDot tokens && isNameless bytes) && matchesBytes tokens bytes

end Spellspan.Glob
