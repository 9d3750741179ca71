import Spellspan.Json.Value

/-!
The text of JSON values, compact or with one item a line. Double precision numbers are written with
the fewest digits that read back, positionally from `1e-5` up to `1e16` and with a signed exponent
outside.
-/
set_option autoImplicit false

namespace Spellspan.Json

open Numeric (Binary64)

def controlEscape (c : Char) : List Char :=
  let digits := Nat.toDigits 16 c.toNat
  "\\u00".toList ++ List.replicate (2 - digits.length) '0' ++ digits

def escapeChar (c : Char) : List Char :=
  match c with
  | '"' => "\\\"".toList
  | '\\' => "\\\\".toList
  | '\x08' => "\\b".toList
  | '\x0c' => "\\f".toList
  | '\n' => "\\n".toList
  | '\r' => "\\r".toList
  | '\t' => "\\t".toList
  | c => if c.toNat < 0x20 then controlEscape c else [c]

def writeString (out text : String) : String :=
  (text.toList.foldl (fun written c => (escapeChar c).foldl String.push written)
    (out.push '"')).push '"'

/-- The smallest and the first too large power of ten of the leading digit that are written
positionally. -/
def positionalPowers : Int × Int := (-5, 16)

/-- A decimal with a point: always a digit on both sides of it. -/
def positional (digits : List Char) (leading : Int) : List Char :=
  if leading < 0 then
    "0.".toList ++ List.replicate ((-leading).toNat - 1) '0' ++ digits
  else
    let whole := leading.toNat + 1
    let padded := digits ++ List.replicate (whole - digits.length) '0'
    let fraction := padded.drop whole
    padded.take whole ++ '.' :: (if fraction.isEmpty then ['0'] else fraction)

def scientific (digits : List Char) (leading : Int) : List Char :=
  let mantissa := digits.take 1 ++ (if digits.length ≤ 1 then [] else '.' :: digits.drop 1)
  let sign := if leading < 0 then '-' else '+'
  mantissa ++ 'e' :: sign :: Nat.toDigits 10 leading.natAbs

def realText (x : Binary64) : String :=
  let sign := if x.isNegative then ['-'] else []
  if x.magnitude = 0 then String.ofList (sign ++ "0.0".toList)
  else if !x.isFinite then "null"
  else
    let decimal := x.shortest
    let digits := Nat.toDigits 10 decimal.digits
    let leading := decimal.exponent + (digits.length : Int) - 1
    let plain := decide (positionalPowers.1 ≤ leading) && decide (leading < positionalPowers.2)
    String.ofList (sign ++ if plain then positional digits leading else scientific digits leading)

def Number.render : Json.Number → String
  | .natural value => toString value
  | .negative magnitude => "-" ++ toString magnitude
  | .real value => realText value

mutual

def writeCompact (out : String) : Json → String
  | .null => out ++ "null"
  | .bool value => out ++ if value then "true" else "false"
  | .number value => out ++ value.render
  | .string text => writeString out text
  | .array items => (writeCompactItems (out.push '[') true items).push ']'
  | .object fields => (writeCompactFields (out.push '{') true fields).push '}'

def writeCompactItems (out : String) (first : Bool) : List Json → String
  | [] => out
  | item :: rest => writeCompactItems
      (writeCompact (if first then out else out.push ',') item) false rest

def writeCompactFields (out : String) (first : Bool) : List (String × Json) → String
  | [] => out
  | (name, value) :: rest =>
    let out := writeString (if first then out else out.push ',') name
    writeCompactFields (writeCompact (out.push ':') value) false rest

end

def compact (value : Json) : String :=
  writeCompact "" value

def newLine (out : String) (level : Nat) : String :=
  (List.replicate (2 * level) ' ').foldl String.push (out.push '\n')

mutual

/-- Appends the text of a value whose nesting level is `level`, one item a line. -/
def writePretty (level : Nat) (out : String) : Json → String
  | .null => out ++ "null"
  | .bool value => out ++ if value then "true" else "false"
  | .number value => out ++ value.render
  | .string text => writeString out text
  | .array [] => out ++ "[]"
  | .array (item :: rest) =>
    (newLine (writePrettyItems level (out.push '[') true (item :: rest)) level).push ']'
  | .object [] => out ++ "\x7b\x7d"
  | .object (entry :: rest) =>
    (newLine (writePrettyFields level (out.push '{') true (entry :: rest)) level).push '}'

def writePrettyItems (level : Nat) (out : String) (first : Bool) : List Json → String
  | [] => out
  | item :: rest =>
    let out := newLine (if first then out else out.push ',') (level + 1)
    writePrettyItems level (writePretty (level + 1) out item) false rest

def writePrettyFields (level : Nat) (out : String) (first : Bool) : List (String × Json) → String
  | [] => out
  | (name, value) :: rest =>
    let out := newLine (if first then out else out.push ',') (level + 1)
    writePrettyFields level
      (writePretty (level + 1) (writeString out name ++ ": ") value) false rest

end

def pretty (value : Json) : String :=
  writePretty 0 "" value

end Spellspan.Json
