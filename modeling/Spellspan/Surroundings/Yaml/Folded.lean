import Spellspan.Surroundings.Yaml.Cursor

/-!
Texts over several lines. Blanks around line breaks do not count; one line feed reads as a blank,
and of several line breaks all but the first are kept. A first break that is a separator of lines or
paragraphs is kept as well.
-/
set_option autoImplicit false

namespace Spellspan.Yaml

inductive Gap where
  | blanks (chars : List Char)
  /-- A line break and the others behind it in reverse order, with blanks around them. -/
  | breaks (first : Char) (others : List Char)
  /-- A line break that was taken back, and the others behind it in reverse order. -/
  | joined (others : List Char)

structure Folded where
  read : List Char := []
  gap : Gap := .blanks []

namespace Folded

def gapText : Gap → List Char
  | .blanks chars => chars
  | .breaks '\n' [] => [' ']
  | .breaks '\n' others => others
  | .breaks first others => others ++ [first]
  | .joined others => others

def push (folded : Folded) (c : Char) : Folded :=
  { read := c :: (gapText folded.gap ++ folded.read) }

def blank (folded : Folded) (c : Char) : Folded :=
  match folded.gap with
  | .blanks chars => { folded with gap := .blanks (c :: chars) }
  | _ => folded

def lineBreak (folded : Folded) (c : Char) : Folded :=
  match folded.gap with
  | .blanks _ => { folded with gap := .breaks c [] }
  | .breaks first others => { folded with gap := .breaks first (c :: others) }
  | .joined others => { folded with gap := .joined (c :: others) }

def joinLine (folded : Folded) : Folded :=
  { read := gapText folded.gap ++ folded.read, gap := .joined [] }

def closed (folded : Folded) : String :=
  String.ofList (gapText folded.gap ++ folded.read).reverse

def trimmed (folded : Folded) : String :=
  String.ofList folded.read.reverse

end Folded

structure Scanned where
  text : String
  cursor : Cursor
  broken : Bool := false

def singleQuoted? (folded : Folded) (place : Place) : List Char → Option Scanned
  | [] => none
  | '\'' :: '\'' :: rest => singleQuoted? (folded.push '\'') ((place.past '\'').past '\'') rest
  | c :: rest =>
    if place.column == 0 && startsMark (c :: rest) then none
    else if c == '\'' then some { text := folded.closed, cursor := ⟨rest, place.past c⟩ }
    else if isBreak c then singleQuoted? (folded.lineBreak c) (place.past c) rest
    else if isBlank c then singleQuoted? (folded.blank c) (place.past c) rest
    else singleQuoted? (folded.push c) (place.past c) rest

def simpleEscapes : List (Char × Char) := [
  ('0', '\x00'), ('a', '\x07'), ('b', '\x08'), ('t', '\t'), ('\t', '\t'), ('n', '\n'),
    ('v', '\x0b'), ('f', '\x0c'),
  ('r', '\r'), ('e', '\x1b'), (' ', ' '), ('"', '"'), ('/', '/'), ('\\', '\\'), ('N', '\x85'),
    ('_', '\xa0'),
  ('L', '\u2028'), ('P', '\u2029')]

/-- Number of hexadecimal digits behind a character that announces them. -/
def escapeWidth? (c : Char) : Option Nat :=
  if c == 'x' then some 2 else if c == 'u' then some 4 else if c == 'U' then some 8 else none

def hexValue? (c : Char) : Option Nat :=
  if '0' ≤ c ∧ c ≤ '9' then some (c.toNat - '0'.toNat)
  else if 'a' ≤ c ∧ c ≤ 'f' then some (c.toNat - 'a'.toNat + 10)
  else if 'A' ≤ c ∧ c ≤ 'F' then some (c.toNat - 'A'.toNat + 10)
  else none

def charOf? (code : Nat) : Option Char :=
  if code.isValidChar then some (Char.ofNat code) else none

/-- What the characters behind a backslash stand for while they are being read. -/
inductive Escape where
  | outside
  | begun
  /-- Digits that are still to be read, and the value of those before. -/
  | digits (left value : Nat)

def doubleQuoted? (escape : Escape) (folded : Folded) (place : Place) : List Char → Option Scanned
  | [] => none
  | c :: rest =>
    match escape with
    | .digits left value =>
      match hexValue? c with
      | none => none
      | some digit =>
        let value := value * 16 + digit
        if left ≤ 1 then
          match charOf? value with
          | some char => doubleQuoted? .outside (folded.push char) (place.past c) rest
          | none => none
        else doubleQuoted? (.digits (left - 1) value) folded (place.past c) rest
    | .begun =>
      if isBreak c then doubleQuoted? .outside folded.joinLine (place.past c) rest
      else
        match simpleEscapes.lookup c, escapeWidth? c with
        | some char, _ => doubleQuoted? .outside (folded.push char) (place.past c) rest
        | none, some width => doubleQuoted? (.digits width 0) folded (place.past c) rest
        | none, none => none
    | .outside =>
      if place.column == 0 && startsMark (c :: rest) then none
      else if c == '"' then some { text := folded.closed, cursor := ⟨rest, place.past c⟩ }
      else if c == '\\' then doubleQuoted? .begun folded (place.past c) rest
      else if isBreak c then doubleQuoted? .outside (folded.lineBreak c) (place.past c) rest
      else if isBlank c then doubleQuoted? .outside (folded.blank c) (place.past c) rest
      else doubleQuoted? .outside (folded.push c) (place.past c) rest

def isFlowIndicator (c : Char) : Bool :=
  c == ',' || c == '[' || c == ']' || c == '\x7b' || c == '\x7d'

/-- Whether a colon inside brackets stands before a character that may not follow it. -/
def isBadColon (inFlow : Bool) (c : Char) (rest : List Char) : Bool :=
  inFlow && c == ':' &&
    ((rest.head?).map fun next => isFlowIndicator next || next == '?').getD false

def endsPlain (inFlow : Bool) (c : Char) (rest : List Char) : Bool :=
  (c == ':' && startsBlank rest) || (inFlow && isFlowIndicator c)

def plainEnd (folded : Folded) (place : Place) (rest : List Char) : Scanned :=
  let broken := match folded.gap with
    | .blanks _ => false
    | _ => true
  { text := folded.trimmed, cursor := ⟨rest, place⟩, broken }

/-- Reads the rest of a text without quotes. Outside of brackets it goes on only in lines that are
indented by `indent`. -/
def plain? (inFlow : Bool) (indent : Nat) (folded : Folded) (place : Place) :
    List Char → Option Scanned
  | [] => some (plainEnd folded place [])
  | c :: rest =>
    if isBreak c then plain? inFlow indent (folded.lineBreak c) (place.past c) rest
    else
      match folded.gap with
      | .blanks [] =>
        if isBlank c then plain? inFlow indent (folded.blank c) (place.past c) rest
        else if isBadColon inFlow c rest then none
        else if endsPlain inFlow c rest then some (plainEnd folded place (c :: rest))
        else plain? inFlow indent (folded.push c) (place.past c) rest
      | .blanks _ =>
        if isBlank c then plain? inFlow indent (folded.blank c) (place.past c) rest
        else if c == '#' then some (plainEnd folded place (c :: rest))
        else if isBadColon inFlow c rest then none
        else if endsPlain inFlow c rest then some (plainEnd folded place (c :: rest))
        else plain? inFlow indent (folded.push c) (place.past c) rest
      | _ =>
        if isBlank c then
          if c == '\t' && place.column < indent then none
          else plain? inFlow indent folded (place.past c) rest
        else if (!inFlow && place.column < indent) || c == '#' ||
          (place.column == 0 && startsMark (c :: rest)) then
          some (plainEnd folded place (c :: rest))
        else if isBadColon inFlow c rest then none
        else if endsPlain inFlow c rest then some (plainEnd folded place (c :: rest))
        else plain? inFlow indent (folded.push c) (place.past c) rest

end Spellspan.Yaml
