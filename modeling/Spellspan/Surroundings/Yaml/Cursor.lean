/-!
A place in a YAML text. Besides what is left to read it knows the line and the column, which decide
how deep something is nested, and how many bytes stand before it. The reader of YAML stands for a
library by which settings are read. It is no part of the theory.
-/
set_option autoImplicit false

namespace Spellspan.Yaml

def isBlank (c : Char) : Bool :=
  c == ' ' || c == '\t'

/-- Line breaks. Besides the line feed there are the line and the paragraph separator. -/
def isBreak (c : Char) : Bool :=
  c == '\n' || c == '\u2028' || c == '\u2029'

/-- Whether a text begins with a blank or a line break, or is at its end. -/
def startsBlank : List Char → Bool
  | [] => true
  | c :: _ => isBlank c || isBreak c

def startsBreak : List Char → Bool
  | [] => true
  | c :: _ => isBreak c

def startsMark : List Char → Bool
  | '-' :: '-' :: '-' :: rest => startsBlank rest
  | '.' :: '.' :: '.' :: rest => startsBlank rest
  | _ => false

/-- Where a character stands. Lines and columns count characters, the offset counts bytes. -/
structure Place where
  line : Nat := 0
  column : Nat := 0
  offset : Nat := 0
  deriving DecidableEq, Repr

def Place.past (place : Place) (c : Char) : Place :=
  if isBreak c then ⟨place.line + 1, 0, place.offset + c.utf8Size⟩
  else ⟨place.line, place.column + 1, place.offset + c.utf8Size⟩

structure Cursor where
  rest : List Char
  place : Place := {}

namespace Cursor

def column (cursor : Cursor) : Nat :=
  cursor.place.column

def past : Nat → Cursor → Cursor
  | 0, cursor => cursor
  | count + 1, cursor =>
    match cursor.rest with
    | [] => cursor
    | c :: rest => past count ⟨rest, cursor.place.past c⟩

def leading (kind : Char → Bool) (cursor : Cursor) : List Char :=
  cursor.rest.takeWhile kind

/-- Passes over the characters before the first that is not of a kind. -/
def pastLeading (kind : Char → Bool) (cursor : Cursor) : Cursor :=
  cursor.past (cursor.leading kind).length

/-- Passes over the rest of a line, which may hold only blanks and a comment, and over its break. -/
def lineEnd? (cursor : Cursor) : Option Cursor :=
  let cursor := cursor.pastLeading isBlank
  let cursor := if cursor.rest.head? == some '#' then cursor.pastLeading fun c =>
    !isBreak c else cursor
  if startsBreak cursor.rest then some (cursor.past 1) else none

end Cursor

/-- Passes over blanks, line breaks and comments, and tells whether a key may begin there. Tabs
count as blanks in brackets, and where no key may begin. Outside of brackets a key may begin on a
new line. A byte order mark at the beginning of a line is passed over. -/
def skipFrom (inFlow keyAllowed comment : Bool) (place : Place) : List Char → Bool × Cursor
  | [] => (keyAllowed, ⟨[], place⟩)
  | c :: rest =>
    if isBreak c then skipFrom inFlow (keyAllowed || !inFlow) false (place.past c) rest
    else if comment then skipFrom inFlow keyAllowed true (place.past c) rest
    else if c == ' ' || (c == '\t' && (inFlow || !keyAllowed)) ||
      (c == '\ufeff' && place.column == 0) then
      skipFrom inFlow keyAllowed false (place.past c) rest
    else if c == '#' then skipFrom inFlow keyAllowed true (place.past c) rest
    else (keyAllowed, ⟨c :: rest, place⟩)

def isReadable (c : Char) : Bool :=
  let n := c.toNat
  n == 0x9 || n == 0xa || n == 0xd || (0x20 ≤ n && n ≤ 0x7e) || n == 0x85 ||
    (0xa0 ≤ n && n ≤ 0xfffd) || 0x10000 ≤ n

/-- Carriage returns and next lines as line feeds; the other line breaks stay as they are. -/
def normalizeBreaks : List Char → List Char
  | [] => []
  | '\r' :: '\n' :: rest => '\n' :: normalizeBreaks rest
  | c :: rest => (if c == '\r' || c == '\x85' then '\n' else c) :: normalizeBreaks rest

/-- The start of a text. Refused when the text holds unreadable characters. -/
def Cursor.start? (text : String) : Option Cursor :=
  if text.toList.all isReadable then some { rest := normalizeBreaks text.toList } else none

end Spellspan.Yaml
