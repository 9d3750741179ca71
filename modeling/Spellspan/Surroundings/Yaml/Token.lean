import Spellspan.Surroundings.Yaml.Folded

/-!
Tokens of a YAML text, and the names among them: anchors, which give a value a name, tags, which
give it a type, and directives, which stand before a document.
-/
set_option autoImplicit false

namespace Spellspan.Yaml

inductive Style where
  | plain
  | quoted
  | literal
  | folded
  deriving DecidableEq, Repr

/-- A token. The beginning and the end of a block are where its indentation begins and ends. -/
inductive Token where
  | version (major minor : Nat)
  | handle (name expansion : String)
  | documentStart
  | documentEnd
  | itemsStart
  | entriesStart
  | blockEnd
  | bracketOpen
  | bracketClose
  | braceOpen
  | braceClose
  | comma
  | dash
  | key
  | value
  | alias (name : String)
  | anchor (name : String)
  | tag (handle suffix : String)
  | scalar (style : Style) (text : String)
  deriving DecidableEq, Repr

def isNameChar (c : Char) : Bool :=
  c.isAlphanum || c == '_' || c == '-'

def endsAnchor (text : List Char) : Bool :=
  startsBlank text || text.head?.any fun c => "?:,]\x7d%@\x60".toList.contains c

def anchorName? (cursor : Cursor) : Option (String × Cursor) :=
  let name := cursor.leading isNameChar
  let behind := cursor.past name.length
  if name.isEmpty || !endsAnchor behind.rest then none else some (String.ofList name, behind)

/-- Characters of tags. Inside angle brackets, and in directives, there are a few more. -/
def isTagChar (isVerbatim : Bool) (c : Char) : Bool :=
  isNameChar c || ";/?:@&=+$.%!~*'()".toList.contains c || (isVerbatim && ",[]".toList.contains c)

/-- Number of bytes behind the first byte of an encoded character. -/
def following? (first : Nat) : Option Nat :=
  if first < 0x80 then some 0
  else if 0xc0 ≤ first && first < 0xe0 then some 1
  else if 0xe0 ≤ first && first < 0xf0 then some 2
  else if 0xf0 ≤ first && first < 0xf8 then some 3
  else none

/-- Reads the characters of a tag, with bytes in base sixteen behind percent signs; so many bytes of
a character are still missing. The bytes are read as characters of their own, since no tag with a
meaning has any but simple characters. -/
def tagText? : Nat → List Char → Option (List Char)
  | 0, [] => some []
  | _ + 1, [] => none
  | missing, '%' :: high :: low :: rest => do
    let value := (← hexValue? high) * 16 + (← hexValue? low)
    let missing ← if missing == 0 then following? value
      else if 0x80 ≤ value && value < 0xc0 then some (missing - 1) else none
    (tagText? missing rest).map (Char.ofNat value :: ·)
  | 0, c :: rest => if c == '%' then none else (tagText? 0 rest).map (c :: ·)
  | _ + 1, _ :: _ => none

/-- Reads the text of a tag up to a character that is none of a tag, or a zero byte. There is one,
unless `mayBeEmpty`. -/
def tagEnd? (isVerbatim mayBeEmpty : Bool) (cursor : Cursor) : Option (String × Cursor) := do
  let chars := cursor.leading (isTagChar isVerbatim)
  if chars.isEmpty && !mayBeEmpty then none
  else
    let text ← tagText? 0 chars
    some (String.ofList (text.takeWhile (· != '\x00')), cursor.past chars.length)

/-- Whether a tag may end here: before a blank, and in brackets before a comma. -/
def endsTag (inFlow : Bool) (text : List Char) : Bool :=
  startsBlank text || (inFlow && text.head? == some ',')

/-- Reads a tag: in angle brackets, behind a handle that ends in an exclamation mark, or behind a
single one. -/
def tagToken? (inFlow : Bool) (start : Cursor) : Option (Token × Cursor) := do
  let (token, behind) ←
    if start.rest.take 2 == ['!', '<'] then do
      let (text, behind) ← tagEnd? true false (start.past 2)
      if behind.rest.head? == some '>' then some (Token.tag "" text, behind.past 1) else none
    else do
      let name := (start.past 1).leading isNameChar
      let behind := start.past (name.length + 1)
      if behind.rest.head? == some '!' then do
        let (suffix, behind) ← tagEnd? false false (behind.past 1)
        some (Token.tag ("!" ++ String.ofList name ++ "!") suffix, behind)
      else do
        let (rest, behind) ← tagEnd? false true behind
        let suffix := String.ofList name ++ rest
        some (if suffix == "" then .tag "" "!" else .tag "!" suffix, behind)
  if endsTag inFlow behind.rest then some (token, behind) else none

def maxVersionDigits : Nat := 9

def versionNumber? (cursor : Cursor) : Option (Nat × Cursor) :=
  let digits := cursor.leading Char.isDigit
  if digits.isEmpty || maxVersionDigits < digits.length then none
  else some (digits.foldl (fun value c => value * 10 + (c.toNat - '0'.toNat)) 0,
    cursor.past digits.length)

def version? (start : Cursor) : Option (Token × Cursor) := do
  let (major, behind) ← versionNumber? (start.pastLeading isBlank)
  if behind.rest.head? == some '.' then do
    let (minor, behind) ← versionNumber? (behind.past 1)
    some (.version major minor, behind)
  else none

def handle? (start : Cursor) : Option (Token × Cursor) := do
  let cursor := start.pastLeading isBlank
  if cursor.rest.head? != some '!' then none
  else
    let name := (cursor.past 1).leading isNameChar
    let behind := cursor.past (name.length + 1)
    let (name, behind) ←
      if behind.rest.head? == some '!' then some ("!" ++ String.ofList name ++ "!", behind.past 1)
      else if name.isEmpty then some ("!", behind)
      else none
    if !(behind.rest.head?.any isBlank) then none
    else
      let (expansion, behind) ← tagEnd? true false (behind.pastLeading isBlank)
      if startsBlank behind.rest then some (.handle name expansion, behind) else none

def directive? (start : Cursor) : Option (Token × Cursor) := do
  let name := String.ofList (start.leading isNameChar)
  let behind := start.past name.length
  if !startsBlank behind.rest then none
  else
    let (token, behind) ←
      if name == "YAML" then version? behind else if name == "TAG" then handle? behind else none
    (behind.lineEnd?).map fun behind => (token, behind)

end Spellspan.Yaml
