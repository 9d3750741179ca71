import Spellspan.Surroundings.Yaml.Token

/-!
Scalars that are written as blocks of lines. Their lines are indented alike; the first line that is
not empty says how far, or a digit in the header does. In a literal block line breaks are kept. In a
folded one a line feed between two lines that do not begin with a blank reads as a blank.
-/
set_option autoImplicit false

namespace Spellspan.Yaml

inductive Chomping where
  | strip
  | clip
  | keep
  deriving DecidableEq, Repr

def Chomping.ofChar? (c : Char) : Option Chomping :=
  if c == '+' then some .keep else if c == '-' then some .strip else none

/-- The indentation that a digit asks for. Zero is none. -/
def increment? (c : Char) : Option Nat :=
  if c.isDigit && c != '0' then some (c.toNat - '0'.toNat) else none

/-- The header of a block: a chomping and an indentation in any order, either of which may be left
out. -/
structure BlockHeader where
  chomping : Chomping := .clip
  increment : Nat := 0

def blockHeader? (start : Cursor) : Option (BlockHeader × Cursor) :=
  let (header, length) : BlockHeader × Nat := match start.rest with
    | first :: second :: _ =>
      match Chomping.ofChar? first, increment? first, Chomping.ofChar? second,
        increment? second with
      | some chomping, _, _, some increment => ({ chomping, increment }, 2)
      | some chomping, _, _, none => ({ chomping }, 1)
      | none, some increment, some chomping, _ => ({ chomping, increment }, 2)
      | none, some increment, none, _ => ({ increment }, 1)
      | none, none, _, _ => (({} : BlockHeader), 0)
    | [first] =>
      match Chomping.ofChar? first, increment? first with
      | some chomping, _ => ({ chomping }, 1)
      | none, some increment => ({ increment }, 1)
      | none, none => ({}, 0)
    | [] => ({}, 0)
  (start.past length).lineEnd?.map fun behind => (header, behind)

structure BlockBreaks where
  breaks : List Char
  width : Nat
  cursor : Cursor

/-- Passes over the indentation of lines, and over lines without text. With no indentation given,
all spaces are passed over. A tab cannot be part of the indentation. -/
def blockBreaks? (indent width : Nat) (breaks : List Char) (place : Place) :
    List Char → Option BlockBreaks
  | [] => some ⟨breaks, max width place.column, ⟨[], place⟩⟩
  | c :: rest =>
    let isIndented := indent != 0 && indent ≤ place.column
    if c == ' ' && !isIndented then blockBreaks? indent width breaks (place.past c) rest
    else if c == '\t' && !isIndented then none
    else if isBreak c then blockBreaks? indent (max width place.column) (c :: breaks)
      (place.past c) rest
    else some ⟨breaks, max width place.column, ⟨c :: rest, place⟩⟩

structure BlockText where
  read : List Char := []
  lineBreak : Option Char := none
  others : List Char := []
  isLeadingBlank : Bool := false

def BlockText.line (text : BlockText) (isLiteral : Bool) (line : List Char) : BlockText :=
  let isBlankLine := line.head?.any isBlank
  let joint :=
    if !isLiteral && text.lineBreak == some '\n' && !text.isLeadingBlank && !isBlankLine then
      if text.others.isEmpty then [' '] else []
    else text.lineBreak.toList
  { read := line.reverse ++ (text.others ++ (joint ++ text.read)), isLeadingBlank := isBlankLine }

def BlockText.closed (text : BlockText) (chomping : Chomping) : String :=
  let tail := match chomping with
    | .strip => []
    | .clip => text.lineBreak.toList
    | .keep => text.others ++ text.lineBreak.toList
  String.ofList (tail ++ text.read).reverse

/-- Reads the lines of a block at a column; at most `bound` lines are left. -/
def blockLines? (isLiteral : Bool) (chomping : Chomping) (column : Nat) : Nat → BlockText → Cursor →
    Option Scanned
  | 0, _, _ => none
  | bound + 1, text, cursor =>
    if cursor.column != column ||
      cursor.rest.isEmpty then some { text := text.closed chomping, cursor }
    else do
      let line := cursor.leading fun c => !isBreak c
      let behind := cursor.past line.length
      let gap ← blockBreaks? column 0 [] (behind.past 1).place (behind.past 1).rest
      let text := { text.line isLiteral line with lineBreak := behind.rest.head?, others := gap.breaks }
      blockLines? isLiteral chomping column bound text gap.cursor

/-- Reads a block behind its mark, inside a block that is indented by `parent`. -/
def blockScalar? (isLiteral : Bool) (parent : Int) (start : Cursor) : Option Scanned := do
  let (header, cursor) ← blockHeader? start
  let given := if header.increment == 0 then 0 else parent.toNat + header.increment
  let gap ← blockBreaks? given 0 [] cursor.place cursor.rest
  let column := if given == 0 then max (max gap.width (parent + 1).toNat) 1 else given
  blockLines? isLiteral header.chomping column (gap.cursor.rest.length + 1) { others :=
    gap.breaks } gap.cursor

end Spellspan.Yaml
