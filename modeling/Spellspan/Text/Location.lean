import Spellspan.Text.Bytes

/-!
Lines and columns. Both count from one; a line ends after its line feed, and columns count
characters.
-/
set_option autoImplicit false

namespace Spellspan.Text

/-- Where an offset falls in a text. -/
structure Location where
  line : Nat := 0
  column : Nat := 0
  deriving DecidableEq, Repr

/-- The text form `line:column`. -/
def Location.render (location : Location) : String :=
  s!"{location.line}:{location.column}"

/-- A text with the byte offsets at which its lines start. -/
structure LineIndex where
  text : List Char
  starts : List Nat

/-- Offsets behind each line feed of a text that itself stands at `offset`. -/
def lineStartsFrom (offset : Nat) : List Char → List Nat
  | [] => []
  | c :: rest =>
    let next := offset + c.utf8Size
    if c = '\n' then next :: lineStartsFrom next rest else lineStartsFrom next rest

/-- The first line starts at the start of the text, every other one behind a line feed. -/
def LineIndex.ofText (text : List Char) : LineIndex :=
  { text, starts := 0 :: lineStartsFrom 0 text }

/-- The location of an offset, clamped to the end of the text. Inside a character there is no
character count, so the column counts bytes there. -/
def LineIndex.locate (index : LineIndex) (offset : Nat) : Location :=
  let offset := min offset (byteLength index.text)
  let reached := index.starts.takeWhile (· ≤ offset)
  let start := reached.getLastD 0
  let before := (slice? index.text start offset).map List.length
  { line := reached.length, column := before.getD (offset - start) + 1 }

end Spellspan.Text
