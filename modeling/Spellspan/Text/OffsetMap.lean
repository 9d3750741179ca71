import Spellspan.Text.Bytes

/-!
Offsets as tree producers count them. Some count the bytes of the UTF-8 form, others the code units
of the UTF-16 form; everything behind the loader counts bytes.
-/
set_option autoImplicit false

namespace Spellspan.Text

/-- The unit in which offsets are counted. -/
inductive OffsetEncoding where
  | utf8
  | utf16
  deriving DecidableEq, Repr

/-- Number of UTF-16 code units of one character: two beyond the first plane. -/
def codeUnits (c : Char) : Nat :=
  if c.toNat < 0x10000 then 1 else 2

/-- Byte offsets of the code units of a text that itself stands at `offset`, and that of its end. -/
def unitTable (offset : Nat) : List Char → List Nat
  | [] => [offset]
  | c :: rest => List.replicate (codeUnits c) offset ++ unitTable (offset + c.utf8Size) rest

/-- What is needed to turn counted offsets into bytes. -/
inductive OffsetMap where
  | bytes (length : Nat)
  | units (table : List Nat)

namespace OffsetMap

def ofText (text : List Char) : OffsetEncoding → OffsetMap
  | .utf8 => .bytes (byteLength text)
  | .utf16 => .units (unitTable 0 text)

def toByte : OffsetMap → Nat → Nat
  | .bytes length, offset => min offset length
  | .units table, offset => table[offset]?.getD (table.getLastD 0)

end OffsetMap

/-- The byte offset of a counted offset, at most that of the end of the text. -/
def toByte (text : List Char) (encoding : OffsetEncoding) (offset : Nat) : Nat :=
  (OffsetMap.ofText text encoding).toByte offset

end Spellspan.Text
