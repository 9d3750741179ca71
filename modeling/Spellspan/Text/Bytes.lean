/-!
Byte offsets into a text. A text is held as its characters; an offset counts the bytes of its UTF-8
form. Cutting at an offset succeeds exactly when the offset is a character boundary of the text.
-/
set_option autoImplicit false

namespace Spellspan.Text

def byteLength : List Char → Nat
  | [] => 0
  | c :: rest => c.utf8Size + byteLength rest

/-- What follows the first `count` bytes. Refused past the end and inside a character. -/
def dropBytes? : Nat → List Char → Option (List Char)
  | 0, text => some text
  | _ + 1, [] => none
  | count + 1, c :: rest =>
    if c.utf8Size ≤ count + 1 then dropBytes? (count + 1 - c.utf8Size) rest else none
termination_by structural _ text => text

/-- The first `count` bytes. Refused past the end and inside a character. -/
def takeBytes? : Nat → List Char → Option (List Char)
  | 0, _ => some []
  | _ + 1, [] => none
  | count + 1, c :: rest =>
    if c.utf8Size ≤ count + 1 then (takeBytes? (count + 1 - c.utf8Size) rest).map (c :: ·) else none
termination_by structural _ text => text

/-- The bytes from `start` up to `stop`. Refused unless both are character boundaries in increasing
order. -/
def slice? (text : List Char) (start stop : Nat) : Option (List Char) :=
  if start ≤ stop then (dropBytes? start text).bind (takeBytes? (stop - start)) else none

/-- Whether `offset` is a character boundary of the text, its two ends included. -/
def IsBoundary (text : List Char) (offset : Nat) : Prop :=
  ∃ before after, text = before ++ after ∧ byteLength before = offset

end Spellspan.Text
