import Spellspan.Text.CodePoints
import Spellspan.Text.Pieces

/-!
White space in the sense of the Unicode property White_Space, and the words it separates.
-/
set_option autoImplicit false

namespace Spellspan.Text

/-- Closed ranges of the code points with the property White_Space. -/
def whiteSpaceRanges : List (Nat × Nat) := [
  (0x9, 0xd), (0x20, 0x20), (0x85, 0x85), (0xa0, 0xa0), (0x1680, 0x1680), (0x2000, 0x200a),
    (0x2028, 0x2029),
  (0x202f, 0x202f), (0x205f, 0x205f), (0x3000, 0x3000)]

def isWhiteSpace (c : Char) : Bool :=
  inRanges whiteSpaceRanges c

def words (text : List Char) : List (List Char) :=
  (pieces isWhiteSpace text).filter fun piece => !piece.isEmpty

def trim (text : List Char) : List Char :=
  ((text.dropWhile isWhiteSpace).reverse.dropWhile isWhiteSpace).reverse

def wordsOf (text : String) : List String :=
  (words text.toList).map String.ofList

def trimmed (text : String) : String :=
  String.ofList (trim text.toList)

end Spellspan.Text
