/-!
Membership of a character in a table of code point ranges. The property tables beside this module
are lists of closed ranges in increasing order.
-/
set_option autoImplicit false

namespace Spellspan.Text

def inRanges (ranges : List (Nat × Nat)) (c : Char) : Bool :=
  ranges.any fun range => range.1 ≤ c.toNat && c.toNat ≤ range.2

end Spellspan.Text
