import Spellspan.Numeric.Reading
import Spellspan.Text.Bytes
import Spellspan.Tree.Node

/-!
The values of literals, read from their source text.
-/
set_option autoImplicit false

namespace Spellspan.Parse

open Numeric (Binary64 decimal? natural?)
open Spellspan.Tree (NodeValue)

/-- The number of at most 64 bits after a two letter mark of a base. -/
def based? (mark : Char) (base : Nat) : List Char → Option Binary64
  | '0' :: c :: digits =>
    if c = mark then ((natural? base digits).filter fun value => value < UInt64.size).map
      (Binary64.ofNat false) else none
  | _ => none

def lowerCase (text : List Char) : List Char :=
  text.map fun c => if 'A' ≤ c ∧ c ≤ 'Z' then Char.ofNat (c.toNat + 32) else c

/-- The value of a numeric literal. Separators are left out; a final `n` marks a big integer; what
is no number of 64 bits in its base is undefined. -/
def numberValue (raw : List Char) : NodeValue :=
  let digits := raw.filter (· != '_')
  if digits.getLast? = some 'n' then .bigInt (String.ofList digits.dropLast)
  else
    let lower := lowerCase digits
    let value := (based? 'x' 16 lower).or
      ((based? 'o' 8 lower).or ((based? 'b' 2 lower).or (decimal? false lower)))
    .number (value.getD Binary64.nan)

/-- The text of a string literal between its quotes; empty when there is no room for two. -/
def stringBody (raw : List Char) : List Char :=
  (Text.slice? raw 1 (Text.byteLength raw - 1)).getD []

def commentParts (text : List Char) : String × List Char :=
  match text with
  | '/' :: '/' :: rest => ("Line", rest)
  | '/' :: '*' :: rest =>
    match rest.reverse with
    | '/' :: '*' :: inner => ("Block", inner.reverse)
    | _ => ("Line", text)
  | _ => ("Line", text)

def privateName (text : List Char) : List Char :=
  text.dropWhile (· == '#')

end Spellspan.Parse
