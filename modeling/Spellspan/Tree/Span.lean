import Spellspan.Text.Bytes
import Spellspan.Json.Value

/-!
Half-open byte ranges of a text.
-/
set_option autoImplicit false

namespace Spellspan.Tree

/-- The bytes from `start` up to, not including, `stop`. -/
structure Span where
  start : Nat := 0
  stop : Nat := 0
  deriving DecidableEq, Repr

namespace Span

/-- Number of bytes; none when the ends are in the wrong order. -/
def length (span : Span) : Nat :=
  span.stop - span.start

def isEmpty (span : Span) : Bool :=
  span.stop ≤ span.start

/-- Whether the ends of `inner` are in order and within `outer`. -/
def contains (outer inner : Span) : Bool :=
  outer.start ≤ inner.start && inner.stop ≤ outer.stop && inner.start ≤ inner.stop

/-- Whether one span comes before another by start, then by end. -/
def precedes (left right : Span) : Bool :=
  left.start < right.start || (left.start == right.start && left.stop < right.stop)

/-- The text form `start..stop`. -/
def render (span : Span) : String :=
  s!"{span.start}..{span.stop}"

/-- The text under a span. Refused unless its ends are character boundaries in order. -/
def text? (span : Span) (text : List Char) : Option (List Char) :=
  Text.slice? text span.start span.stop

def toJson (span : Span) : Json :=
  .object [("start", .nat span.start), ("end", .nat span.stop)]

end Span
end Spellspan.Tree
