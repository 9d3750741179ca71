/-!
Spans of time with nanosecond resolution, and their text: the largest unit that leaves a whole part,
and the fraction without trailing zeros.
-/
set_option autoImplicit false

namespace Spellspan.Text

/-- A span of time. -/
structure Duration where
  nanoseconds : Nat
  deriving DecidableEq, Repr

namespace Duration

def ofMilliseconds (count : Nat) : Duration :=
  ⟨count * 1000000⟩

def ofParts (seconds nanoseconds : Nat) : Duration :=
  ⟨seconds * 1000000000 + nanoseconds⟩

/-- `value / 10 ^ places` in decimal digits, without trailing zeros in the fraction. -/
def decimal (value places : Nat) : String :=
  let unit := Nat.pow 10 places
  let digits := Nat.toDigits 10 (value % unit)
  let padded := List.replicate (places - digits.length) '0' ++ digits
  let fraction := (padded.reverse.dropWhile (· == '0')).reverse
  let whole := toString (value / unit)
  if value % unit = 0 then whole else whole ++ "." ++ String.ofList fraction

/-- The text form, such as `1.5s`, `30ms`, `2µs` or `0ns`. -/
def render (duration : Duration) : String :=
  let n := duration.nanoseconds
  if 1000000000 ≤ n then decimal n 9 ++ "s"
  else if 1000000 ≤ n then decimal n 6 ++ "ms"
  else if 1000 ≤ n then decimal n 3 ++ "µs"
  else decimal n 0 ++ "ns"

end Duration
end Spellspan.Text
