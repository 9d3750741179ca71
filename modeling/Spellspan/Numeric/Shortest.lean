import Spellspan.Numeric.Binary64

/-!
The shortest decimal that reads back as a given double precision number. For one, two, ... digits
the two neighbours of the value on that decimal grid are tested against the interval of reals that
round to it; the first grid with a hit wins, and of two hits the nearer one.
-/
set_option autoImplicit false

namespace Spellspan.Numeric

/-- A positive fraction `numerator / denominator`. -/
structure Fraction where
  numerator : Nat
  denominator : Nat

/-- `value / 10 ^ power`. -/
def Fraction.overTen (value : Fraction) (power : Int) : Fraction :=
  if 0 ≤ power then { value with denominator := value.denominator * Nat.pow 10 power.toNat }
  else { value with numerator := value.numerator * Nat.pow 10 (-power).toNat }

/-- Digits with the power of ten of the last one. -/
structure Decimal where
  digits : Nat
  exponent : Int
  deriving Repr

/-- The reals that round to a number, with the number itself: all three over one denominator. -/
structure RoundingInterval where
  low : Nat
  value : Nat
  high : Nat
  denominator : Nat
  closed : Bool

/-- The rounding interval of a finite, nonzero number. Its lower half is narrower where the exponent
changes. -/
def RoundingInterval.of (x : Binary64) : RoundingInterval :=
  let (significand, exponent) := x.decompose
  let narrow := significand == Binary64.binade && decide (-1074 < exponent)
  let (scale, denominator) := if 0 ≤ exponent then (Nat.pow 2 exponent.toNat, 4)
    else (1, 4 * Nat.pow 2 (-exponent).toNat)
  { low := (4 * significand - (if narrow then 1 else 2)) * scale
    value := 4 * significand * scale
    high := (4 * significand + 2) * scale
    denominator
    closed := significand % 2 == 0 }

/-- Whether `digits * 10 ^ power` lies in the interval. -/
def RoundingInterval.contains (interval : RoundingInterval) (digits : Nat) (power : Int) : Bool :=
  let (left, factor) := if 0 ≤ power then (digits * Nat.pow 10 power.toNat, 1)
    else (digits, Nat.pow 10 (-power).toNat)
  let scaled := left * interval.denominator
  if interval.closed then interval.low * factor ≤ scaled && scaled ≤ interval.high * factor
  else interval.low * factor < scaled && scaled < interval.high * factor

/-- The power of ten of the leading digit of a positive fraction, searched downwards from `power`.
-/
def leadingPower (value : Fraction) : Nat → Int → Int
  | 0, power => power
  | fuel + 1, power =>
    let scaled := value.overTen power
    if scaled.denominator ≤ scaled.numerator then power else leadingPower value fuel (power - 1)

/-- The nearer of the two neighbours on the grid of `10 ^ power` that lie in the interval. -/
def RoundingInterval.candidate? (interval : RoundingInterval) (power : Int) : Option Nat :=
  let scaled := Fraction.overTen ⟨interval.value, interval.denominator⟩ power
  let below := scaled.numerator / scaled.denominator
  let remainder := scaled.numerator % scaled.denominator
  let lowHit := interval.contains below power && 0 < below
  let highHit := interval.contains (below + 1) power
  if lowHit && highHit then
    if 2 * remainder < scaled.denominator || (2 * remainder == scaled.denominator && below % 2 == 0)
      then some below
    else some (below + 1)
  else if lowHit then some below
  else if highHit then some (below + 1)
  else none

/-- Tries grids with ever more digits, starting with the power of the leading digit. -/
def RoundingInterval.shortest (interval : RoundingInterval) : Nat → Int → Decimal
  | 0, power => ⟨0, power⟩
  | fuel + 1, power =>
    match interval.candidate? power with
    | some digits => ⟨digits, power⟩
    | none => interval.shortest fuel (power - 1)

def Decimal.stripZeros : Nat → Decimal → Decimal
  | 0, decimal => decimal
  | fuel + 1, decimal =>
    if decimal.digits != 0 && decimal.digits % 10 == 0 then
      Decimal.stripZeros fuel ⟨decimal.digits / 10, decimal.exponent + 1⟩
    else decimal

/-- The shortest decimal of a finite, nonzero number; its last digit is not zero. -/
def Binary64.shortest (x : Binary64) : Decimal :=
  let interval := RoundingInterval.of x
  let lead := leadingPower ⟨interval.value, interval.denominator⟩ 700 310
  (interval.shortest 18 lead).stripZeros 20

end Spellspan.Numeric
