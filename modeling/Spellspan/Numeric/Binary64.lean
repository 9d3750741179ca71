/-!
Double precision numbers as their bit patterns, and correct rounding into them. A finite pattern
below the sign bit is `q * 2 ^ 52 + s` where the value is the significand times a power of two, so
rounding, carrying into the exponent and the subnormal range are one addition.
-/
set_option autoImplicit false

namespace Spellspan.Numeric

/-- A double precision number, given by its bit pattern. -/
structure Binary64 where
  bits : UInt64
  deriving DecidableEq, Repr

namespace Binary64

def signBit : Nat := 0x8000000000000000

/-- The distance of the patterns of a number and of its double. -/
def binade : Nat := 0x10000000000000

/-- Pattern of positive infinity: every finite magnitude lies below it. -/
def infinityBits : Nat := 2047 * binade

/-- The pattern of "not a number" that failed readings give. -/
def nan : Binary64 :=
  ⟨UInt64.ofNat (infinityBits + binade / 2)⟩

def magnitude (x : Binary64) : Nat :=
  x.bits.toNat % signBit

def isNegative (x : Binary64) : Bool :=
  signBit ≤ x.bits.toNat

def isNaN (x : Binary64) : Bool :=
  infinityBits < x.magnitude

def ofMagnitude (negative : Bool) (magnitude : Nat) : Binary64 :=
  ⟨UInt64.ofNat (if negative then signBit + magnitude else magnitude)⟩

/-- The quotient rounded to the nearest natural number, a half to the even neighbour. -/
def roundQuotient (numerator denominator : Nat) : Nat :=
  let quotient := numerator / denominator
  let remainder := numerator % denominator
  if 2 * remainder < denominator then quotient
  else if denominator < 2 * remainder then quotient + 1
  else quotient + quotient % 2

/-- `numerator / (denominator * 2 ^ exponent)` as a fraction of natural numbers. -/
def scaledByPower (numerator denominator : Nat) (exponent : Int) : Nat × Nat :=
  if 0 ≤ exponent then (numerator, denominator * Nat.pow 2 exponent.toNat)
  else (numerator * Nat.pow 2 (-exponent).toNat, denominator)

/-- The magnitude nearest to a positive fraction, ties to even, infinity when it is too large. -/
def roundFraction (numerator denominator : Nat) : Nat :=
  let estimate : Int := (Nat.log2 numerator : Int) - (Nat.log2 denominator : Int)
  let high := max (estimate - 52) (-1074)
  let fraction := scaledByPower numerator denominator high
  let exponent := if fraction.1 / fraction.2 < binade then max (high - 1) (-1074) else high
  let fraction := scaledByPower numerator denominator exponent
  min infinityBits ((exponent + 1074).toNat * binade + roundQuotient fraction.1 fraction.2)

def ofNat (negative : Bool) (value : Nat) : Binary64 :=
  ofMagnitude negative (if value = 0 then 0 else roundFraction value 1)

/-- The number nearest to `digits * 10 ^ exponent`. Exponents far outside the range give zero and
infinity at once. -/
def ofDecimal (negative : Bool) (digits : Nat) (exponent : Int) : Binary64 :=
  let leading : Int := exponent + (Nat.toDigits 10 digits).length
  if digits = 0 || leading < -400 then ofMagnitude negative 0
  else if 400 < leading then ofMagnitude negative infinityBits
  else if 0 ≤ exponent then ofMagnitude negative
    (roundFraction (digits * Nat.pow 10 exponent.toNat) 1)
  else ofMagnitude negative (roundFraction digits (Nat.pow 10 (-exponent).toNat))

def isFinite (x : Binary64) : Bool :=
  x.magnitude < infinityBits

/-- Significand and exponent of a finite number: its magnitude is the first times two to the second.
-/
def decompose (x : Binary64) : Nat × Int :=
  let biased : Nat := x.magnitude / binade
  let fraction := x.magnitude % binade
  if biased = 0 then (fraction, -1074) else (binade + fraction, Int.ofNat biased - 1075)

end Binary64
end Spellspan.Numeric
