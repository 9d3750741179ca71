import Spellspan.Numeric.Binary64

/-!
Decimal numbers read in double precision steps. The first digits give a significand of at most 64
bits, which is rounded and then multiplied or divided by a rounded power of ten. With few digits and
a small exponent the result is the nearest number; in general each step adds a rounding of its own.
-/
set_option autoImplicit false

namespace Spellspan.Numeric

namespace Binary64

/-- The magnitude nearest to `numerator / denominator * 2 ^ exponent`. -/
def roundScaled (numerator denominator : Nat) (exponent : Int) : Nat :=
  if numerator = 0 then 0
  else
    let fraction := scaledByPower numerator denominator (-exponent)
    roundFraction fraction.1 fraction.2

def product (x y : Binary64) : Binary64 :=
  ofMagnitude false (roundScaled (x.decompose.1 * y.decompose.1) 1 (x.decompose.2 + y.decompose.2))

/-- The magnitude of the quotient of two finite numbers, the second of them not zero, rounded once.
-/
def quotient (x y : Binary64) : Binary64 :=
  ofMagnitude false (roundScaled x.decompose.1 y.decompose.1 (x.decompose.2 - y.decompose.2))

def maxPower : Nat := 308

def powerOfTen (exponent : Nat) : Binary64 :=
  ofDecimal false 1 exponent

/-- Multiplies a finite magnitude by a power of ten. A negative exponent is a division by the power,
in two steps if that is not finite; after them nothing is left of a number of 64 bits. -/
def scaleByTen (x : Binary64) (exponent : Int) : Binary64 :=
  if x.magnitude = 0 then x
  else if 0 ≤ exponent then
    if exponent.toNat ≤ maxPower then x.product (powerOfTen exponent.toNat)
    else ofMagnitude false infinityBits
  else
    let power := (-exponent).toNat
    if power ≤ maxPower then x.quotient (powerOfTen power)
    else if power ≤ 2 * maxPower then (x.quotient (powerOfTen maxPower)).quotient
      (powerOfTen (power - maxPower))
    else ofMagnitude false 0

end Binary64

/-- A significand of at most 64 bits from the digits behind it, with the number of digits that are
left out. -/
def significandOf (significand : Nat) : List Char → Nat × Nat
  | [] => (significand, 0)
  | digit :: rest =>
    let next := significand * 10 + (digit.toNat - '0'.toNat)
    if next < UInt64.size then significandOf next rest else (significand, rest.length + 1)

/-- The number that the digits before and behind a point stand for, times a power of ten. -/
def scaledDecimal (negative : Bool) (whole fraction : List Char) (exponent : Int) : Binary64 :=
  let (significand, left) := significandOf 0 whole
  let (significand, leftOfFraction) := significandOf significand fraction
  let shift : Int := (left : Int) + (leftOfFraction : Int) - (fraction.length : Int)
  .ofMagnitude negative ((Binary64.ofNat false significand).scaleByTen (shift + exponent)).magnitude

end Spellspan.Numeric
