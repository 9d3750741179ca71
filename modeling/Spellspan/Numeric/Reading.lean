import Spellspan.Numeric.Binary64

/-!
Reading numbers from digits: natural numbers in a base up to sixteen, and decimal fractions with an
exponent.
-/
set_option autoImplicit false

namespace Spellspan.Numeric

def digitValue? (c : Char) : Option Nat :=
  if '0' ≤ c ∧ c ≤ '9' then some (c.toNat - '0'.toNat)
  else if 'a' ≤ c ∧ c ≤ 'f' then some (c.toNat - 'a'.toNat + 10)
  else if 'A' ≤ c ∧ c ≤ 'F' then some (c.toNat - 'A'.toNat + 10)
  else none

def readDigits? (base : Nat) : Nat → List Char → Option Nat
  | value, [] => some value
  | value, c :: rest =>
    match digitValue? c with
    | some digit => if digit < base then readDigits? base (value * base + digit) rest else none
    | none => none

def natural? (base : Nat) (digits : List Char) : Option Nat :=
  if digits.isEmpty then none else readDigits? base 0 digits

def exponent? : List Char → Option Int
  | '-' :: digits => (natural? 10 digits).map fun value => -Int.ofNat value
  | '+' :: digits => (natural? 10 digits).map Int.ofNat
  | digits => (natural? 10 digits).map Int.ofNat

/-- A decimal number: digits with an optional point among or around them, and an optional exponent.
-/
def decimal? (negative : Bool) (text : List Char) : Option Binary64 := do
  let mantissa := text.takeWhile fun c => c != 'e' && c != 'E'
  let exponent ← match text.drop mantissa.length with
    | [] => some 0
    | _ :: rest => exponent? rest
  let whole := mantissa.takeWhile (· != '.')
  let fraction := mantissa.drop (whole.length + 1)
  let digits ← natural? 10 (whole ++ fraction)
  some (.ofDecimal negative digits (exponent - fraction.length))

end Spellspan.Numeric
