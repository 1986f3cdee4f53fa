import ChatRecords.Power

/-!
# Binary floating-point numbers

The 64-bit binary format with exact arithmetic on natural numbers. Every finite
number is a multiple of the unit `2 ^ -1074`: a significand below `2 ^ 53` times a
power of two of units.

## Main definitions

* `Magnitude`: a canonical significand and scale, so that equal numbers are equal terms.
* `Double`: a signed magnitude, an infinity, or "not a number".
* `Double.round`: the double nearest to a ratio of units, ties to the even significand.
* `Double.ofDecimal`: the double nearest to a decimal number.

## Design notes

Counting in units keeps scales natural: `value = significand * 2 ^ scale` units. A ratio
is rounded by choosing the scale from the number of bits of its integer part.
-/

namespace ChatRecords

/-- The nearest natural number to `num / den`, and the even one of two that are equally near. -/
def roundHalfEven (num den : Nat) : Nat :=
  let quotient := num / den
  let remainder := num % den
  if 2 * remainder < den then quotient
  else if den < 2 * remainder then quotient + 1
  else if quotient % 2 = 0 then quotient else quotient + 1

/-- A significand and a scale in the one form the format has for them: 53 bits at most, and
53 bits exactly unless the scale is the smallest. -/
def IsCanonical (significand scale : Nat) : Prop :=
  significand < 2 ^ 53 ∧ scale ≤ 2045 ∧ (scale = 0 ∨ 2 ^ 52 ≤ significand)

instance (significand scale : Nat) : Decidable (IsCanonical significand scale) := by
  unfold IsCanonical; infer_instance

/-- The size of a finite double: `significand * 2 ^ scale` units. -/
structure Magnitude where
  significand : Nat
  /-- The power of two, in units, that the significand is multiplied by. -/
  scale : Nat
  /-- The pair is the one form of its value. -/
  canonical : IsCanonical significand scale
deriving DecidableEq

namespace Magnitude

/-- The magnitude as a whole number of units. -/
def units (x : Magnitude) : Nat := x.significand * 2 ^ x.scale

def zero : Magnitude := ⟨0, 0, by decide⟩

end Magnitude

/-- A number of the 64-bit binary format. -/
inductive Double where
  /-- A finite number; zero has two signs. -/
  | finite (negative : Bool) (magnitude : Magnitude)
  | infinite (negative : Bool)
  | nan
deriving DecidableEq

/-- The decimal number `digits * 10 ^ exponent`. -/
structure Decimal where
  /-- The digits, read as a natural number. -/
  digits : Nat
  /-- The power of ten they are multiplied by. -/
  exponent : Int
deriving DecidableEq

namespace Double

def unitsPerOne : Nat := 2 ^ 1074

/-- The double with a given significand and scale, or an infinity if there is none. -/
def pack (negative : Bool) (significand scale : Nat) : Double :=
  if h : IsCanonical significand scale then .finite negative ⟨significand, scale, h⟩
  else .infinite negative

/-- The double nearest to `num / den` units, ties to the even significand. -/
def round (negative : Bool) (num den : Nat) : Double :=
  let scale := (num / den).log2 - 52
  let significand := roundHalfEven num (den * 2 ^ scale)
  if significand = 2 ^ 53 then pack negative (2 ^ 52) (scale + 1)
  else pack negative significand scale

def ofRatio (negative : Bool) (num den : Nat) : Double :=
  round negative (num * unitsPerOne) den

def ofInt (n : Int) : Double := ofRatio (n < 0) n.natAbs 1

/-- The double nearest to a decimal number. Numbers far outside the range of the format are
told by their exponents alone. -/
def ofDecimal (negative : Bool) (d : Decimal) : Double :=
  if d.digits = 0 then .finite negative .zero
  else if 310 < d.exponent then .infinite negative
  else if d.exponent + (d.digits.log2 / 3 + 1 : Nat) < -330 then .finite negative .zero
  else ofRatio negative (d.digits * 10 ^ d.exponent.toNat) (10 ^ (-d.exponent).toNat)

def zero : Double := .finite false .zero

def one : Double := ofInt 1

/-- Whether the number is neither infinite nor "not a number". -/
def isFinite : Double → Bool
  | .finite .. => true
  | _ => false

def isNaN : Double → Bool
  | .nan => true
  | _ => false

/-- The signed number of units of a finite double. -/
def units? : Double → Option Int
  | .finite negative x => some (if negative then -(x.units : Int) else x.units)
  | _ => none

/-- The integer that a finite double with no fractional part is. -/
def toInt? (x : Double) : Option Int :=
  match x.units? with
  | some n => if n % unitsPerOne = 0 then some (n / unitsPerOne) else none
  | none => none

end Double
end ChatRecords
