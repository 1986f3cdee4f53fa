import ChatRecords.Double.Basic

/-!
# Shortest decimal that reads back

Of all decimal numbers that read back as a given double, the one with the fewest digits,
and of those the nearest to the double.

## Main definitions

* `Magnitude.neighbour?`: the better of the two points next to a magnitude on the grid of
  decimals with a given number of digits, if one reads back.
* `Magnitude.shortest`: the first such point for 1, 2, …, 17 digits.

## Design notes

Each grid has one point at or below the magnitude and one above it. A point is taken only
if it reads back, so that the result does so by construction; a magnitude for which no
grid had a point would be written out exactly.
-/

namespace ChatRecords

namespace Decimal

/-- The decimal without the zeros at the end of its digits. The fuel is a bound on their
number. -/
def dropZeros : Nat → Decimal → Decimal
  | fuel + 1, d =>
    if d.digits ≠ 0 ∧ d.digits % 10 = 0 then dropZeros fuel ⟨d.digits / 10, d.exponent + 1⟩ else d
  | 0, d => d

end Decimal

namespace Magnitude

/-- Whether `10 ^ k` is at most the magnitude. -/
def reaches (x : Magnitude) (k : Int) : Bool :=
  Double.unitsPerOne * 10 ^ k.toNat ≤ x.units * 10 ^ (-k).toNat

/-- The exponent of the first decimal digit, for a magnitude other than zero: the largest `k`
with `10 ^ k` at most the magnitude. The number of bits gives it up to one. -/
def decimalOrder (x : Magnitude) : Int :=
  let k := (((x.units.log2 : Int) - 1074) * 30103) / 100000
  if x.reaches (k + 1) then k + 1 else if x.reaches k then k else k - 1

/-- Whether a decimal reads back as the magnitude. -/
def readsBack (x : Magnitude) (d : Decimal) : Bool :=
  Double.ofDecimal false d = .finite false x

/-- The point next to the magnitude, on the grid `10 ^ exponent`, that reads back: the nearer
one if both do, and the even one if both are equally near. -/
def neighbour? (x : Magnitude) (exponent : Int) : Option Decimal :=
  let num := x.units * 10 ^ (-exponent).toNat
  let den := Double.unitsPerOne * 10 ^ exponent.toNat
  let low : Decimal := ⟨num / den, exponent⟩
  let high : Decimal := ⟨num / den + 1, exponent⟩
  let nearer := if roundHalfEven num den = low.digits then low else high
  let farther := if roundHalfEven num den = low.digits then high else low
  if x.readsBack nearer then some nearer
  else if x.readsBack farther then some farther
  else none

def exactDecimal (x : Magnitude) : Decimal := ⟨x.units * 5 ^ 1074, -1074⟩

/-- The shortest decimal that reads back as the magnitude, without zeros at its end. -/
def shortest (x : Magnitude) : Decimal :=
  if x.significand = 0 then ⟨0, 0⟩
  else
    let order := x.decimalOrder
    match (List.range 17).findSome? fun (n : Nat) => x.neighbour? (order - n) with
    | some d => d.dropZeros 17
    | none => x.exactDecimal

end Magnitude
end ChatRecords
