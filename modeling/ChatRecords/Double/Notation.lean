import ChatRecords.Double.Shortest

/-!
# Decimal notation of doubles

A layout says which exponents are written positionally, how an exponent is written and
what stands for the values that are not finite. The digits are always the shortest that
read back.

## Main definitions

* `RealLayout`: the decisions of a format.
* `Double.render`: a double in a layout.
-/

namespace ChatRecords

/-- How a format writes doubles. -/
structure RealLayout where
  /-- The smallest exponent of the first digit that is written positionally. -/
  lowestPositional : Int
  /-- The largest exponent of the first digit that is written positionally. -/
  highestPositional : Int
  /-- The least number of digits of an exponent. -/
  exponentWidth : Nat
  infinity : String
  negativeInfinity : String
  nan : String

namespace RealLayout

/-- Digits with their point in place: at least one digit stands on either side of it. -/
def positional (digits : List Char) (order : Int) : List Char :=
  if order < 0 then '0' :: '.' :: (List.replicate (-order - 1).toNat '0' ++ digits)
  else
    let whole := order.toNat + 1
    if digits.length ≤ whole then
      digits ++ List.replicate (whole - digits.length) '0' ++ ['.', '0']
    else digits.take whole ++ '.' :: digits.drop whole

/-- The sign and the digits of an exponent. -/
def exponentText (layout : RealLayout) (order : Int) : List Char :=
  let digits := Nat.toDigits 10 order.natAbs
  (if order < 0 then '-' else '+') ::
    (List.replicate (layout.exponentWidth - digits.length) '0' ++ digits)

/-- Digits with a point after the first and an exponent. -/
def scientific (layout : RealLayout) (digits : List Char) (order : Int) : List Char :=
  let mantissa := match digits with
    | [] => []
    | [d] => [d]
    | d :: rest => d :: '.' :: rest
  mantissa ++ 'e' :: layout.exponentText order

def magnitude (layout : RealLayout) (x : Magnitude) : List Char :=
  let d := x.shortest
  let digits := Nat.toDigits 10 d.digits
  let order := d.exponent + digits.length - 1
  if layout.lowestPositional ≤ order ∧ order ≤ layout.highestPositional then
    positional digits order
  else layout.scientific digits order

end RealLayout

def Double.render (layout : RealLayout) : Double → String
  | .finite negative x =>
    String.ofList ((if negative then ['-'] else []) ++ layout.magnitude x)
  | .infinite negative => if negative then layout.negativeInfinity else layout.infinity
  | .nan => layout.nan

end ChatRecords
