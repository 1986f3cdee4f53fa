import ChatRecords.Double.Basic

/-!
# Sums, differences and order of doubles

Each operation is the exact result correctly rounded. Comparison is that of the numbers:
the two zeros are equal, and "not a number" is unrelated to everything.

## Main definitions

* `Double.add`, `Double.sub`, `Double.neg`: rounded arithmetic.
* `Double.le`, `Double.lt`, `Double.equal`: the numeric order.
-/

namespace ChatRecords
namespace Double

def neg : Double → Double
  | .finite negative x => .finite (!negative) x
  | .infinite negative => .infinite (!negative)
  | .nan => .nan

/-- The sum, correctly rounded. A sum that is exactly zero is negative only if both numbers
are. -/
def add : Double → Double → Double
  | .nan, _ | _, .nan => .nan
  | .infinite a, .infinite b => if a = b then .infinite a else .nan
  | .infinite a, .finite .. | .finite .., .infinite a => .infinite a
  | .finite a x, .finite b y =>
    let sum : Int := (if a then -(x.units : Int) else x.units) + (if b then -(y.units : Int) else y.units)
    if sum = 0 then .finite (a && b) .zero else round (sum < 0) sum.natAbs 1

def sub (x y : Double) : Double := add x (neg y)

def le : Double → Double → Bool
  | .nan, _ | _, .nan => false
  | .infinite a, .infinite b => a || !b
  | .infinite a, .finite .. => a
  | .finite .., .infinite b => !b
  | .finite a x, .finite b y =>
    (if a then -(x.units : Int) else x.units) ≤ (if b then -(y.units : Int) else y.units)

def lt (x y : Double) : Bool := le x y && !le y x

def equal (x y : Double) : Bool := le x y && le y x

instance : Zero Double := ⟨zero⟩
instance : Add Double := ⟨add⟩
instance : Sub Double := ⟨sub⟩
instance : Neg Double := ⟨neg⟩
instance : LE Double := ⟨fun x y => le x y = true⟩
instance : LT Double := ⟨fun x y => lt x y = true⟩
instance (x y : Double) : Decidable (x ≤ y) := inferInstanceAs (Decidable (le x y = true))
instance (x y : Double) : Decidable (x < y) := inferInstanceAs (Decidable (lt x y = true))

end Double
end ChatRecords
