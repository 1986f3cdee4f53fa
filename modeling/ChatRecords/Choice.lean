import ChatRecords.Double.Arithmetic

/-!
# Choice values

The value that an option of a command can be set to: a text, an integer or a real number.
The wire tells the three apart by the form of the JSON value alone.

## Main definitions

* `Choice`: the three kinds of value.
* `Choice.FitsInteger`: the integers that a choice can hold.
-/

namespace ChatRecords

/-- A value that an option of a command can be set to. -/
inductive Choice where
  | string (value : String)
  | integer (value : Int)
  | number (value : Double)
deriving DecidableEq

namespace Choice

/-- Whether an integer fits in 64 bits with a sign. -/
def FitsInteger (n : Int) : Prop := -(2 ^ 63 : Int) ≤ n ∧ n < (2 ^ 63 : Int)

instance (n : Int) : Decidable (FitsInteger n) := by unfold FitsInteger; infer_instance

def kindName : Choice → String
  | .string _ => "StringValue"
  | .integer _ => "IntegerValue"
  | .number _ => "NumberValue"

end Choice
end ChatRecords
