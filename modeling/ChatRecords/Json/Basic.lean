import ChatRecords.Double.Basic
import ChatRecords.Entries

/-!
# JSON values

Integers and real numbers are kept apart: a number written with a point or an exponent is
real, any other is an integer of any size. Objects are entries in the order written.

## Main definitions

* `Json`: the values.
* `Json.settle`: the value with one entry per key in every object.
* `Json.get?`, `Json.text?`, `Json.integer?`, `Json.truth?`, `Json.items`, `Json.entries`: what a
  value holds.
-/

namespace ChatRecords

/-- A JSON value. -/
inductive Json where
  | null
  | bool (value : Bool)
  /-- A number written without a point and without an exponent. -/
  | integer (value : Int)
  /-- A number written with a point or an exponent. -/
  | real (value : Double)
  | string (value : String)
  | array (items : List Json)
  /-- An object, as the entries written; a key may come more than once. -/
  | object (entries : List (String × Json))

namespace Json

mutual

/-- The value with one entry per key in every object: a repeated key keeps its first place
and takes its last value. -/
def settle : Json → Json
  | .array items => .array (settleItems items)
  | .object entries => .object (Entries.settle (settleEntries entries))
  | v => v

def settleItems : List Json → List Json
  | [] => []
  | v :: rest => settle v :: settleItems rest

def settleEntries : List (String × Json) → List (String × Json)
  | [] => []
  | (k, v) :: rest => (k, settle v) :: settleEntries rest

end

/-- The value under a key, if the value is an object with that key. -/
def get? (key : String) : Json → Option Json
  | .object entries => Entries.get? key entries
  | _ => none

def text? : Json → Option String
  | .string s => some s
  | _ => none

/-- The number, if it is written without a point and without an exponent. -/
def integer? : Json → Option Int
  | .integer n => some n
  | _ => none

def truth? : Json → Option Bool
  | .bool b => some b
  | _ => none

/-- The items of an array; other values have none. -/
def items : Json → List Json
  | .array vs => vs
  | _ => []

/-- The entries of an object, one for each key; other values have none. -/
def entries : Json → List (String × Json)
  | .object es => Entries.settle es
  | _ => []

end Json
end ChatRecords
