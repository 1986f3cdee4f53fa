import ChatRecords.Choice
import ChatRecords.Double.Notation
import ChatRecords.Flags.Basic
import ChatRecords.Json.Basic
import ChatRecords.MessageType
import ChatRecords.Snowflake
import ChatRecords.Text.Quoted

/-!
# Payloads

What a record is decoded from: a JSON value in which some parts may already be in their
decoded form.

## Main definitions

* `Ready`: a part that is already decoded.
* `Payload`: the values.
* `Payload.ofJson`: a JSON value as a payload.
* `Payload.settle`: a payload with one entry for each key.
* `Payload.wire?`: a payload as it is written where its type is not known.
* `Payload.display`: a payload as error texts show it.
* `Payload.unshowable?`: why a payload cannot be shown, if it cannot.

## Design notes

A field for values of any type keeps the parts that are decoded already as they are. The writer then
goes by what each of them is, not by how a field of its own type would be written: an identifier is
a number there, a choice an object with its value, and a flag set has no written form.

How many values can lie within one another while one is shown depends on what the interpreter is
doing already, so it is a parameter. Each value takes one place.
-/

namespace ChatRecords

/-- A part of a payload that is already in its decoded form. -/
inductive Ready where
  | id (value : Snowflake)
  | flags (value : FlagSet)
  /-- A flag of a class, as a mask. -/
  | flag (flagClass : FlagClass) (mask : Nat)
  | messageType (value : MessageType)
  | choice (value : Choice)
deriving DecidableEq

/-- What a record is decoded from. -/
inductive Payload where
  | null
  | bool (value : Bool)
  | integer (value : Int)
  | real (value : Double)
  | string (value : String)
  | array (items : List Payload)
  | object (entries : List (String × Payload))
  | ready (value : Ready)

/-- How error texts show reals: positional for exponents from -4 to 15, and at least two digits
in an exponent. -/
def Double.displayLayout : RealLayout := ⟨-4, 15, 2, "inf", "-inf", "nan"⟩

def Double.display (x : Double) : String := x.render Double.displayLayout

namespace Choice

/-- A choice value as error texts show it. -/
def display (c : Choice) : String :=
  c.kindName ++ "(value=" ++ (match c with
    | .string s => Text.quote s
    | .integer n => toString n
    | .number x => x.display) ++ ")"

/-- The JSON value that a choice value holds. -/
def wire : Choice → Json
  | .string s => .string s
  | .integer n => .integer n
  | .number x => .real x

end Choice

namespace FlagClass

def displayFlag (c : FlagClass) (mask : Nat) : String :=
  "<" ++ c.name ++ ((c.combinationName? mask).map ("." ++ ·)).getD "" ++ ": " ++ toString mask ++ ">"

end FlagClass

/-- Why a value cannot be shown. -/
inductive Unshowable where
  /-- An integer has more digits than the interpreter converts to text. -/
  | tooManyDigits
  /-- Too many values lie within one another. -/
  | tooDeep
deriving DecidableEq

namespace Unshowable

def message : Unshowable → String
  | .tooManyDigits => "Exceeds the limit (" ++ toString Text.digitLimit ++
      " digits) for integer string conversion; use sys.set_int_max_str_digits() to increase the limit"
  | .tooDeep => "maximum recursion depth exceeded while getting the repr of an object"

/-- The exception that comes out of the attempt. -/
def exception : Unshowable → String
  | .tooManyDigits => "ValueError"
  | .tooDeep => "RecursionError"

/-- Why an integer cannot be shown, if it cannot. Its sign is no digit. -/
def ofInteger? (n : Int) : Option Unshowable :=
  if Text.digitLimit < (Nat.toDigits 10 n.natAbs).length then some .tooManyDigits else none

end Unshowable

namespace Ready

/-- A decoded part as error texts show it. -/
def display : Ready → String
  | .id x => x.display
  | .flags s => s.display
  | .flag c mask => c.displayFlag mask
  | .messageType t => t.display
  | .choice c => c.display

/-- Why a decoded part cannot be shown, if it cannot. -/
def unshowable? : Ready → Option Unshowable
  | .flag _ mask => Unshowable.ofInteger? mask
  | .choice (.integer n) => Unshowable.ofInteger? n
  | _ => none

end Ready

namespace Payload

mutual

def ofJson : Json → Payload
  | .null => .null
  | .bool b => .bool b
  | .integer n => .integer n
  | .real x => .real x
  | .string s => .string s
  | .array items => .array (ofItems items)
  | .object entries => .object (ofEntries entries)

def ofItems : List Json → List Payload
  | [] => []
  | v :: rest => ofJson v :: ofItems rest

/-- The entries of an object as those of a payload. -/
def ofEntries : List (String × Json) → List (String × Payload)
  | [] => []
  | (k, v) :: rest => (k, ofJson v) :: ofEntries rest

end

mutual

/-- The payload with one entry for each key in every object. -/
def settle : Payload → Payload
  | .array items => .array (settleItems items)
  | .object entries => .object (Entries.settle (settleEntries entries))
  | p => p

def settleItems : List Payload → List Payload
  | [] => []
  | p :: rest => settle p :: settleItems rest

def settleEntries : List (String × Payload) → List (String × Payload)
  | [] => []
  | (k, p) :: rest => (k, settle p) :: settleEntries rest

end

mutual

/-- What a payload is written as where its type is not known, if it can be written. -/
def wire? : Payload → Option Json
  | .null => some .null
  | .bool b => some (.bool b)
  | .integer n => some (.integer n)
  | .real x => some (.real x)
  | .string s => some (.string s)
  | .array items => (wireItems? items).map Json.array
  | .object entries => (wireEntries? entries).map Json.object
  | .ready (.id x) => some (.integer x.raw)
  | .ready (.flags _) => none
  | .ready (.flag _ mask) => some (.integer mask)
  | .ready (.messageType t) => some (.integer t.value)
  | .ready (.choice c) => some (.object [("value", c.wire)])

def wireItems? : List Payload → Option (List Json)
  | [] => some []
  | p :: rest => (wire? p).bind fun j => (wireItems? rest).map (j :: ·)

def wireEntries? : List (String × Payload) → Option (List (String × Json))
  | [] => some []
  | (k, p) :: rest => (wire? p).bind fun j => (wireEntries? rest).map ((k, j) :: ·)

end

mutual

def display : Payload → String
  | .null => "None"
  | .bool true => "True"
  | .bool false => "False"
  | .integer n => toString n
  | .real x => x.display
  | .string s => Text.quote s
  | .array items => "[" ++ ", ".intercalate (displayItems items) ++ "]"
  | .object entries =>
    "\x7b" ++ ", ".intercalate ((Entries.settle (displayEntries entries)).map fun e =>
      Text.quote e.1 ++ ": " ++ e.2) ++ "\x7d"
  | .ready v => v.display

/-- The items of an array as they are shown. -/
def displayItems : List Payload → List String
  | [] => []
  | v :: rest => display v :: displayItems rest

/-- The keys of an object with their values as they are shown. -/
def displayEntries : List (String × Payload) → List (String × String)
  | [] => []
  | (k, v) :: rest => (k, display v) :: displayEntries rest

end

mutual

/-- Why a payload cannot be shown where some number of values can lie within one another, if it
cannot. The first reason that is met counts. -/
def unshowable? : (room : Nat) → Payload → Option Unshowable
  | 0, _ => some .tooDeep
  | _ + 1, .integer n => Unshowable.ofInteger? n
  | room + 1, .array items => unshowableItem? room items
  | room + 1, .object entries => (Entries.settle (unshowableEntries room entries)).findSome? (·.2)
  | _ + 1, .ready v => v.unshowable?
  | _ + 1, _ => none

def unshowableItem? (room : Nat) : List Payload → Option Unshowable
  | [] => none
  | p :: rest => (unshowable? room p).or (unshowableItem? room rest)

/-- The keys of an object with why their values cannot be shown. -/
def unshowableEntries (room : Nat) : List (String × Payload) → List (String × Option Unshowable)
  | [] => []
  | (k, p) :: rest => (k, unshowable? room p) :: unshowableEntries room rest

end

mutual

def depth : Payload → Nat
  | .array items => depthItems items + 1
  | .object entries => depthEntries entries + 1
  | _ => 0

def depthItems : List Payload → Nat
  | [] => 0
  | v :: rest => max (depth v) (depthItems rest)

/-- The greatest depth of the values of some entries. -/
def depthEntries : List (String × Payload) → Nat
  | [] => 0
  | (_, v) :: rest => max (depth v) (depthEntries rest)

end

/-- The items of a list. A flag set is the list of its flags. -/
def items? : Payload → Option (List Payload)
  | .array items => some items
  | .ready (.flags s) => some (s.toList.map fun flag => .ready (.flag s.flagClass flag.2))
  | _ => none

/-- The integer that a payload is. Identifiers, flags and kinds of message are integers too. -/
def integer? : Payload → Option Int
  | .integer n => some n
  | .ready (.id x) => some x.raw
  | .ready (.flag _ mask) => some mask
  | .ready (.messageType t) => some t.value
  | _ => none

/-- The text that a payload is. Flags and kinds of message are the texts of their numbers. -/
def text? : Payload → Option String
  | .string s => some s
  | .ready (.flag _ mask) => some (toString mask)
  | .ready (.messageType t) => some (toString t.value)
  | _ => none

end Payload
end ChatRecords
