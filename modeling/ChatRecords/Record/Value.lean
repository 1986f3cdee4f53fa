import ChatRecords.Calendar.Moment
import ChatRecords.Choice
import ChatRecords.Enumeration.Basic
import ChatRecords.Flags.Basic
import ChatRecords.MessageType
import ChatRecords.Payload
import ChatRecords.Record.Kind
import ChatRecords.Snowflake

/-!
# Values of record fields

What a field of a decoded record holds. A record is its kind and the values of all its fields,
in the order of its schema.

## Main definitions

* `Value`: what a field holds.
* `Record`: a decoded record, with `Record.get` and `Record.set`.
-/

namespace ChatRecords

/-- The key of an entry of a map. -/
inductive MapKey where
  | text (value : String)
  | id (value : Snowflake)
  | code (value : Code)
deriving DecidableEq

/-- What a field of a record holds. -/
inductive Value where
  /-- Nothing: the field was absent, or `null`. -/
  | null
  | text (value : String)
  | integer (value : Int)
  | real (value : Double)
  | truth (value : Bool)
  | id (value : Snowflake)
  | flags (value : FlagSet)
  | choice (value : Choice)
  | messageType (value : MessageType)
  | code (value : Code)
  | moment (value : Moment)
  | list (items : List Value)
  | map (entries : List (MapKey × Value))
  /-- A record: its kind and the values of its fields. -/
  | record (kind : RecordKind) (fields : List (String × Value))
  /-- A value of any type, as it was given. -/
  | any (value : Payload)

instance : Inhabited Value := ⟨.null⟩

/-- A decoded record. -/
structure Record where
  kind : RecordKind
  /-- The values of the fields, in the order of the schema. -/
  fields : List (String × Value)

namespace Value

def record? : Value → Option Record
  | .record kind fields => some ⟨kind, fields⟩
  | _ => none

def text? : Value → Option String
  | .text s => some s
  | _ => none

def id? : Value → Option Snowflake
  | .id x => some x
  | _ => none

def integer? : Value → Option Int
  | .integer n => some n
  | _ => none

def moment? : Value → Option Moment
  | .moment m => some m
  | _ => none

def flags? : Value → Option FlagSet
  | .flags s | .any (.ready (.flags s)) => some s
  | _ => none

/-- The kind of message that the value is. -/
def messageType? : Value → Option MessageType
  | .messageType t => some t
  | _ => none

def code? : Value → Option Code
  | .code c => some c
  | _ => none

/-- The items of the list that the value is; other values have none. -/
def items : Value → List Value
  | .list vs => vs
  | _ => []

/-- The records in the list that the value is. -/
def records (v : Value) : List Record := v.items.filterMap record?

/-- Whether the value is the truth value `true`. -/
def isTrue : Value → Bool
  | .truth b => b
  | _ => false

def isNull : Value → Bool
  | .null => true
  | _ => false

/-- The value that a text, if there is one, is. -/
def ofText? (s : Option String) : Value := (s.map Value.text).getD .null

end Value

namespace Record

/-- The record as the value of a field. -/
def toValue (r : Record) : Value := .record r.kind r.fields

/-- The value of a field, and nothing for a field that the record lacks. -/
def get (r : Record) (name : String) : Value := (r.fields.lookup name).getD .null

/-- The record with a field set. A field that it lacks is not added. -/
def set (r : Record) (name : String) (v : Value) : Record :=
  ⟨r.kind, r.fields.map fun f => if f.1 = name then (name, v) else f⟩

@[simp] theorem set_kind (r : Record) (name : String) (v : Value) : (r.set name v).kind = r.kind :=
  rfl

/-- Setting a field neither adds nor removes one. -/
theorem names_set (r : Record) (name : String) (v : Value) :
    (r.set name v).fields.map Prod.fst = r.fields.map Prod.fst := by
  rw [set, List.map_map]
  refine List.map_congr_left fun f _ => ?_
  by_cases hn : f.1 = name <;> simp [hn]

/-- A field that was set holds what it was set to, if the record has it. -/
theorem get_set_self (r : Record) (name : String) (v : Value)
    (h : name ∈ r.fields.map Prod.fst) : (r.set name v).get name = v := by
  obtain ⟨kind, fields⟩ := r
  simp only [get, set]
  induction fields with
  | nil => simp at h
  | cons f rest ih =>
    obtain ⟨name', v'⟩ := f
    simp only [List.map_cons, List.mem_cons] at h ⊢
    by_cases hn : name' = name
    · simp [hn]
    · have hmem : name ∈ rest.map Prod.fst := by
        cases h with
        | inl h => exact absurd h.symm hn
        | inr h => exact h
      have : (name == name') = false := by simpa using Ne.symm hn
      simpa [hn, List.lookup_cons, this] using ih hmem

/-- A field holds what it held if another is set. -/
theorem get_set_of_ne (r : Record) {name other : String} (v : Value) (h : other ≠ name) :
    (r.set name v).get other = r.get other := by
  obtain ⟨kind, fields⟩ := r
  simp only [get, set]
  induction fields with
  | nil => rfl
  | cons f rest ih =>
    obtain ⟨name', v'⟩ := f
    simp only [List.map_cons]
    by_cases hn : name' = name
    · have : (other == name) = false := by simpa using h
      simpa [hn, List.lookup_cons, this] using ih
    · by_cases ho : other = name'
      · simp [hn, ho]
      · have : (other == name') = false := by simpa using ho
        simpa [hn, List.lookup_cons, this] using ih

end Record
end ChatRecords
