import ChatRecords.Enumeration.Catalog
import ChatRecords.Flags.Catalog
import ChatRecords.Record.Value

/-!
# Schemas

The shape of a record as data: its fields in order, each with the type of its values and the
value it has when the payload lacks it.

## Main definitions

* `FieldType`: the types of values.
* `Field`: a field, with `Field.required`, `Field.optional` and `Field.withDefault`.
-/

namespace ChatRecords

/-- The types of values without parts. -/
inductive ScalarType where
  | text
  | integer
  | real
  | truth
deriving DecidableEq

/-- The types of the keys of maps. -/
inductive KeyType where
  | text
  | id
  | code (e : Enumeration)

/-- The types of the values of fields. -/
inductive FieldType where
  | scalar (type : ScalarType)
  /-- Values of one of several scalar types; the first is named in refusals. -/
  | union (first : ScalarType) (rest : List ScalarType)
  | id
  | flags (c : FlagClass)
  | choice
  | messageType
  | code (e : Enumeration)
  | moment
  | list (item : FieldType)
  | map (key : KeyType) (item : FieldType)
  | record (kind : RecordKind)
  | nullable (inner : FieldType)
  | any

namespace FieldType

abbrev text : FieldType := .scalar .text

abbrev integer : FieldType := .scalar .integer

abbrev real : FieldType := .scalar .real

abbrev truth : FieldType := .scalar .truth

end FieldType

/-- A field of a record. -/
structure Field where
  name : String
  type : FieldType
  /-- The value of a field that the payload lacks; a required field has none. -/
  fallback : Option Value

namespace Field

def required (name : String) (type : FieldType) : Field := ⟨name, type, none⟩

/-- A field that may be absent or `null`. -/
def optional (name : String) (type : FieldType) : Field := ⟨name, .nullable type, some .null⟩

/-- A field that may be absent and then has a given value. -/
def withDefault (name : String) (type : FieldType) (value : Value) : Field :=
  ⟨name, type, some value⟩

/-- A list that may be absent and is then empty. -/
def listing (name : String) (item : FieldType) : Field := ⟨name, .list item, some (.list [])⟩

/-- A flag set that may be absent and is then empty. -/
def flagging (name : String) (c : FlagClass) : Field :=
  ⟨name, .flags c, some (.flags (.empty c))⟩

end Field
end ChatRecords
