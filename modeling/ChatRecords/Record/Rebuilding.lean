import ChatRecords.Record.Construction
import ChatRecords.Record.Decoder
import ChatRecords.Record.Encoder

/-!
# Records from decoded values

A record can also be made of values that were decoded before, such as those of a record of another
kind. Each is checked against the type of its field as a payload is, but for records, which are
taken over as they are.

## Main definitions

* `Value.admit?`: what a decoded value is for a type.
* `Record.finish`: a record without the unknown bits that its kind does not keep.
* `Record.build?`: a record of a kind from decoded values of some of its fields.
-/

namespace ChatRecords

/-- Whether records of another kind are records of the kind, too: a server is a guild. -/
def RecordKind.includes (kind other : RecordKind) : Bool :=
  decide (other = kind) || (decide (kind = .guild) && decide (other = .server))

/-- The record after its own flag sets lost the bits without a name, unless its kind keeps them. -/
def Record.finish (r : Record) : Record :=
  ⟨r.kind, if r.kind.keepsUnknownBits then r.fields
    else r.fields.map fun f => (f.1, Decoding.dropUnknownBits f.2)⟩

namespace Value

/-- A decoded value that is no list, map, record or moment, as a payload. -/
def payload? : Value → Option Payload
  | .null => some .null
  | .text s => some (.string s)
  | .integer n => some (.integer n)
  | .real x => some (.real x)
  | .truth b => some (.bool b)
  | .id x => some (.ready (.id x))
  | .flags s => some (.ready (.flags s))
  | .choice c => some (.ready (.choice c))
  | .messageType t => some (.ready (.messageType t))
  | .code (.number n) => some (.integer n)
  | .code (.word s) => some (.string s)
  | .any p => some p
  | .moment _ | .list _ | .map _ | .record _ _ => none

/-- What a decoded value is for a type, if it is one of the type or can be converted to one. -/
def admit? : FieldType → Value → Option Value
  | .nullable inner, v => if v.isNull then some .null else admit? inner v
  | .any, v => some v
  | .moment, .moment m => some (.moment m)
  | .list item, .list items => (items.mapM (admit? item)).map Value.list
  | .map key item, .map entries =>
    (entries.mapM fun e =>
      (Conversion.mapKey key e.1.wire).toOption.bind fun k => (admit? item e.2).map (k, ·)).map
        fun entries => .map (Entries.settle entries)
  | .record kind, .record other fields =>
    if kind.includes other then some (Record.finish ⟨other, fields⟩).toValue else none
  | t, v => v.payload?.bind fun p =>
    let decode (kind : RecordKind) (p : Payload) :=
      (Record.decode .mapping kind p).map Record.toValue
    (Decoding.field .mapping decode "" t p).outcome.toOption

end Value

/-- What a field holds: its value among those that are given, or else its fallback. -/
def Field.fill? (values : List (String × Value)) (f : Field) : Option Value :=
  match values.lookup f.name with
  | some v => v.admit? f.type
  | none => f.fallback

/-- A record of a kind from decoded values of some of its fields. -/
def Record.build? (kind : RecordKind) (values : List (String × Value)) : Option Record :=
  (kind.fields.mapM fun (f : Field) => (f.fill? values).map (f.name, ·)).map fun fields =>
    finish ⟨kind, fields⟩

end ChatRecords
