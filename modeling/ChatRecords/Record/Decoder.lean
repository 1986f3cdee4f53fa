import ChatRecords.Json.Reader
import ChatRecords.Record.Conversion
import ChatRecords.Record.Decoding
import ChatRecords.Record.Nesting

/-!
# Decoding records

A record is decoded field by field in the order of its schema, each from the last entry of the
payload with its key; entries with other keys are ignored. Flag sets keep all bits of their
masks while they are decoded, and the record that owns them then drops those without a name,
unless its kind keeps them.

## Main definitions

* `Decoding.field`: a value of a field type, where records are decoded by a given function.
* `Record.decode`: a record from a payload.
* `Record.decodeText`, `Record.validateText`, `Record.decodeBytes`: a record from JSON text.
* `Record.decodeMapping`, `Record.decodeValue`: a record from a mapping, or from either.

## Design notes

`Decoding.field` recurses on the field type and leaves records to a function, so that
`Decoding.record` can recurse on the depth of the payload.
-/

namespace ChatRecords
namespace PayloadForm

def listExpectation : PayloadForm → Expectation
  | .text => .array
  | .mapping => .list

def mapExpectation : PayloadForm → Expectation
  | .text => .object
  | .mapping => .dictionary

def recordExpectation (form : PayloadForm) (kind : RecordKind) : Expectation :=
  match form with
  | .text => .object
  | .mapping => .dictionaryOrRecord kind.name

end PayloadForm

namespace Decoding

/-- A flag set, with the warning that its mask had bits without a name. -/
def flags (name : String) (c : FlagClass) (p : Payload) : Decoding Value :=
  match Conversion.flags c p with
  | .ok (s, lossy) => ⟨if lossy then [⟨c.name, s.unknown, some name⟩] else [], .ok (.flags s)⟩
  | .error fault => failed fault

/-- The key of an entry of a map. A refusal is told from one of the entry's value by a second
step with the key in brackets. -/
def mapKey (type : KeyType) (key : String) : Decoding MapKey :=
  match Conversion.mapKey type key with
  | .ok k => ok k
  | .error fault => refused ⟨fault, [.key key, .key "[key]"]⟩

/-- A value of a field type, for the field `name`; `record` decodes records. -/
def field (form : PayloadForm) (record : RecordKind → Payload → Decoding Value) (name : String) :
    FieldType → Payload → Decoding Value
  | .scalar t, p => ofConversion (Conversion.scalar form t p)
  | .union first rest, p => ⟨[], Conversion.union form first rest p⟩
  | .id, p => ofConversion ((Conversion.id p).map Value.id)
  | .flags c, p => flags name c p
  | .choice, p => ofConversion ((Conversion.choice p).map Value.choice)
  | .messageType, p => ofConversion ((Conversion.messageType p).map Value.messageType)
  | .code e, p => ofConversion ((Conversion.code e p).map Value.code)
  | .moment, p => ofConversion ((Conversion.moment form p).map Value.moment)
  | .list item, p =>
    match p.items? with
    | some items =>
      (collect (items.mapIdx fun i v => (field form record name item v).under (.index i))).map
        Value.list
    | none => failed (.mismatch form.listExpectation p)
  | .map key item, p =>
    match p with
    | .object entries =>
      (collect (entries.map fun e =>
        both Prod.mk (mapKey key e.1) ((field form record name item e.2).under (.key e.1)))).map
        fun entries => Value.map (Entries.settle entries)
    | _ => failed (.mismatch form.mapExpectation p)
  | .record kind, p => record kind p
  | .nullable inner, p =>
    match p with
    | .null => ok .null
    | _ => field form record name inner p
  | .any, p =>
    match p with
    | .null => ok .null
    | _ => ok (.any p.settle)

/-- The value without bits that have no name, if it is a flag set. Those within other values are
left as they are. -/
def dropUnknownBits : Value → Value
  | .flags s => .flags s.dropUnknown
  | .any (.ready (.flags s)) => .any (.ready (.flags s.dropUnknown))
  | v => v

/-- The entries of the payload of a record. The label of a kind that may come as its label alone
is its only entry. -/
def recordEntries? (kind : RecordKind) : Payload → Option (List (String × Payload))
  | .object entries => some entries
  | .string s => if kind.acceptsLabel then some [("label", .string s)] else none
  | _ => none

/-- One field of a record, as its key and its value. -/
def recordField (form : PayloadForm) (record : RecordKind → Payload → Decoding Value)
    (entries : List (String × Payload)) (f : Field) : Decoding (String × Value) :=
  match Entries.get? f.name entries, f.fallback with
  | some p, _ => ((field form record f.name f.type p).under (.key f.name)).map (f.name, ·)
  | none, some v => ok (f.name, v)
  | none, none => refused ⟨.mismatch .value .null, [.key f.name]⟩

/-- A record, where fewer than `depth` records lie within one another, and at most `left` of the
kinds that count. -/
def record (form : PayloadForm) (counted : List RecordKind) :
    (depth left : Nat) → RecordKind → Payload → Decoding Value
  | 0, _, kind, p => failed (.mismatch (form.recordExpectation kind) p)
  | depth + 1, left, kind, p =>
    match Nesting.enter counted kind left, recordEntries? kind p with
    | none, _ => failed (.mismatch .fewerLevels p)
    | _, none => failed (.mismatch (form.recordExpectation kind) p)
    | some left, some entries =>
      (collect (kind.fields.map (recordField form (record form counted depth left) entries))).map
        fun fields => Value.record kind
          (if kind.keepsUnknownBits then fields
          else fields.map fun f => (f.1, dropUnknownBits f.2))

/-- The kinds whose records count while a payload is decoded. Levels are limited in mappings
only, and only a deep one can reach the limit. -/
def counted (form : PayloadForm) (kind : RecordKind) (p : Payload) : List RecordKind :=
  if form = .mapping ∧ Nesting.limit ≤ p.depth then kind.counted else []

/-- The result with its value read as a record of a kind; decoding one never gives another
value. -/
def asRecord (kind : RecordKind) (d : Decoding Value) : Decoding Record :=
  d.map fun v => v.record?.getD ⟨kind, []⟩

end Decoding

namespace Record

def decode (form : PayloadForm) (kind : RecordKind) (p : Payload) : Decoding Record :=
  (Decoding.record form (Decoding.counted form kind p) (p.depth + 1) Nesting.limit kind p).asRecord
    kind

def decodeText (kind : RecordKind) (text : String) : Decoding Record :=
  match Json.read text with
  | some v => decode .text kind (.ofJson v)
  | none => .failed (.invalidJson text.toUTF8.toList)

/-- A record from JSON text where nobody asks for warnings. -/
def validateText (kind : RecordKind) (text : String) : Except Refusal Record :=
  (decodeText kind text).outcome

/-- A record from the bytes of JSON text. -/
def decodeBytes (kind : RecordKind) (bytes : List UInt8) : Decoding Record :=
  match String.fromUTF8? ⟨bytes.toArray⟩ with
  | some text => decodeText kind text
  | none => .failed (.invalidJson bytes)

def decodeMapping (kind : RecordKind) (v : Json) : Decoding Record :=
  decode .mapping kind (.ofJson v.settle)

/-- A record from a mapping, or from JSON text where a text stands in its place. -/
def decodeValue (kind : RecordKind) (v : Json) : Decoding Record :=
  match v with
  | .string text => decodeText kind text
  | _ => decodeMapping kind v

end Record
end ChatRecords
