import ChatRecords.Record.Fields

/-!
# Building records

## Main definitions

* `Record.make`: a record of a kind from the values of some of its fields.
* `Record.idNumber?`: the identifier in a field, as a number.
-/

namespace ChatRecords
namespace Record

/-- A record of a kind: fields without a given value take their fallback. -/
def make (kind : RecordKind) (values : List (String × Value)) : Record :=
  ⟨kind, kind.fields.map fun f =>
    (f.name, ((values.lookup f.name).orElse fun _ => f.fallback).getD .null)⟩

/-- The identifier in a field, as a number. Identifiers are looked up by number. -/
def idNumber? (field : String) (r : Record) : Option Int :=
  (r.get field).id?.map fun x => (x.raw : Int)

/-- The first record in a list field whose text in another field is as given. -/
def itemNamed? (list name text : String) (r : Record) : Option Record :=
  (r.get list).records.find? fun item => (item.get name).text? = some text

end Record
end ChatRecords
