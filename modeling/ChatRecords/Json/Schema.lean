import ChatRecords.Json.Basic
import ChatRecords.MessageType

/-!
# Descriptions of wire forms

The JSON schema of the field types that have a wire form of their own.

## Main definitions

* `WireType`: these field types.
* `WireType.schema`: the description of a field type.
-/

namespace ChatRecords

/-- The field types that have a wire form of their own. -/
inductive WireType where
  | id
  | messageType
  /-- Flag sets of a class, given by its name. -/
  | flags (className : Option String)
deriving DecidableEq

/-- A type of flag sets does not say of which class they are. -/
inductive MissingFlagClass where
  | missing
deriving DecidableEq

def MissingFlagClass.message (_ : MissingFlagClass) : String :=
  "Bitfield must be parametrised with a flag enum, e.g. Bitfield[UserFlag]"

/-- The description of a field type: identifiers are decimal strings, kinds of message are the
numbers of the table, and flag sets are masks. -/
def WireType.schema : WireType → Except MissingFlagClass Json
  | .id => .ok (.object [("type", .string "string"), ("pattern", .string "^[0-9]+$")])
  | .messageType =>
    .ok (.object [("type", .string "integer"),
      ("enum", .array (MessageType.all.map fun t => .integer t.value))])
  | .flags (some _) => .ok (.object [("type", .string "integer")])
  | .flags none => .error .missing

end ChatRecords
