import ChatRecords.Calendar.Writer
import ChatRecords.Emoji
import ChatRecords.Fault
import ChatRecords.Json.Writer
import ChatRecords.Record.Nesting

/-!
# Encoding records

Every field is written in the order of the schema, except those that hold nothing. Identifiers
are strings, flag sets and kinds of message integers, and members of enumerations their values.

## Main definitions

* `Value.encode`: a value as JSON.
* `Value.writeAt`: a value as JSON text.
* `Record.encode`: a record as JSON.
* `Record.encodeText`: a record as JSON text.

## Design notes

There are two ways of writing. One makes a JSON value, the other makes text part by part and has no
JSON value of the whole; both look at the same kinds of values in the same order.
-/

namespace ChatRecords

/-- Why a record cannot be written. -/
inductive EncodingFault where
  /-- There is a reaction whose emoji has neither an identifier nor a name. -/
  | reactionWithoutIdentity
  /-- There is a flag set in a value of any type. -/
  | looseFlags
  /-- Too many records or values lie within one another. -/
  | tooDeep
deriving DecidableEq

namespace EncodingFault

def message : EncodingFault → String
  | .reactionWithoutIdentity =>
    "Error serializing to JSON: PydanticSerializationError: Error calling function " ++
      "`_serialize_emoji`: InvalidEmojiError: " ++ Fault.invalidEmoji.message
  | .looseFlags =>
    "Error serializing to JSON: PydanticSerializationError: Unable to serialize unknown type: " ++
      "<class 'discord_models.bitfield.Bitfield'>"
  | .tooDeep => "Error serializing to JSON: ValueError: Maximum serialization depth exceeded"

end EncodingFault

namespace MapKey

def wire : MapKey → String
  | .text s => s
  | .id x => x.format
  | .code (.number n) => toString n
  | .code (.word s) => s

end MapKey

/-- Whether a record is a reaction whose emoji cannot be told from others. -/
def lacksIdentity (kind : RecordKind) (fields : List (String × Value)) : Bool :=
  match kind, fields.lookup "emoji" with
  | .reaction, some (.record kind fields) => (Emoji.identity? ⟨kind, fields⟩).isNone
  | _, _ => false

namespace Value

/-- A value of any type as JSON. Only flag sets cannot be written. -/
def encodeAny (p : Payload) : Except EncodingFault Json :=
  match p.wire? with
  | some j => .ok j
  | none => .error .looseFlags

mutual

def encode : Value → Except EncodingFault Json
  | .null => .ok .null
  | .text s => .ok (.string s)
  | .integer n => .ok (.integer n)
  | .real x => .ok (.real x)
  | .truth b => .ok (.bool b)
  | .id x => .ok (.string x.format)
  | .flags s => .ok (.integer s.toMask)
  | .choice (.string s) => .ok (.string s)
  | .choice (.integer n) => .ok (.integer n)
  | .choice (.number x) => .ok (.real x)
  | .messageType t => .ok (.integer t.value)
  | .code (.number n) => .ok (.integer n)
  | .code (.word s) => .ok (.string s)
  | .moment m => .ok (.string m.wire)
  | .list items => (encodeItems items).map Json.array
  | .map entries => (encodeEntries entries).map Json.object
  | .record kind fields =>
    if lacksIdentity kind fields then .error .reactionWithoutIdentity
    else (encodeFields fields).map Json.object
  | .any p => encodeAny p

def encodeItems : List Value → Except EncodingFault (List Json)
  | [] => .ok []
  | v :: rest =>
    match encode v, encodeItems rest with
    | .ok j, .ok js => .ok (j :: js)
    | .error e, _ => .error e
    | _, .error e => .error e

def encodeEntries : List (MapKey × Value) → Except EncodingFault (List (String × Json))
  | [] => .ok []
  | (k, v) :: rest =>
    match encode v, encodeEntries rest with
    | .ok j, .ok js => .ok ((k.wire, j) :: js)
    | .error e, _ => .error e
    | _, .error e => .error e

/-- The fields of a record as JSON, without those that hold nothing. -/
def encodeFields : List (String × Value) → Except EncodingFault (List (String × Json))
  | [] => .ok []
  | (_, .null) :: rest => encodeFields rest
  | (name, v) :: rest =>
    match encode v, encodeFields rest with
    | .ok j, .ok js => .ok ((name, j) :: js)
    | .error e, _ => .error e
    | _, .error e => .error e

end

mutual

/-- The text of a value that stands at a level of nesting. -/
def writeAt (indent : Option Nat) (level : Nat) : Value → Except EncodingFault (List Char)
  | .null => .ok ['n', 'u', 'l', 'l']
  | .text s => .ok (Json.writeString s)
  | .integer n => .ok (toString n).toList
  | .real x => .ok (x.render Json.realLayout).toList
  | .truth true => .ok ['t', 'r', 'u', 'e']
  | .truth false => .ok ['f', 'a', 'l', 's', 'e']
  | .id x => .ok (Json.writeString x.format)
  | .flags s => .ok (toString s.toMask).toList
  | .choice (.string s) => .ok (Json.writeString s)
  | .choice (.integer n) => .ok (toString n).toList
  | .choice (.number x) => .ok (x.render Json.realLayout).toList
  | .messageType t => .ok (toString t.value).toList
  | .code (.number n) => .ok (toString n).toList
  | .code (.word s) => .ok (Json.writeString s)
  | .moment m => .ok (Json.writeString m.wire)
  | .list items => (writeItems indent (level + 1) items).map (Json.enclose indent level '[' ']')
  | .map entries =>
    (writeEntries indent (level + 1) entries).map (Json.enclose indent level '{' '}')
  | .record kind fields =>
    if lacksIdentity kind fields then .error .reactionWithoutIdentity
    else (writeFields indent (level + 1) fields).map (Json.enclose indent level '{' '}')
  | .any p => (encodeAny p).map (Json.writeAt indent level)

def writeItems (indent : Option Nat) (level : Nat) :
    List Value → Except EncodingFault (List (List Char))
  | [] => .ok []
  | v :: rest =>
    match writeAt indent level v, writeItems indent level rest with
    | .ok cs, .ok texts => .ok (cs :: texts)
    | .error e, _ => .error e
    | _, .error e => .error e

def writeEntries (indent : Option Nat) (level : Nat) :
    List (MapKey × Value) → Except EncodingFault (List (List Char))
  | [] => .ok []
  | (k, v) :: rest =>
    match writeAt indent level v, writeEntries indent level rest with
    | .ok cs, .ok texts => .ok (Json.writeEntry indent k.wire cs :: texts)
    | .error e, _ => .error e
    | _, .error e => .error e

/-- The texts of the fields of a record, without those that hold nothing. -/
def writeFields (indent : Option Nat) (level : Nat) :
    List (String × Value) → Except EncodingFault (List (List Char))
  | [] => .ok []
  | (_, .null) :: rest => writeFields indent level rest
  | (name, v) :: rest =>
    match writeAt indent level v, writeFields indent level rest with
    | .ok cs, .ok texts => .ok (Json.writeEntry indent name cs :: texts)
    | .error e, _ => .error e
    | _, .error e => .error e

end

end Value

namespace Record

def encode (r : Record) : Except EncodingFault Json :=
  if r.isTooDeep then .error .tooDeep else r.toValue.encode

/-- A record as JSON text, compact or indented. -/
def encodeText (indent : Option Nat) (r : Record) : Except EncodingFault String :=
  if r.isTooDeep then .error .tooDeep
  else (r.toValue.writeAt indent 0).map String.ofList

end Record
end ChatRecords
