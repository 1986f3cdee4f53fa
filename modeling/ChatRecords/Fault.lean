import ChatRecords.Enumeration.Basic
import ChatRecords.Path
import ChatRecords.Payload

/-!
# Faults

Why a payload is refused, as causes; each cause has one wording.

## Main definitions

* `Expectation`: what was expected of a value of the wrong shape.
* `Fault`: the causes.
* `Fault.kind`: the kind of a cause, which a caller can tell from others.
* `Fault.message`, `Fault.render`: the wording, without and with a path.
* `Raised`: what a caller meets when a payload is refused.
* `LossyFlags`: the warning that a mask had bits without a name.

## Design notes

Only the error that a caller meets is raised here. Some later parts that are refused make an error,
too, before it is dropped, and the interpreter gives up the whole payload if one of them carries a
value that lies too deep. That is left out: no part of a payload that can be shown lies too deep.
-/

namespace ChatRecords

/-- Why a value is not the mask of a flag set. -/
inductive MaskFault where
  /-- It does not fit in 64 bits with a sign. -/
  | outOfRange (mask : Int)
  /-- It is not an integer and not the decimal text of one. -/
  | notInteger (given : Payload)
  /-- It is a set of another class. -/
  | otherClass (expected given : String)

/-- The wording of a text of too many digits. -/
def digitLimitMessage (count : Nat) : String :=
  "Exceeds the limit (" ++ toString Text.digitLimit ++
    " digits) for integer string conversion: value has " ++ toString count ++
    " digits; use sys.set_int_max_str_digits() to increase the limit"

namespace MaskFault

def message : MaskFault → String
  | .outOfRange mask => "flag mask " ++ toString mask ++ " does not fit in a signed 64-bit integer"
  | .notInteger given => "flag mask must be an integer, got " ++ given.display
  | .otherClass expected given =>
    "expected Bitfield[" ++ expected ++ "], got Bitfield[" ++ given ++ "]"

end MaskFault

/-- What was expected of a value of the wrong shape. -/
inductive Expectation where
  | value
  | string
  /-- An integer, and not a value of another type. -/
  | integer
  /-- An integer, and not a number with a fraction. -/
  | integerWithoutFraction
  | integerText
  /-- An integer that is not too large to convert. -/
  | integerSize
  | finiteNumber
  /-- A number, and not a value of another type. -/
  | number
  | numberText
  /-- A truth value, and not a value of another type. -/
  | truth
  /-- A number or a text that stands for a truth value. -/
  | truthWord
  /-- A moment, and not a value of another type. -/
  | moment
  | oneOf (codes : List Code)
  | array
  | list
  | object
  | dictionary
  /-- A dictionary of a mapping, or a record. -/
  | dictionaryOrRecord (name : String)
  | mask (fault : MaskFault)
  | fewerDigits (count : Nat)
  | json
  /-- A record that does not lie within too many others. -/
  | fewerLevels
  | described (text : String)

namespace Expectation

/-- Alternatives in words: commas, and `or` before the last. -/
def alternatives : List String → String
  | [] => ""
  | [a] => a
  | [a, b] => a ++ " or " ++ b
  | a :: rest => a ++ ", " ++ alternatives rest

def message : Expectation → String
  | .value => "a value"
  | .string => "a valid string"
  | .integer => "a valid integer"
  | .integerWithoutFraction => "a valid integer, got a number with a fractional part"
  | .integerText => "a valid integer, unable to parse string as an integer"
  | .integerSize => "Unable to parse input string as an integer, exceeded maximum size"
  | .finiteNumber => "a finite number"
  | .number => "a valid number"
  | .numberText => "a valid number, unable to parse string as a number"
  | .truth => "a valid boolean"
  | .truthWord => "a valid boolean, unable to interpret input"
  | .moment => "a valid datetime"
  | .oneOf codes => alternatives (codes.map Code.display)
  | .array => "a valid array"
  | .list => "a valid list"
  | .object => "an object"
  | .dictionary => "a valid dictionary"
  | .dictionaryOrRecord name => "a valid dictionary or instance of " ++ name
  | .mask fault => "Value error, " ++ fault.message
  | .fewerDigits count => "Value error, " ++ digitLimitMessage count
  | .json => "Invalid JSON"
  | .fewerLevels => "Recursion error - maximum validation depth exceeded"
  | .described text => text

end Expectation

/-- Why an answer to an interaction refuses a value. -/
inductive ResponseFault where
  /-- There are more embeds than an answer holds. -/
  | tooManyEmbeds (limit given : Nat)
  /-- There are flags that an answer does not take, or bits without a name. -/
  | flagsNotTaken (names : List String)
  /-- The value is refused for a reason given in words. -/
  | described (text : String)

namespace ResponseFault

def message : ResponseFault → String
  | .tooManyEmbeds limit given =>
    "a response holds at most " ++ toString limit ++ " embeds, got " ++ toString given
  | .flagsNotTaken names =>
    "a response accepts only EPHEMERAL, SUPPRESS_EMBEDS and SUPPRESS_NOTIFICATIONS flags, got " ++
      (if names.isEmpty then "unknown bits" else ", ".intercalate names)
  | .described text => text

end ResponseFault

/-- Why a payload or a value is refused. -/
inductive Fault where
  | mismatch (expected : Expectation) (given : Payload)
  /-- A text or a number cannot be read as a moment. -/
  | unreadableMoment (given : Payload)
  | invalidJson (bytes : List UInt8)
  | malformedId (given : Payload)
  /-- A value is not a choice value. -/
  | malformedChoice (given : Payload)
  /-- A number is not a kind of message. -/
  | unknownMessageType (value : Int)
  /-- An emoji has neither an identifier nor a name. -/
  | invalidEmoji
  /-- An answer to an interaction refuses a value. -/
  | invalidResponse (fault : ResponseFault)
  | described (text : String)

/-- The kinds of fault that a caller can tell apart. -/
inductive FaultKind where
  | schemaMismatch
  | malformedId
  | malformedChoice
  | unknownMessageType
  | invalidEmoji
  | invalidResponse
  /-- A fault that is of no other kind. -/
  | general
deriving DecidableEq

/-- The name of the exception of a kind. -/
def FaultKind.name : FaultKind → String
  | .schemaMismatch => "SchemaMismatchError"
  | .malformedId => "MalformedIdError"
  | .malformedChoice => "MalformedChoiceError"
  | .unknownMessageType => "UnknownMessageTypeError"
  | .invalidEmoji => "InvalidEmojiError"
  | .invalidResponse => "InvalidResponseError"
  | .general => "DiscordModelError"

namespace Fault

/-- The kind of a fault: whatever does not fit the schema is of one kind. -/
def kind : Fault → FaultKind
  | .mismatch .. | .unreadableMoment _ | .invalidJson _ => .schemaMismatch
  | .malformedId _ => .malformedId
  | .malformedChoice _ => .malformedChoice
  | .unknownMessageType _ => .unknownMessageType
  | .invalidEmoji => .invalidEmoji
  | .invalidResponse _ => .invalidResponse
  | .described _ => .general

def message : Fault → String
  | .mismatch expected given => "expected " ++ expected.message ++ ", got " ++ given.display
  | .unreadableMoment given => "invalid datetime, got " ++ given.display
  | .invalidJson bytes =>
    "expected " ++ Expectation.json.message ++ ", got " ++ Text.quoteBytes bytes
  | .malformedId given => "malformed snowflake: " ++ given.display
  | .malformedChoice given => "malformed choice value: " ++ given.display
  | .unknownMessageType value => "unknown message type: " ++ toString value
  | .invalidEmoji => "emoji has neither id nor name"
  | .invalidResponse fault => fault.message
  | .described text => text

/-- The wording of the cause and of where it lies, if that is known. -/
def render (fault : Fault) (path : Option String) : String :=
  match path with
  | none | some "" => fault.message
  | some path => fault.message ++ " (at " ++ path ++ ")"

/-- Why the value that a fault carries cannot be shown, if it cannot. -/
def unshowable? (room : Nat) : Fault → Option Unshowable
  | .mismatch _ given | .unreadableMoment given | .malformedId given | .malformedChoice given =>
    given.unshowable? room
  | .unknownMessageType value => Unshowable.ofInteger? value
  | _ => none

end Fault

/-- A cause and where in the payload it lies. -/
structure Refusal where
  fault : Fault
  path : Path

namespace Refusal

def render (r : Refusal) : String := r.fault.render (some r.path.render)

/-- The refusal as seen from one step further up. -/
def under (step : Step) (r : Refusal) : Refusal := ⟨r.fault, step :: r.path⟩

end Refusal

/-- What a caller meets when a payload is refused. -/
inductive Raised where
  /-- An error of the library, with the cause and its path. -/
  | library (r : Refusal)
  /-- An exception of the interpreter, as the value that the error carries cannot be shown. -/
  | unshowable (reason : Unshowable)

/-- What a refusal is raised as. The error shows the value that it carries when it is made, so that
it is not made if the value cannot be shown. -/
def Refusal.raised (room : Nat) (r : Refusal) : Raised :=
  match r.fault.unshowable? room with
  | none => .library r
  | some reason => .unshowable reason

/-- The warning that a mask had bits without a name. -/
structure LossyFlags where
  kind : String
  unknownBits : Int
  /-- The record field that the mask was decoded for. -/
  field : Option String
deriving DecidableEq

namespace LossyFlags

/-- A number in hexadecimal digits, marked as such. -/
def hex (n : Int) : String :=
  (if n < 0 then "-" else "") ++ "0x" ++ String.ofList (Nat.toDigits 16 n.natAbs)

def render (w : LossyFlags) : String :=
  w.kind ++ (match w.field with
    | none | some "" => ""
    | some field => " in field " ++ Text.quote field) ++ ": unknown bits " ++ hex w.unknownBits

def detail (w : LossyFlags) : String :=
  "Unknown " ++ w.kind ++ " bits " ++ hex w.unknownBits ++ " in field " ++ w.field.getD "None"

end LossyFlags
end ChatRecords
