import ChatRecords.Calendar.Reader
import ChatRecords.Fault
import ChatRecords.Record.Schema
import ChatRecords.Text.Numeral

/-!
# Lenient conversions

How a part of a payload becomes a value without parts. Each conversion accepts the values of
its own type and those of other types that stand for one without doubt; for anything else it
names the fault.

## Main definitions

* `PayloadForm`: whether a payload came as text or as a mapping.
* `Conversion.scalar`, `Conversion.union`: the scalar types, alone and as alternatives.
* `Conversion.id`, `Conversion.flags`, `Conversion.choice`, `Conversion.messageType`,
  `Conversion.code`, `Conversion.moment`: the other types.
-/

namespace ChatRecords

/-- The form that a payload came in. -/
inductive PayloadForm where
  | text
  /-- A mapping of values that are read already. -/
  | mapping
deriving DecidableEq

namespace Double

/-- The integer that a real number is, if it lies within 64 bits with a sign. -/
def toWord? (x : Double) : Option Int :=
  match x.toInt? with
  | some n => if -(2 ^ 63 : Int) < n ∧ n < (2 ^ 63 : Int) then some n else none
  | none => none

end Double

namespace Conversion

def refuse {α : Type} (expected : Expectation) (p : Payload) : Except Fault α :=
  .error (.mismatch expected p)

def text (p : Payload) : Except Fault String :=
  match p.text? with
  | some s => .ok s
  | none => refuse .string p

/-- An integer: also a truth value, a real without fraction and the text of an integer. -/
def integer (p : Payload) : Except Fault Int :=
  match p with
  | .bool b => .ok (if b then 1 else 0)
  | .real x =>
    match x.isFinite, x.toInt?, x.toWord? with
    | false, _, _ => refuse .finiteNumber p
    | _, none, _ => refuse .integerWithoutFraction p
    | _, _, none => refuse .integerSize p
    | _, _, some n => .ok n
  | .string s =>
    match Text.readInteger s with
    | .ok n => .ok n
    | .error .malformed => refuse .integerText p
    | .error .tooLong => refuse .integerSize p
  | _ =>
    match p.integer? with
    | some n => .ok n
    | none => refuse .integer p

/-- A real number: also an integer, a truth value and the text of a number. An integer beyond all
finite numbers is refused in mappings and infinite in texts. -/
def real (form : PayloadForm) (p : Payload) : Except Fault Double :=
  match p with
  | .real x => .ok x
  | .bool b => .ok (if b then .one else .zero)
  | .string s =>
    match Text.readReal? s with
    | some x => .ok x
    | none => refuse .numberText p
  | _ =>
    match p.integer? with
    | some n =>
      let x := Double.ofInt n
      if form = .mapping ∧ !x.isFinite then refuse .number p else .ok x
    | none => refuse .number p

/-- The truth value that a word stands for, in any case. -/
def truthOfWord? (s : String) : Option Bool :=
  let word := String.ofList (s.toList.map Char.toLower)
  if word ∈ ["0", "off", "f", "false", "n", "no"] then some false
  else if word ∈ ["1", "on", "t", "true", "y", "yes"] then some true
  else none

/-- The truth value that an integer stands for: only zero and one do. -/
def truthOfInteger (n : Int) (p : Payload) : Except Fault Bool :=
  if n = 0 then .ok false
  else if n = 1 then .ok true
  else if Choice.FitsInteger n then refuse .truthWord p
  else refuse .truth p

/-- A truth value: also zero, one and the words for them. -/
def truth (p : Payload) : Except Fault Bool :=
  match p with
  | .bool b => .ok b
  | .real x =>
    match x.toWord? with
    | some n => truthOfInteger n p
    | none => refuse .truth p
  | .string s =>
    match truthOfWord? s with
    | some b => .ok b
    | none => refuse .truthWord p
  | _ =>
    match p.integer? with
    | some n => truthOfInteger n p
    | none => refuse .truth p

def scalar (form : PayloadForm) (type : ScalarType) (p : Payload) : Except Fault Value :=
  match type with
  | .text => (text p).map Value.text
  | .integer => (integer p).map Value.integer
  | .real => (real form p).map Value.real
  | .truth => (truth p).map Value.truth

/-- The value of a scalar type that a payload is without any conversion. -/
def asIs? : ScalarType → Payload → Option Value
  | .text, .string s => some (.text s)
  | .integer, .integer n => some (.integer n)
  | .real, .real x => some (.real x)
  | .truth, .bool b => some (.truth b)
  | _, _ => none

/-- The name of a scalar type where it is one of several. -/
def branchName : ScalarType → String
  | .text => "str"
  | .integer => "int"
  | .real => "float"
  | .truth => "bool"

/-- A value of one of several scalar types: of the one that it has already, else of the first
that it converts to. A refusal is that of the first type and names it. -/
def union (form : PayloadForm) (first : ScalarType) (rest : List ScalarType) (p : Payload) :
    Except Refusal Value :=
  let types := first :: rest
  match types.findSome? fun t => asIs? t p with
  | some v => .ok v
  | none =>
    match types.findSome? fun t => (scalar form t p).toOption with
    | some v => .ok v
    | none =>
      match scalar form first p with
      | .ok v => .ok v
      | .error fault => .error ⟨fault, [.key (branchName first)]⟩

/-- An identifier: its decimal text, or an integer. -/
def id (p : Payload) : Except Fault Snowflake :=
  match p with
  | .ready (.id x) => .ok x
  | .string s =>
    match Snowflake.parse s with
    | .ok x => .ok x
    | .error .malformed => .error (.malformedId p)
    | .error (.tooManyDigits n) => refuse (.fewerDigits n) p
  | _ =>
    match p.integer?.bind Snowflake.ofInt? with
    | some x => .ok x
    | none => .error (.malformedId p)

/-- The integer that a decimal text denotes: ASCII digits after an optional minus sign. -/
def signedDecimal? (s : String) : Option (Int × Nat) :=
  let negative := s.toList.head? = some '-'
  let ds := if negative then s.toList.tail else s.toList
  if ds.isEmpty ∨ !ds.all Text.isAsciiDigit then none
  else
    let n : Int := Text.natOfDigits ds
    some (if negative then -n else n, ds.length)

/-- The flag set of a mask, and whether the mask had bits without a name. They are kept. -/
def flagsOfMask (c : FlagClass) (mask : Int) (p : Payload) : Except Fault (FlagSet × Bool) :=
  match FlagSet.ofMask c mask true with
  | .ok r => .ok r
  | .error (.outOfRange n) => refuse (.mask (.outOfRange n)) p

/-- A flag set: a mask, its decimal text, or a set of the class. -/
def flags (c : FlagClass) (p : Payload) : Except Fault (FlagSet × Bool) :=
  match p with
  | .ready (.flags s) =>
    if s.flagClass = c then .ok (s, false)
    else refuse (.mask (.otherClass c.name s.flagClass.name)) p
  | .string s =>
    match signedDecimal? s with
    | none => refuse (.mask (.notInteger p)) p
    | some (mask, digits) =>
      if Text.digitLimit < digits then refuse (.fewerDigits digits) p else flagsOfMask c mask p
  | _ =>
    match p.integer? with
    | some mask => flagsOfMask c mask p
    | none => refuse (.mask (.notInteger p)) p

/-- A choice value: a string, a real, or an integer of 64 bits. -/
def choice (p : Payload) : Except Fault Choice :=
  match p with
  | .ready (.choice c) => .ok c
  | .string s => .ok (.string s)
  | .real x => .ok (.number x)
  | _ =>
    match p.integer? with
    | some n => if Choice.FitsInteger n then .ok (.integer n) else .error (.malformedChoice p)
    | none => .error (.malformedChoice p)

def messageType (p : Payload) : Except Fault MessageType :=
  match p.integer? with
  | some n =>
    match MessageType.ofValue? n with
    | some t => .ok t
    | none => .error (.unknownMessageType n)
  | none => refuse .integer p

/-- A member of an enumeration of words: its word. -/
def word (e : Enumeration) (p : Payload) : Except Fault Code :=
  match p with
  | .string s => if .word s ∈ e.codes then .ok (.word s) else refuse (.oneOf e.codes) p
  | _ => refuse (.oneOf e.codes) p

/-- A member of an enumeration of numbers: whatever converts to its number. An integer beyond 64
bits, which no member has, is refused for its size. -/
def number (e : Enumeration) (p : Payload) : Except Fault Code :=
  match integer p with
  | .ok n =>
    if !Choice.FitsInteger n then refuse .integerSize (.integer n)
    else if .number n ∈ e.codes then .ok (.number n)
    else refuse (.oneOf e.codes) p
  | .error _ => refuse (.oneOf e.codes) p

def code (e : Enumeration) (p : Payload) : Except Fault Code :=
  if e.isWords then word e p else number e p

/-- A moment: its text, or a number of seconds or milliseconds. An integer beyond 64 bits has the
wrong shape in texts. -/
def moment (form : PayloadForm) (p : Payload) : Except Fault Moment :=
  let read (m : Option Moment) : Except Fault Moment :=
    match m with
    | some m => .ok m
    | none => .error (.unreadableMoment p)
  match p with
  | .string s => read (Moment.parse? s)
  | .real x => read (Moment.ofReal? x)
  | _ =>
    match p.integer? with
    | some n =>
      if form = .text ∧ !Choice.FitsInteger n then refuse .moment p
      else read (Moment.ofCount? n)
    | none => refuse .moment p

def mapKey (type : KeyType) (name : String) : Except Fault MapKey :=
  match type with
  | .text => .ok (.text name)
  | .id => (id (.string name)).map MapKey.id
  | .code e => (code e (.string name)).map MapKey.code

end Conversion
end ChatRecords
