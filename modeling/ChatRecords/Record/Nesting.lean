import ChatRecords.Record.Fields

/-!
# Records within records

Records of some kinds lie within one another without an end. Reading and writing count the levels
of such records, and of the values within them that are written by themselves, and both refuse
what has too many.

## Main definitions

* `RecordKind.isRecursive`: whether records of a kind can hold others of the kind.
* `RecordKind.counted`: the kinds whose records count as levels.
* `Nesting.enter`: the levels that are left inside a record.
* `Record.isTooDeep`: whether a record has too many levels to be written.

## Design notes

The kinds that count depend on the kind of the whole record. They are found by following the
fields of kinds from kind to kind, which ends when no new kind turns up.
-/

namespace ChatRecords
namespace FieldType

/-- The kinds of the records in values of a type. -/
def kinds : FieldType → List RecordKind
  | .record kind => [kind]
  | .list item | .nullable item | .map _ item => item.kinds
  | _ => []

end FieldType

namespace RecordKind

/-- The kinds that the fields of a kind refer to, once for each reference. -/
def references (kind : RecordKind) : List RecordKind :=
  kind.fields.flatMap fun field => field.type.kinds

/-- Kinds with those that they refer to, and with those that these refer to, up to a number of
steps. -/
def close : (steps : Nat) → List RecordKind → List RecordKind
  | 0, kinds => kinds
  | steps + 1, kinds =>
    match (kinds.flatMap references).eraseDups.filter fun kind => !kinds.contains kind with
    | [] => kinds
    | more => close steps (kinds ++ more)

/-- The kinds of the records that can lie within a record of a kind, at any depth. -/
def within (kind : RecordKind) : List RecordKind :=
  close standalone.length kind.references.eraseDups

/-- Whether records of the kind can lie within others of the kind. -/
def isRecursive (kind : RecordKind) : Bool := kind.within.contains kind

/-- The kinds whose records count as levels of a record of a kind: those that can lie within their
like, and those that the former refer to more than once. -/
def counted (kind : RecordKind) : List RecordKind :=
  let recursive := (kind :: kind.within).eraseDups.filter isRecursive
  let references := recursive.flatMap references
  recursive ++ references.eraseDups.filter fun other =>
    !recursive.contains other && decide (2 ≤ references.count other)

end RecordKind

namespace Nesting

def limit : Nat := 255

/-- The levels that are left inside a record, if one is left for it. -/
def enter (counted : List RecordKind) (kind : RecordKind) (left : Nat) : Option Nat :=
  if counted.contains kind then
    match left with
    | 0 => none
    | left + 1 => some left
  else some left

/-- Where nothing counts, every record can be entered. -/
@[simp] theorem enter_nil (kind : RecordKind) (left : Nat) : enter [] kind left = some left := rfl

end Nesting

namespace Payload

mutual

/-- The levels of a value of any type as it is written: one for itself and those of its parts.
Members of enumerations and choices hold their values as parts. -/
def levels : Payload → Nat
  | .array items => levelsOfItems items + 1
  | .object entries => levelsOfEntries entries + 1
  | .ready (.flag _ _) | .ready (.messageType _) | .ready (.choice _) => 2
  | _ => 1

def levelsOfItems : List Payload → Nat
  | [] => 0
  | p :: rest => max (levels p) (levelsOfItems rest)

/-- The most levels of the value of an entry. -/
def levelsOfEntries : List (String × Payload) → Nat
  | [] => 0
  | (_, p) :: rest => max (levels p) (levelsOfEntries rest)

end

end Payload

namespace Value

mutual

/-- The levels of a value that is written as one of any type is: one for itself and those of its
parts. Nothing is not written. -/
def fullLevels : Value → Nat
  | .null => 0
  | .list items => fullLevelsOfItems items + 1
  | .map entries => fullLevelsOfEntries entries + 1
  | .record _ fields => fullLevelsOfFields fields + 1
  | .any p => p.levels
  | _ => 1

def fullLevelsOfItems : List Value → Nat
  | [] => 0
  | v :: rest => max (fullLevels v) (fullLevelsOfItems rest)

/-- The most levels of the value of an entry. -/
def fullLevelsOfEntries : List (MapKey × Value) → Nat
  | [] => 0
  | (_, v) :: rest => max (fullLevels v) (fullLevelsOfEntries rest)

def fullLevelsOfFields : List (String × Value) → Nat
  | [] => 0
  | (_, v) :: rest => max (fullLevels v) (fullLevelsOfFields rest)

end

/-- The levels of the emoji of a reaction. It is looked at before it is written, and then written
as a value of any type is. -/
def emojiLevels (kind : RecordKind) (fields : List (String × Value)) : Nat :=
  if kind = .reaction then ((fields.lookup "emoji").map fullLevels).getD 0 else 0

mutual

/-- The levels of a value: records count where their kind does, values of any type with their parts,
and values with a written form of their own once. -/
def levels (counts : RecordKind → Bool) : Value → Nat
  | .id _ | .flags _ | .choice _ | .messageType _ => 1
  | .list items => levelsOfItems counts items
  | .map entries => levelsOfEntries counts entries
  | .record kind fields =>
    max (levelsOfFields counts fields) (emojiLevels kind fields) + if counts kind then 1 else 0
  | .any p => p.levels
  | _ => 0

def levelsOfItems (counts : RecordKind → Bool) : List Value → Nat
  | [] => 0
  | v :: rest => max (levels counts v) (levelsOfItems counts rest)

/-- The most levels of the value of an entry. -/
def levelsOfEntries (counts : RecordKind → Bool) : List (MapKey × Value) → Nat
  | [] => 0
  | (_, v) :: rest => max (levels counts v) (levelsOfEntries counts rest)

def levelsOfFields (counts : RecordKind → Bool) : List (String × Value) → Nat
  | [] => 0
  | (_, v) :: rest => max (levels counts v) (levelsOfFields counts rest)

end

end Value

namespace Record

/-- Whether a record has too many levels to be written. The kinds that count are found only if
it would have too many with all kinds counted. -/
def isTooDeep (r : Record) : Bool :=
  decide (Nesting.limit < r.toValue.levels fun _ => true) &&
    let counted := r.kind.counted
    decide (Nesting.limit < r.toValue.levels fun kind => counted.contains kind)

end Record
end ChatRecords
