import ChatRecords.Enumeration.Catalog
import ChatRecords.Flags.Catalog
import ChatRecords.Payload

/-!
# Members by value

Enumerations and flag classes under their names, and the names of their members by value. A
number stands for itself in any of its forms; a flag class has a name for every combination of
its bits.

## Main definitions

* `Enumeration.find?`: the enumeration with a name.
* `Enumeration.lookup`, `FlagClass.lookup`: the name of the member with a value.
-/

namespace ChatRecords

/-- A value that is not one of an enumeration or a flag class. -/
structure UnknownMember where
  value : Payload
  /-- The name of the enumeration or the flag class. -/
  name : String

namespace UnknownMember

def message (u : UnknownMember) : String := u.value.display ++ " is not a valid " ++ u.name

end UnknownMember

namespace Payload

/-- The integer that a payload is equal to: an integer, a truth value, or a real without
fraction. -/
def equalInteger? : Payload → Option Int
  | .bool b => some (if b then 1 else 0)
  | .real x => x.toInt?
  | .integer n => some n
  | _ => none

/-- The code that a payload is equal to. -/
def equalCode? : Payload → Option Code
  | .string s => some (.word s)
  | p => p.equalInteger?.map Code.number

end Payload

namespace Enumeration

/-- The enumeration with a name; the kinds of message are one too. -/
def find? (name : String) : Option Enumeration :=
  (catalog ++ [MessageType.enumeration]).find? (·.name = name)

/-- The name of the member with a value. -/
def lookup (e : Enumeration) (p : Payload) : Except UnknownMember String :=
  match p.equalCode?.bind e.nameOf? with
  | some name => .ok name
  | none => .error ⟨p, e.name⟩

end Enumeration

namespace FlagClass

def enumeration (c : FlagClass) : Enumeration :=
  Enumeration.ofNumbers c.name (c.members.map fun m => (m.1, 2 ^ m.2))

/-- The name of the combination of bits that a value stands for, if it has one. -/
def lookup (c : FlagClass) (p : Payload) : Except UnknownMember (Option String) :=
  match p with
  | .integer n => .ok (c.combinationName? (c.bitsOf n))
  | .bool b => .ok (c.combinationName? (if b then 1 else 0))
  | _ => (c.enumeration.lookup p).map some

def maskOf (c : FlagClass) (names : List String) : Nat :=
  (names.filterMap c.bit?).foldl (· ||| ·) 0

end FlagClass
end ChatRecords
