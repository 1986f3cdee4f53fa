import ChatRecords.Text.Quoted

/-!
# Enumerations

A closed list of named values that all are numbers or all are words.

## Main definitions

* `Code`: a value of a member.
* `Enumeration`: the members in order of declaration.
* `Enumeration.nameOf?`, `Enumeration.codes`: look-up by value and the list of values.
-/

namespace ChatRecords

/-- The value of a member of an enumeration. -/
inductive Code where
  | number (value : Int)
  | word (value : String)
deriving DecidableEq

namespace Code

def display : Code → String
  | .number n => toString n
  | .word s => Text.quote s

end Code

/-- A closed list of named values. -/
structure Enumeration where
  name : String
  /-- The name and the value of each member. -/
  members : List (String × Code)
deriving DecidableEq

namespace Enumeration

def ofNumbers (name : String) (members : List (String × Int)) : Enumeration :=
  ⟨name, members.map fun m => (m.1, .number m.2)⟩

def ofWords (name : String) (members : List (String × String)) : Enumeration :=
  ⟨name, members.map fun m => (m.1, .word m.2)⟩

def codes (e : Enumeration) : List Code := e.members.map Prod.snd

/-- The name of the member with a value. -/
def nameOf? (e : Enumeration) (code : Code) : Option String :=
  (e.members.find? (·.2 = code)).map Prod.fst

/-- The value of the member with a name. -/
def codeOf? (e : Enumeration) (name : String) : Option Code :=
  (e.members.find? (·.1 = name)).map Prod.snd

def isWords (e : Enumeration) : Bool :=
  e.members.any fun m => match m.2 with
    | .word _ => true
    | .number _ => false

end Enumeration
end ChatRecords
