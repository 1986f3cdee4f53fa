/-!
# Names of files

A name is a list of parts joined by strokes. It leads from the directory in which the program runs,
or from the root of all directories if it starts with a stroke, to a place.

## Main definitions

* `FileName.parts`, `FileName.ofParts`: a name as its parts, and back.
* `FileName.tidy`: a name without superfluous parts.
* `FileName.resolve`: the place of a name if every step up undoes the step before it.

## Design notes

A place is kept as its parts with the last one first, so that a step is made at the head.
-/

namespace ChatRecords
namespace FileName

/-- The first part of a name that leads from the root. -/
def root : String := "/"

def parent : String := ".."

/-- The parts of a name but for those that do not change what is named. -/
def parts (name : String) : List String :=
  let rest := (name.splitOn "/").filter fun part => part ≠ "" ∧ part ≠ "."
  if name.startsWith "/" then root :: rest else rest

/-- The name with given parts. Without any it is that of the directory itself. -/
def ofParts : List String → String
  | [] => "."
  | first :: rest =>
    if first = root then root ++ "/".intercalate rest else "/".intercalate (first :: rest)

/-- A name without superfluous parts. Two strokes at its front stay two. -/
def tidy (name : String) : String :=
  if name.startsWith "//" ∧ !name.startsWith "///" then "/" ++ ofParts (parts name)
  else ofParts (parts name)

/-- The place above a place. There is none above the root. -/
def up : List String → List String
  | [] => [parent]
  | part :: rest =>
    if part = parent then parent :: part :: rest
    else if part = root then part :: rest
    else rest

def step (here : List String) (part : String) : List String :=
  if part = parent then up here else part :: here

def ofPlace (here : List String) : String := ofParts here.reverse

/-- The place of a name if every step up undoes the step before it. -/
def place (name : String) : List String := (parts name).foldl step []

/-- The name of the place of a name. -/
def resolve (name : String) : String := ofPlace (place name)

/-- Whether a name holds the character that ends names. -/
def hasNul (name : String) : Bool := name.toList.contains '\x00'

def partLimit : Nat := 255

def lengthLimit : Nat := 4095

end FileName
end ChatRecords
