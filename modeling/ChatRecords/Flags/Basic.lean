import ChatRecords.Power

/-!
# Flag sets

A flag class names some of the bits of a word. A flag set is a set of bits of one class, kept
as a mask; bits of a decoded word that the class does not name are kept apart from it, so
that they can be written back but never count as members. On the wire a set is one signed
64-bit integer.

## Main definitions

* `FlagClass`: the names of the bits.
* `FlagSet`: the members and the unknown bits.
* `FlagSet.ofMask`, `FlagSet.toMask`: the wire form.

## Design notes

Masks are natural numbers, and bit `i` of a set is `mask.testBit i`. Bit 63 of the wire form
is its sign.
-/

namespace ChatRecords

/-- Names for bits: each name with the position of its bit, in order of declaration. -/
structure FlagClass where
  name : String
  /-- The name and the position of each bit. -/
  members : List (String × Nat)
deriving DecidableEq

namespace FlagClass

def knownMask (c : FlagClass) : Nat := c.members.foldl (fun mask m => mask ||| 2 ^ m.2) 0

/-- The name of the bit at a position. -/
def bitName? (c : FlagClass) (position : Nat) : Option String :=
  (c.members.find? (·.2 = position)).map Prod.fst

/-- The bit with a name, as a mask. -/
def bit? (c : FlagClass) (name : String) : Option Nat :=
  (c.members.find? (·.1 = name)).map (2 ^ ·.2)

def bitLength (n : Nat) : Nat := if n = 0 then 0 else n.log2 + 1

/-- The bits that an integer stands for. A negative integer stands for its complement: within
the width of the class, or within its own width if that is larger. -/
def bitsOf (c : FlagClass) (n : Int) : Nat :=
  if 0 ≤ n then n.toNat
  else
    let width := bitLength c.knownMask
    let width := if -(2 ^ width : Int) ≤ n then width else bitLength n.natAbs
    ((2 ^ width : Int) + n).toNat

/-- The name of a combination of bits: those of its named bits in ascending order, and what is
left over as a number. A combination of unnamed bits has no name. -/
def combinationName? (c : FlagClass) (mask : Nat) : Option String :=
  let positions := (List.range (bitLength mask)).filter mask.testBit
  match positions.filterMap c.bitName? with
  | [] => none
  | names =>
    let rest := mask ^^^ (mask &&& c.knownMask)
    some ("|".intercalate (if rest = 0 then names else names ++ [toString rest]))

end FlagClass

/-- The bits of `a` that are not in `b`. -/
def maskDiff (a b : Nat) : Nat := a ^^^ (a &&& b)

/-- A set of flags of one class. -/
structure FlagSet where
  flagClass : FlagClass
  mask : Nat
  /-- Bits without a name that are kept to be written back. -/
  unknown : Nat
deriving DecidableEq

/-- Why an integer is not the wire form of a flag set. -/
inductive MaskRefusal where
  /-- The integer does not fit in 64 bits with a sign. -/
  | outOfRange (mask : Int)
deriving DecidableEq

/-- Two sets are of different classes. -/
structure ClassMismatch where
  /-- The name of the class of the first set. -/
  first : String
  /-- The name of the class of the second set. -/
  second : String
deriving DecidableEq

/-- The wording of the refusal to combine sets of different classes. -/
def ClassMismatch.message (m : ClassMismatch) : String :=
  "cannot combine Bitfield[" ++ m.first ++ "] with Bitfield[" ++ m.second ++ "]"

namespace FlagSet

/-- The number of values of a 64-bit word. -/
def wordSize : Nat := 2 ^ 64

def empty (c : FlagClass) : FlagSet := ⟨c, 0, 0⟩

/-- The set of some flags, each given as an integer, with some bits of a word to be kept. Of the
latter those without a name are kept. -/
def ofFlags (c : FlagClass) (flags : List Int) (unknown : Int) : FlagSet :=
  ⟨c, flags.foldl (fun mask n => mask ||| c.bitsOf n) 0,
    maskDiff (unknown % (wordSize : Int)).toNat c.knownMask⟩

/-- The set of a wire form, and whether bits without a name were in it. They are kept on
request. -/
def ofMask (c : FlagClass) (mask : Int) (keepUnknown : Bool) : Except MaskRefusal (FlagSet × Bool) :=
  if mask < -(2 ^ 63 : Int) ∨ (2 ^ 63 : Int) ≤ mask then .error (.outOfRange mask)
  else
    let word := (mask % (wordSize : Int)).toNat
    let unknown := maskDiff word c.knownMask
    .ok (⟨c, word &&& c.knownMask, if keepUnknown then unknown else 0⟩, unknown != 0)

/-- The wire form: members and kept bits as one signed integer. -/
def toMask (s : FlagSet) : Int :=
  let mask := s.mask ||| s.unknown
  if 2 ^ 63 ≤ mask then (mask : Int) - wordSize else mask

/-- Whether all bits of a flag are members. -/
def contains (s : FlagSet) (flag : Int) : Bool :=
  s.flagClass.bitsOf flag &&& s.mask == s.flagClass.bitsOf flag

/-- Whether a flag of a class is a member; flags of other classes never are. -/
def holds (s : FlagSet) (c : FlagClass) (flag : Int) : Bool :=
  decide (s.flagClass = c) && s.contains flag

/-- The set with the bits of a flag. -/
def add (s : FlagSet) (flag : Int) : FlagSet :=
  { s with mask := s.mask ||| s.flagClass.bitsOf flag }

/-- The set without the bits of a flag. -/
def remove (s : FlagSet) (flag : Int) : FlagSet :=
  { s with mask := maskDiff s.mask (s.flagClass.bitsOf flag) }

def dropUnknown (s : FlagSet) : FlagSet := { s with unknown := 0 }

/-- A set with the same members and the same kept bits. -/
def copy (s : FlagSet) : FlagSet := { ofFlags s.flagClass [] s.unknown with mask := s.mask }

/-- The members of either set, of the class of the first. -/
def union (a b : FlagSet) : FlagSet := ⟨a.flagClass, a.mask ||| b.mask, 0⟩

/-- The members of the first set that are not in the second. -/
def difference (a b : FlagSet) : FlagSet := ⟨a.flagClass, maskDiff a.mask b.mask, 0⟩

/-- An operation on two sets, which must be of one class. -/
def combine (op : FlagSet → FlagSet → FlagSet) (a b : FlagSet) : Except ClassMismatch FlagSet :=
  if a.flagClass = b.flagClass then .ok (op a b)
  else .error ⟨a.flagClass.name, b.flagClass.name⟩

/-- The positions of the members, in ascending order. -/
def positions (s : FlagSet) : List Nat :=
  (List.range (FlagClass.bitLength s.mask)).filter s.mask.testBit

/-- The members in ascending order, each as a name, if it has one, and a mask. -/
def toList (s : FlagSet) : List (Option String × Nat) :=
  s.positions.map fun i => (s.flagClass.bitName? i, 2 ^ i)

def isEmpty (s : FlagSet) : Bool := s.mask == 0

/-- The names of the members in alphabetical order, joined by bars. -/
def render (s : FlagSet) : String :=
  let names := s.positions.map fun i => (s.flagClass.bitName? i).getD ""
  "|".intercalate (names.mergeSort fun a b => decide (a ≤ b))

/-- The set with the name of its class. -/
def display (s : FlagSet) : String :=
  let names := s.render
  "Bitfield[" ++ s.flagClass.name ++ "](" ++ (if names = "" then "-" else names) ++ ")"

end FlagSet
end ChatRecords
