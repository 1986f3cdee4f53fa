import ChatRecords.Calendar.Moment
import ChatRecords.Calendar.Writer
import ChatRecords.Power
import ChatRecords.Text.Digit

/-!
# Snowflake identifiers

A 64-bit identifier that holds the instant it was made: 42 bits of milliseconds since the
start of 2015, five of a worker, five of a process and twelve of a running number, from the
most significant to the least. On the wire it is written in decimal.

## Main definitions

* `Snowflake`: the identifier.
* `Snowflake.parse`, `Snowflake.format`: its decimal form.
* `Snowflake.parts?`: the four fields.
* `Snowflake.ofMoment`: the least identifier of a moment.
-/

namespace ChatRecords

/-- An identifier of 64 bits. -/
structure Snowflake where
  raw : Nat
  /-- The number has at most 64 bits. -/
  raw_lt : raw < 2 ^ 64
deriving DecidableEq

namespace Snowflake

/-- The start of 2015 in milliseconds since the start of 1970. -/
def epochMs : Nat := 1420070400000

/-- Why a text or a number is not an identifier. -/
inductive Refusal where
  /-- It is not a decimal number of at most 64 bits. -/
  | malformed
  /-- It has more digits than a number may be read from. -/
  | tooManyDigits (count : Nat)
deriving DecidableEq

def ofInt? (n : Int) : Option Snowflake :=
  if h : 0 ≤ n ∧ n.toNat < 2 ^ 64 then some ⟨n.toNat, h.2⟩ else none

/-- Reads the decimal form: ASCII digits alone, at least one, leading zeros allowed. -/
def parse (s : String) : Except Refusal Snowflake :=
  let cs := s.toList
  if cs.isEmpty ∨ !cs.all Text.isAsciiDigit then .error .malformed
  else if Text.digitLimit < cs.length then .error (.tooManyDigits cs.length)
  else
    match ofInt? (Text.natOfDigits cs) with
    | some x => .ok x
    | none => .error .malformed

def format (x : Snowflake) : String := toString x.raw

/-- The form that names the kind of identifier. -/
def display (x : Snowflake) : String := "Snowflake(" ++ x.format ++ ")"

/-- The instant the identifier was made, in milliseconds since the start of 1970. -/
def timestampMs (x : Snowflake) : Nat := x.raw >>> 22 + epochMs

def workerId (x : Snowflake) : Nat := x.raw >>> 17 &&& 0x1F

def processId (x : Snowflake) : Nat := x.raw >>> 12 &&& 0x1F

/-- The running number of the identifier within its process. -/
def increment (x : Snowflake) : Nat := x.raw &&& 0xFFF

/-- Shifted down to its lowest bit, the time is a quotient. -/
theorem timestampMs_eq (x : Snowflake) : x.timestampMs = x.raw / 2 ^ 22 + epochMs := by
  rw [timestampMs, Nat.shiftRight_eq_div_pow]

/-- Masking to some low bits leaves a remainder. -/
theorem workerId_eq (x : Snowflake) : x.workerId = x.raw / 2 ^ 17 % 2 ^ 5 := by
  rw [workerId, Nat.shiftRight_eq_div_pow]
  exact Nat.and_two_pow_sub_one_eq_mod _ 5

theorem processId_eq (x : Snowflake) : x.processId = x.raw / 2 ^ 12 % 2 ^ 5 := by
  rw [processId, Nat.shiftRight_eq_div_pow]
  exact Nat.and_two_pow_sub_one_eq_mod _ 5

theorem increment_eq (x : Snowflake) : x.increment = x.raw % 2 ^ 12 :=
  Nat.and_two_pow_sub_one_eq_mod x.raw 12

/-- The fields of an identifier. -/
structure Parts where
  timestampMs : Nat
  workerId : Nat
  processId : Nat
  increment : Nat
deriving DecidableEq

def fields (x : Snowflake) : Parts := ⟨x.timestampMs, x.workerId, x.processId, x.increment⟩

/-- The four fields; the identifier zero has none. -/
def parts? (x : Snowflake) : Option Parts := if x.raw = 0 then none else some x.fields

/-- The moment the identifier was made, in universal time. -/
def createdAt? (x : Snowflake) : Option Moment :=
  Moment.ofInstant? ((x.timestampMs : Int) * 1000)

/-- Why a moment has no identifier. -/
inductive MomentRefusal where
  /-- It lies before the start of 2015. -/
  | early (m : Moment)
  /-- Its number has more than 64 bits. -/
  | late (raw : Int)

/-- The least identifier that can be made at a moment; a naive moment is in universal time. -/
def ofMoment (m : Moment) : Except MomentRefusal Snowflake :=
  let m := if m.isAware then m else { m with offset := some .utc }
  let ms := Int.fdiv m.instant 1000 - epochMs
  if ms < 0 then .error (.early m)
  else
    match ofInt? (ms * 2 ^ 22) with
    | some x => .ok x
    | none => .error (.late (ms * 2 ^ 22))

end Snowflake
end ChatRecords
