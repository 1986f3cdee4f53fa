import ChatRecords.Calendar.Date

/-!
# Moments

A day, a time of day with microseconds and, unless the moment is naive, its distance from
universal time. Only moments of one sort can be compared: two aware moments by the instants
they denote, two naive ones by their fields.

## Main definitions

* `Moment`: a point in local time.
* `Moment.fields`: its fields as a list.
* `Moment.instant`: microseconds since 1970, where a naive moment counts as universal time.
* `Moment.ofInstant?`: the aware moment, in universal time, of an instant.
* `Moment.precedes?`: strict order, where it is defined.
-/

namespace ChatRecords

/-- Whether four numbers name a time of day. -/
def IsTimeOfDay (hour minute second microsecond : Nat) : Prop :=
  hour < 24 ∧ minute < 60 ∧ second < 60 ∧ microsecond < 1000000

instance (hour minute second microsecond : Nat) :
    Decidable (IsTimeOfDay hour minute second microsecond) := by
  unfold IsTimeOfDay; infer_instance

/-- A time of day. -/
structure TimeOfDay where
  hour : Nat
  minute : Nat
  second : Nat
  microsecond : Nat
  valid : IsTimeOfDay hour minute second microsecond
deriving DecidableEq

/-- A distance from universal time, shorter than a day. -/
structure Offset where
  /-- The microseconds that local time is ahead of universal time. -/
  microseconds : Int
  /-- The distance is shorter than a day. -/
  valid : -86400000000 < microseconds ∧ microseconds < 86400000000
deriving DecidableEq

/-- A point in local time, with its distance from universal time unless it is naive. -/
structure Moment where
  date : Date
  time : TimeOfDay
  offset : Option Offset
deriving DecidableEq

namespace TimeOfDay

def of? (hour minute second microsecond : Nat) : Option TimeOfDay :=
  if h : IsTimeOfDay hour minute second microsecond then
    some ⟨hour, minute, second, microsecond, h⟩
  else none

def midnight : TimeOfDay := ⟨0, 0, 0, 0, by decide⟩

/-- The fields of a time of day, from the hour down. -/
def fields (t : TimeOfDay) : List Nat := [t.hour, t.minute, t.second, t.microsecond]

def microseconds (t : TimeOfDay) : Nat :=
  ((t.hour * 60 + t.minute) * 60 + t.second) * 1000000 + t.microsecond

/-- The time of day that is `n` microseconds after midnight. -/
def ofMicroseconds? (n : Nat) : Option TimeOfDay :=
  of? (n / 3600000000) (n / 60000000 % 60) (n / 1000000 % 60) (n % 1000000)

end TimeOfDay

namespace Offset

/-- The offset of a number of seconds, if it is shorter than a day. -/
def of? (seconds : Int) : Option Offset :=
  if h : -86400 < seconds ∧ seconds < 86400 then some ⟨seconds * 1000000, by omega⟩ else none

def utc : Offset := ⟨0, by decide⟩

end Offset

namespace Moment

/-- The moment with given fields, and with a distance from universal time in seconds if there is
one. -/
def of? (year month day hour minute second microsecond : Nat) (offset : Option Int) :
    Option Moment := do
  let date ← Date.of? year month day
  let time ← TimeOfDay.of? hour minute second microsecond
  match offset with
  | none => pure ⟨date, time, none⟩
  | some seconds => pure ⟨date, time, some (← Offset.of? seconds)⟩

def microsecondsPerDay : Nat := 86400000000

def epochOrdinal : Nat := 719162

/-- Whether the moment has a distance from universal time. -/
def isAware (m : Moment) : Bool := m.offset.isSome

/-- Microseconds from the start of 1970 to the moment, as if it were in universal time. -/
def localMicroseconds (m : Moment) : Int :=
  ((m.date.ordinal : Int) - epochOrdinal) * microsecondsPerDay + m.time.microseconds

/-- Microseconds from the start of 1970, universal time, to the moment. A naive moment is taken
to be in universal time. -/
def instant (m : Moment) : Int :=
  m.localMicroseconds - (m.offset.map Offset.microseconds).getD 0

/-- The moment, in universal time, that is `n` microseconds after the start of 1970. -/
def ofInstant? (n : Int) : Option Moment :=
  let sinceFirst := n + (epochOrdinal * microsecondsPerDay : Nat)
  if sinceFirst < 0 then none
  else
    match Date.ofOrdinal? (sinceFirst.toNat / microsecondsPerDay),
      TimeOfDay.ofMicroseconds? (sinceFirst.toNat % microsecondsPerDay) with
    | some date, some time => some ⟨date, time, some .utc⟩
    | _, _ => none

/-- The fields of a moment, from the year down to the microsecond. -/
def fields (m : Moment) : List Nat := m.date.fields ++ m.time.fields

/-- Whether `a` is earlier than `b`; there is no answer if just one of them is naive. Moments with
one offset, or without any, are compared by their fields as they stand; others by the instants that
they denote. -/
def precedes? (a b : Moment) : Option Bool :=
  if a.offset = b.offset then some (decide (a.fields < b.fields))
  else if a.isAware ∧ b.isAware then some (decide (a.instant < b.instant))
  else none

end Moment
end ChatRecords
