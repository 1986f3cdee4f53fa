import ChatRecords.Entries

/-!
# Typing indicators

The users who are typing in one channel. A user who starts to type stays for a fixed time after
the last start; each start sets a timer of its own and is stamped with a fresh token. A timer
that fires takes its user out only if the user still carries its token, so a newer start or a
removal makes older timers void without searching for them.

## Main definitions

* `TypingIndicator`: the users present and the timers pending.
* `TypingIndicator.add`, `remove`, `reap`, `close`: the operations.
* `TypingIndicator.contains`, `users`: who is typing at a time.
* `TypingIndicator.nextDelay?`: how long until the earliest timer fires.

## Design notes

Time is any type with an order and a sum. The clock is read by the caller: every operation that
depends on it takes the reading as an argument. Timers are kept in the order in which they fire,
and those that fire together in the order in which they were set.
-/

namespace ChatRecords

/-- The last start of a user who is present. -/
structure Stay (τ : Type) where
  token : Nat
  deadline : τ
deriving DecidableEq

/-- A pending timer. -/
structure Timer (υ τ : Type) where
  deadline : τ
  /-- The token of the start that set it. -/
  token : Nat
  user : υ
deriving DecidableEq

/-- The users who are typing in one channel. -/
structure TypingIndicator (υ τ : Type) where
  /-- What the indicator is called in reports. -/
  name : String
  /-- How long a user stays after a start. -/
  ttl : τ
  /-- The users present, each with the last start. -/
  present : List (υ × Stay τ)
  /-- The pending timers, in the order in which they fire. -/
  timers : List (Timer υ τ)
  nextToken : Nat
  closed : Bool

namespace TypingIndicator

variable {υ τ : Type} [DecidableEq υ]

def empty (name : String) (ttl : τ) : TypingIndicator υ τ := ⟨name, ttl, [], [], 1, false⟩

/-- A timer among others in the order in which they fire; it comes after those that fire at the
same time. -/
def insertTimer [LT τ] [DecidableLT τ] (t : Timer υ τ) : List (Timer υ τ) → List (Timer υ τ)
  | [] => [t]
  | u :: rest =>
    if t.deadline < u.deadline then t :: u :: rest else u :: insertTimer t rest

def add [Add τ] [LT τ] [DecidableLT τ] (now : τ) (user : υ) (s : TypingIndicator υ τ) :
    TypingIndicator υ τ :=
  if s.closed then s
  else
    let deadline := now + s.ttl
    { s with
      present := Entries.put user ⟨s.nextToken, deadline⟩ s.present
      timers := insertTimer ⟨deadline, s.nextToken, user⟩ s.timers
      nextToken := s.nextToken + 1 }

/-- A user stops typing. The timer stays, but its token is void. -/
def remove (user : υ) (s : TypingIndicator υ τ) : TypingIndicator υ τ :=
  if s.closed then s else { s with present := Entries.erase user s.present }

/-- Whether one of some timers ends the stay of a user. -/
def ends (timers : List (Timer υ τ)) (user : υ) (stay : Stay τ) : Bool :=
  timers.any fun t => decide (t.user = user) && t.token == stay.token

def reap [LE τ] [DecidableLE τ] (now : τ) (s : TypingIndicator υ τ) : TypingIndicator υ τ :=
  let due := s.timers.takeWhile fun t => t.deadline ≤ now
  { s with
    present := s.present.filter fun e => !ends due e.1 e.2
    timers := s.timers.dropWhile fun t => t.deadline ≤ now }

/-- How many users are taken out when the timers due at a time fire. -/
def reapCount [LE τ] [DecidableLE τ] (now : τ) (s : TypingIndicator υ τ) : Nat :=
  s.present.length - (s.reap now).present.length

/-- The indicator loses its users and timers and refuses further changes. -/
def close (s : TypingIndicator υ τ) : TypingIndicator υ τ :=
  if s.closed then s else { s with present := [], timers := [], closed := true }

def contains [LT τ] [DecidableLT τ] (now : τ) (user : υ) (s : TypingIndicator υ τ) : Bool :=
  match Entries.get? user s.present with
  | some stay => decide (now < stay.deadline)
  | none => false

def users [LT τ] [DecidableLT τ] (now : τ) (s : TypingIndicator υ τ) : List υ :=
  (s.present.filter fun e => now < e.2.deadline).map Prod.fst

/-- How long until the earliest timer fires; void timers count. -/
def nextDelay? [Sub τ] (now : τ) (s : TypingIndicator υ τ) : Option τ :=
  if s.closed then none else s.timers.head?.map fun t => t.deadline - now

end TypingIndicator
end ChatRecords
