import ChatRecords.Typing.Indicator

/-!
# Reapers

A typing indicator with a thread that lets its timers fire. The thread runs only while timers are
pending: it ends once there are none, and the next start of a user begins a new one.

## Main definitions

* `ReaperPhase`: what a reaper thread does between two of its atomic sections.
* `Reaped`: an indicator with its reaper threads.
* `Reaped.add`, `remove`, `reap`, `close`, `notify`, `drop`: what callers do to it.
* `Reaped.wake`, `check`, `fire`: what a reaper thread does.
* `Reaped.drain`: a run of all reaper threads in which the clock follows the timers.

## Design notes

Each operation is one section under a lock, so that every interleaving of callers and reapers is
a sequence of operations. A caller that changes the indicator notifies the sleeping reapers in
a section of its own.

The interpreter lets a thread sleep for a limited time only. A reaper that is to sleep longer ends on
the exception, and the indicator still takes it for the one that serves it.
-/

namespace ChatRecords

/-- What a reaper thread does between two of its atomic sections. -/
inductive ReaperPhase (τ : Type) where
  /-- It is about to look at the earliest timer. -/
  | checking
  /-- It sleeps, at most until a time. -/
  | sleeping (wakeAt : τ)
  /-- It saw that a timer is due and is about to let it fire. -/
  | firing
  | done
deriving DecidableEq

/-- A typing indicator with its reaper threads. -/
structure Reaped (υ τ : Type) where
  indicator : TypingIndicator υ τ
  /-- The threads that were ever started, in that order, with their phases. -/
  threads : List (ReaperPhase τ)
  /-- The position of the thread that serves the indicator. -/
  current : Option Nat
  /-- Nothing refers to the indicator any more. -/
  dropped : Bool

namespace Reaped

variable {υ τ : Type} [DecidableEq υ]

def idle (indicator : TypingIndicator υ τ) : Reaped υ τ := ⟨indicator, [], none, false⟩

/-- A user starts to type; a thread is started unless one serves the indicator. -/
def add [Add τ] [LT τ] [DecidableLT τ] (now : τ) (user : υ) (s : Reaped υ τ) : Reaped υ τ :=
  if s.indicator.closed then s
  else
    let s := { s with indicator := s.indicator.add now user }
    if s.current.isSome then s
    else { s with threads := s.threads ++ [.checking], current := some s.threads.length }

def remove (user : υ) (s : Reaped υ τ) : Reaped υ τ :=
  { s with indicator := s.indicator.remove user }

/-- A caller lets the timers due at a time fire. -/
def reap [LE τ] [DecidableLE τ] (now : τ) (s : Reaped υ τ) : Reaped υ τ :=
  { s with indicator := s.indicator.reap now }

def close (s : Reaped υ τ) : Reaped υ τ := { s with indicator := s.indicator.close }

/-- The last reference to the indicator goes away. -/
def drop (s : Reaped υ τ) : Reaped υ τ := { s with dropped := true }

def awake : ReaperPhase τ → ReaperPhase τ
  | .sleeping _ => .checking
  | p => p

def notify (s : Reaped υ τ) : Reaped υ τ := { s with threads := s.threads.map awake }

/-- One thread wakes up: its time has come, or it was told. -/
def wake (i : Nat) (s : Reaped υ τ) : Reaped υ τ :=
  { s with threads := s.threads.modify i awake }

/-- A thread that is checking looks at the earliest timer. It ends if there is none or if the
indicator is gone; else it sleeps until the timer is due, which fails beyond the longest time that
a thread can sleep, or goes on to let it fire. -/
def check [Add τ] [Sub τ] [Zero τ] [LT τ] [DecidableLT τ] (longest now : τ) (i : Nat)
    (s : Reaped υ τ) : Reaped υ τ :=
  match s.threads[i]? with
  | some .checking =>
    if s.dropped then { s with threads := s.threads.set i .done }
    else
      match s.indicator.nextDelay? now with
      | none => { s with threads := s.threads.set i .done, current := none }
      | some delay =>
        if 0 < delay then
          if longest < delay then { s with threads := s.threads.set i .done }
          else { s with threads := s.threads.set i (.sleeping (now + delay)) }
        else { s with threads := s.threads.set i .firing }
  | _ => s

/-- A thread that saw a timer due lets the timers due fire. -/
def fire [LE τ] [DecidableLE τ] (now : τ) (i : Nat) (s : Reaped υ τ) : Reaped υ τ :=
  match s.threads[i]? with
  | some .firing => { s.reap now with threads := s.threads.set i .checking }
  | _ => s

/-- The position of a thread that has not ended. -/
def running? (s : Reaped υ τ) : Option Nat :=
  s.threads.findIdx? fun p => match p with
    | .done => false
    | _ => true

def alive (s : Reaped υ τ) : Bool := s.running?.isSome

/-- At most `fuel` steps of reaper threads; the clock is moved to the end of each sleep. -/
def drain [Add τ] [Sub τ] [Zero τ] [LT τ] [DecidableLT τ] [LE τ] [DecidableLE τ] (longest : τ) :
    (fuel : Nat) → (now : τ) → Reaped υ τ → τ × Reaped υ τ
  | 0, now, s => (now, s)
  | fuel + 1, now, s =>
    match s.running? with
    | none => (now, s)
    | some i =>
      match s.threads[i]? with
      | some (.sleeping wakeAt) =>
        drain longest fuel (if now < wakeAt then wakeAt else now) (s.wake i)
      | some .firing => drain longest fuel now (s.fire now i)
      | _ => drain longest fuel now (s.check longest now i)

/-- Enough steps for the reaper threads to end: each timer takes four at most. -/
def drainFuel (s : Reaped υ τ) : Nat := 4 * (s.indicator.timers.length + s.threads.length + 1)

/-- Whether nobody types and no reaper thread runs. -/
def drained [LT τ] [DecidableLT τ] (now : τ) (s : Reaped υ τ) : Bool :=
  (s.indicator.users now).isEmpty && !s.alive

end Reaped
end ChatRecords
