/-!
# Locks for many readers or one writer

A writer that waits keeps new readers out, so that readers cannot starve it. Threads that wait
share one condition: whoever leaves the lock free notifies all of them, and each looks again when
it runs.

## Main definitions

* `Access`, `LockPhase`: what a user asks for and how far it is.
* `ReadWriteLock`: the counters of the lock and its users.
* `ReadWriteLock.request`, `wake`, `release`: the atomic sections.
* `ReadWriteLock.settle`: all notified users run.
* `ReadWriteLock.holdAfter`, `ReadWriteLock.hold`: a section under the lock, which is released
  however it ends.

## Design notes

Each operation is one critical section: a request with its first look at the condition, a wake-up
with the next look, a release with its notification. A user is listed from its request until its
release, in the order of requests.

The lock does not know which thread asks. So a user is not a thread but one request of a thread, up
to the release that belongs to it, and no user has two requests. A thread that asks again while it
holds the lock has a second user, which counts like any other and may have to wait for the first.

A thread that sleeps goes on when it is notified, and not otherwise. An exception that comes out of
its sleep, after which a writer does not count as waiting any more, is left out.
-/

namespace ChatRecords

/-- What a user asks a lock for. -/
inductive Access where
  | read
  | write
deriving DecidableEq

/-- How far a user of a lock is. -/
inductive LockPhase where
  /-- It sleeps, and may have been notified. -/
  | waiting (access : Access) (notified : Bool)
  | holding (access : Access)
deriving DecidableEq

/-- A lock with its users. -/
structure ReadWriteLock (ι : Type) where
  readers : Nat
  writerActive : Bool
  writersWaiting : Nat
  /-- The users that wait for the lock or hold it. -/
  users : List (ι × LockPhase)

namespace ReadWriteLock

variable {ι : Type} [DecidableEq ι]

def free : ReadWriteLock ι := ⟨0, false, 0, []⟩

def mustWait (access : Access) (s : ReadWriteLock ι) : Bool :=
  match access with
  | .read => s.writerActive || s.writersWaiting != 0
  | .write => s.writerActive || s.readers != 0

/-- The lock with one more holder in its counters. -/
def enter (access : Access) (s : ReadWriteLock ι) : ReadWriteLock ι :=
  match access with
  | .read => { s with readers := s.readers + 1 }
  | .write => { s with writerActive := true }

/-- The lock with the phase of a user set. -/
def setPhase (user : ι) (phase : LockPhase) (s : ReadWriteLock ι) : ReadWriteLock ι :=
  { s with users := s.users.map fun t => if t.1 = user then (user, phase) else t }

/-- The phase of a user, from its request until its release. -/
def phase? (user : ι) (s : ReadWriteLock ι) : Option LockPhase := s.users.lookup user

def notifyAll (s : ReadWriteLock ι) : ReadWriteLock ι :=
  { s with users := s.users.map fun t =>
      match t.2 with
      | .waiting access _ => (t.1, .waiting access true)
      | .holding _ => t }

/-- A user asks for the lock: it is admitted or goes to sleep. One that has asked already has no
other request. -/
def request (access : Access) (user : ι) (s : ReadWriteLock ι) : ReadWriteLock ι :=
  if (s.phase? user).isSome then s
  else if s.mustWait access then
    let s := { s with users := s.users ++ [(user, .waiting access false)] }
    match access with
    | .read => s
    | .write => { s with writersWaiting := s.writersWaiting + 1 }
  else enter access { s with users := s.users ++ [(user, .holding access)] }

/-- A user that was notified runs and looks again: it is admitted or goes back to sleep. -/
def wake (user : ι) (s : ReadWriteLock ι) : ReadWriteLock ι :=
  match s.phase? user with
  | some (.waiting access true) =>
    if s.mustWait access then s.setPhase user (.waiting access false)
    else
      let s := enter access (s.setPhase user (.holding access))
      match access with
      | .read => s
      | .write => { s with writersWaiting := s.writersWaiting - 1 }
  | _ => s

/-- A user gives the lock back. The last reader and every writer notify those who sleep. -/
def release (user : ι) (s : ReadWriteLock ι) : ReadWriteLock ι :=
  match s.phase? user with
  | some (.holding access) =>
    let s := { s with users := s.users.filter fun t => t.1 ≠ user }
    match access with
    | .read =>
      let s := { s with readers := s.readers - 1 }
      if s.readers = 0 then s.notifyAll else s
    | .write => { s with writerActive := false }.notifyAll
  | _ => s

/-- The users that were notified and have not run since. -/
def notified (s : ReadWriteLock ι) : List ι :=
  s.users.filterMap fun t =>
    match t.2 with
    | .waiting _ true => some t.1
    | _ => none

/-- All notified users run, in the order of their requests. -/
def settle (s : ReadWriteLock ι) : ReadWriteLock ι := s.notified.foldl (fun s t => s.wake t) s

/-- The users that hold the lock, and what for. -/
def holders (s : ReadWriteLock ι) : List (ι × Access) :=
  s.users.filterMap fun t =>
    match t.2 with
    | .holding access => some (t.1, access)
    | _ => none

/-- The users that wait for the lock, and what for. -/
def waiters (s : ReadWriteLock ι) : List (ι × Access) :=
  s.users.filterMap fun t =>
    match t.2 with
    | .waiting access _ => some (t.1, access)
    | _ => none

/-- A section under a lock: the lock is requested, other threads go on until it is granted, the
section runs and may fail, and the lock is given back either way. -/
def holdAfter {α ε : Type} (access : Access) (user : ι)
    (meanwhile : ReadWriteLock ι → ReadWriteLock ι)
    (body : ReadWriteLock ι → ReadWriteLock ι × Except ε α) (s : ReadWriteLock ι) :
    ReadWriteLock ι × Except ε α :=
  let (s, result) := body (meanwhile (s.request access user))
  (s.release user, result)

/-- A section under a lock that is free for it. -/
def hold {α ε : Type} (access : Access) (user : ι)
    (body : ReadWriteLock ι → ReadWriteLock ι × Except ε α) (s : ReadWriteLock ι) :
    ReadWriteLock ι × Except ε α :=
  s.holdAfter access user id body

end ReadWriteLock
end ChatRecords
