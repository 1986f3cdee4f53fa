import ChatRecords.Proofs.Lock.Exclusion

/-!
# Settling

No thread sleeps on a lock that it could have, and what becomes of the threads when all those that
were notified have run, in whatever order they do.

## Main definitions

* `ReadWriteLock.Alert`: every thread that sleeps must wait or was notified.
* `ReadWriteLock.Settled`: no notified thread has yet to run.
* `ReadWriteLock.Settles`: what a call leads to when the notified threads run after it.
* `ReadWriteLock.SettledRun`: what calls in a row lead to, when the threads settle after each.

## Main results

* `ReadWriteLock.Reachable.alert`: no notification is lost.
* `ReadWriteLock.wakes_free_writer`, `ReadWriteLock.wakes_free_readers`: who holds a lock that was
  free once all have run.
* `ReadWriteLock.settled_alike`: the order in which notified threads run decides at most which
  writer is admitted.
* `ReadWriteLock.reachable_wakeups`: all of this, in the states that threads can reach.
-/

namespace ChatRecords

/-- Whether a step is a request or a release, and not a thread that looks again. -/
def LockStep.IsCall {ι : Type} (e : LockStep ι) : Prop := ∀ t, e ≠ .wake t

namespace ReadWriteLock

variable {ι : Type} [DecidableEq ι]

/-- Every thread that sleeps and was not notified must wait. -/
def Alert (s : ReadWriteLock ι) : Prop :=
  ∀ access t, s.phase? t = some (.waiting access false) → s.mustWait access = true

/-- Nobody can run: no thread has been notified that has not looked again. -/
def Settled (s : ReadWriteLock ι) : Prop := s.notified = []

/-! ## No notification is lost -/

theorem alert_free : (free : ReadWriteLock ι).Alert := by
  intro access t h
  simp [free, phase?] at h

/-- After all were notified, nobody sleeps without a notification. -/
theorem alert_notifyAll (s : ReadWriteLock ι) : s.notifyAll.Alert := by
  intro access t h
  rw [phase?_notifyAll] at h
  cases hp : s.phase? t with
  | none => simp [hp] at h
  | some p => cases p <;> simp [hp, LockPhase.notify] at h

omit [DecidableEq ι] in
/-- Whoever must wait still must once another thread is admitted. -/
theorem mustWait_enter {s : ReadWriteLock ι} {access other : Access}
    (h : s.mustWait access = true) : (enter other s).mustWait access = true := by
  cases other <;> cases access <;> simp_all [mustWait, enter]

theorem Alert.request {s : ReadWriteLock ι} (h : s.Alert) (a : Access) (t : ι) :
    (s.request a t).Alert := by
  intro access u hu
  rw [phase?_request] at hu
  have hcounters : s.mustWait access = true → (s.request a t).mustWait access = true := by
    intro hwait
    unfold ReadWriteLock.request
    split
    · exact hwait
    · split
      · cases a <;> cases access <;> simp_all [mustWait]
      · exact mustWait_enter (s := { s with users := _ }) hwait
  apply hcounters
  split at hu
  · split at hu
    · next hwait =>
      obtain rfl : a = access := by simpa using hu
      exact hwait
    · simp at hu
  · exact h access u hu

theorem Alert.wake {s : ReadWriteLock ι} (h : s.Alert) (t : ι) : (s.wake t).Alert := by
  intro access u hu
  by_cases hphase : ∃ a, s.phase? t = some (.waiting a true)
  · obtain ⟨a, hphase⟩ := hphase
    have hcounters : s.mustWait access = true → (s.wake t).mustWait access = true := by
      intro hwait
      simp only [ReadWriteLock.wake, hphase]
      split
      · exact hwait
      · -- a writer that is admitted no longer waits, but it is active
        cases a with
        | read => exact mustWait_enter (s := s.setPhase t _) hwait
        | write => cases access <;> simp [mustWait, enter]
    apply hcounters
    rw [phase?_wake s t u a hphase] at hu
    split at hu
    · split at hu
      · next hwait =>
        obtain rfl : a = access := by simpa using hu
        exact hwait
      · simp at hu
    · exact h access u hu
  · have hself := wake_eq_self s t fun a ha => hphase ⟨a, ha⟩
    rw [hself] at hu ⊢
    exact h access u hu

theorem Alert.release {s : ReadWriteLock ι} (h : s.Alert) (t : ι) : (s.release t).Alert := by
  unfold ReadWriteLock.release
  split
  · next a hphase =>
    cases a with
    | read =>
      simp only
      split
      · exact alert_notifyAll _
      · next hreaders =>
        -- other readers are left, so that writers must wait, and readers are not concerned
        intro access u hu
        have hu' : s.phase? u = some (.waiting access false) := by
          have hlookup := lookup_filter_phase s t u
          rw [phase?, hlookup] at hu
          split at hu
          · cases hu
          · exact hu
        have hwait := h access u hu'
        cases access with
        | read => exact hwait
        | write => simp [mustWait, hreaders]
    | write => exact alert_notifyAll _
  · exact h

theorem Reachable.alert {s : ReadWriteLock ι} (h : s.Reachable) : s.Alert := by
  induction h with
  | free => exact alert_free
  | step e _ ih =>
    cases e with
    | request access t => exact ih.request access t
    | wake t => exact ih.wake t
    | release t => exact ih.release t

/-! ## Settled states -/

theorem mem_notified_iff {s : ReadWriteLock ι} (h : s.Consistent) (t : ι) :
    t ∈ s.notified ↔ ∃ access, s.phase? t = some (.waiting access true) := by
  simp only [notified, List.mem_filterMap, phase?_eq_some_iff s h.distinct]
  constructor
  · rintro ⟨⟨u, p⟩, hmem, hp⟩
    cases p with
    | waiting access notified =>
      cases notified with
      | true =>
        obtain rfl : u = t := by simpa using hp
        exact ⟨access, hmem⟩
      | false => simp at hp
    | holding access => simp at hp
  · rintro ⟨access, hmem⟩
    exact ⟨_, hmem, rfl⟩

theorem settled_iff {s : ReadWriteLock ι} (h : s.Consistent) :
    s.Settled ↔ ∀ access t, s.phase? t ≠ some (.waiting access true) := by
  rw [Settled, List.eq_nil_iff_forall_not_mem]
  simp only [mem_notified_iff h, not_exists]
  exact forall_comm

/-- The conditions that threads wait for, in terms of the threads. -/
theorem Consistent.mustWait_iff {s : ReadWriteLock ι} (h : s.Consistent) (access : Access) :
    s.mustWait access = true ↔
      (∃ t, s.Holds .write t) ∨
        match access with
        | .read => ∃ t, s.Awaits .write t
        | .write => ∃ t, s.Holds .read t := by
  rw [← h.writerActive_iff]
  cases access with
  | read =>
    have hwaiting : (∃ t, s.Awaits .write t) ↔ s.writersWaiting ≠ 0 := by
      constructor
      · rintro ⟨t, ht⟩
        exact (pos_of_exists h.encard_waiting ht).ne'
      · exact fun hne => exists_of_encard_pos h.encard_waiting (Nat.pos_of_ne_zero hne)
    simp [mustWait, hwaiting]
  | write =>
    have hreaders : (∃ t, s.Holds .read t) ↔ s.readers ≠ 0 := by
      constructor
      · rintro ⟨t, ht⟩
        exact (pos_of_exists h.encard_readers ht).ne'
      · exact fun hne => exists_of_encard_pos h.encard_readers (Nat.pos_of_ne_zero hne)
    simp [mustWait, hreaders]

/-- In a settled state, whoever waits must wait. -/
theorem Settled.mustWait {s : ReadWriteLock ι} (h : s.Reachable) (hsettled : s.Settled)
    {access : Access} {t : ι} (ht : s.Awaits access t) : s.mustWait access = true := by
  obtain ⟨notified, hphase⟩ := ht
  cases notified with
  | true => exact absurd hphase ((settled_iff h.consistent).1 hsettled access t)
  | false => exact h.alert access t hphase

/-! ## The threads that use a lock -/

theorem Holds.not_awaits {s : ReadWriteLock ι} {a b : Access} {t : ι} (ha : s.Holds a t) :
    ¬s.Awaits b t := by
  rintro ⟨notified, hb⟩
  cases ha.symm.trans hb

theorem phase?_eq_none_iff (s : ReadWriteLock ι) (t : ι) :
    s.phase? t = none ↔ ∀ access, ¬s.Holds access t ∧ ¬s.Awaits access t := by
  constructor
  · intro hnone access
    simp [Holds, Awaits, hnone]
  · intro h
    cases hphase : s.phase? t with
    | none => rfl
    | some p =>
      cases p with
      | waiting access notified => exact absurd ⟨notified, hphase⟩ (h access).2
      | holding access => exact absurd hphase (h access).1

theorem holds_request_iff (s : ReadWriteLock ι) (a b : Access) (t u : ι) :
    (s.request a t).Holds b u ↔
      s.Holds b u ∨ (u = t ∧ b = a ∧ s.phase? t = none ∧ s.mustWait a = false) := by
  rw [Holds, phase?_request]
  split
  · next hu =>
    obtain ⟨rfl, hnone⟩ := hu
    cases hwait : s.mustWait a <;> simp [Holds, hnone, eq_comm]
  · next hu =>
    constructor
    · exact .inl
    · rintro (h | ⟨rfl, -, hnone, -⟩)
      · exact h
      · exact absurd ⟨rfl, hnone⟩ hu

theorem awaits_request_iff (s : ReadWriteLock ι) (a b : Access) (t u : ι) :
    (s.request a t).Awaits b u ↔
      s.Awaits b u ∨ (u = t ∧ b = a ∧ s.phase? t = none ∧ s.mustWait a = true) := by
  simp only [Awaits, phase?_request]
  split
  · next hu =>
    obtain ⟨rfl, hnone⟩ := hu
    cases hwait : s.mustWait a <;> simp [hnone, eq_comm]
  · next hu =>
    constructor
    · exact .inl
    · rintro (h | ⟨rfl, -, hnone, -⟩)
      · exact h
      · exact absurd ⟨rfl, hnone⟩ hu

theorem holds_release_iff (s : ReadWriteLock ι) (b : Access) (t u : ι) :
    (s.release t).Holds b u ↔ s.Holds b u ∧ u ≠ t := by
  by_cases hu : u = t
  · subst hu
    by_cases hholds : ∃ a, s.Holds a u
    · obtain ⟨a, hholds⟩ := hholds
      simp [Holds, phase?_release_self s u a hholds]
    · rw [release_eq_self s u fun a ha => hholds ⟨a, ha⟩]
      simpa using fun h => hholds ⟨b, h⟩
  · rw [holds_release_of_ne s b t u hu]
    simp [hu]

/-- A thread that gives the lock back leaves the waiting ones where they are. -/
theorem awaits_release_iff (s : ReadWriteLock ι) (b : Access) (t u : ι) :
    (s.release t).Awaits b u ↔ s.Awaits b u := by
  by_cases hholds : ∃ a, s.Holds a t
  · obtain ⟨a, hholds⟩ := hholds
    by_cases hu : u = t
    · subst hu
      simpa [Awaits, phase?_release_self s u a hholds] using hholds.not_awaits (b := b)
    · rcases phase?_release_of_ne s t u hu with h | h
      · rw [Awaits, h, Awaits]
      · rw [Awaits, h, Awaits]
        cases s.phase? u with
        | none => simp
        | some p => cases p <;> simp [LockPhase.notify]
  · rw [release_eq_self s t fun a ha => hholds ⟨a, ha⟩]

/-- A thread that was notified and need not wait is admitted; nobody else is concerned. -/
theorem holds_wake_iff (s : ReadWriteLock ι) (b : Access) (t u : ι) :
    (s.wake t).Holds b u ↔
      s.Holds b u ∨ (u = t ∧ s.phase? t = some (.waiting b true) ∧ s.mustWait b = false) := by
  by_cases hphase : ∃ a, s.phase? t = some (.waiting a true)
  · obtain ⟨a, hphase⟩ := hphase
    rw [Holds, phase?_wake s t u a hphase]
    split
    · next hu =>
      subst hu
      cases hwait : s.mustWait a with
      | true =>
        simp only [if_true, Holds, hphase]
        grind
      | false =>
        simp only [Holds, hphase]
        grind
    · next hu => simp [Holds, hu]
  · rw [wake_eq_self s t fun a ha => hphase ⟨a, ha⟩]
    have hb : s.phase? t ≠ some (.waiting b true) := fun h => hphase ⟨b, h⟩
    simp [hb]

theorem awaits_wake_iff (s : ReadWriteLock ι) (b : Access) (t u : ι) :
    (s.wake t).Awaits b u ↔
      s.Awaits b u ∧ ¬(u = t ∧ s.phase? t = some (.waiting b true) ∧ s.mustWait b = false) := by
  by_cases hphase : ∃ a, s.phase? t = some (.waiting a true)
  · obtain ⟨a, hphase⟩ := hphase
    simp only [Awaits, phase?_wake s t u a hphase]
    split
    · next hu =>
      subst hu
      simp only [hphase]
      grind
    · next hu => simp [hu]
  · rw [wake_eq_self s t fun a ha => hphase ⟨a, ha⟩]
    have hb : s.phase? t ≠ some (.waiting b true) := fun h => hphase ⟨b, h⟩
    simp [hb]

/-! ## Threads that wake up -/

/-- The lock after threads have woken up, one after another. -/
def wakes (order : List ι) (s : ReadWriteLock ι) : ReadWriteLock ι :=
  s.run (order.map LockStep.wake)

@[simp] theorem wakes_nil (s : ReadWriteLock ι) : s.wakes [] = s := rfl

@[simp] theorem wakes_cons (t : ι) (rest : List ι) (s : ReadWriteLock ι) :
    s.wakes (t :: rest) = (s.wake t).wakes rest := rfl

theorem Reachable.wakes {s : ReadWriteLock ι} (h : s.Reachable) (order : List ι) :
    (s.wakes order).Reachable := h.run _

theorem settle_eq_wakes (s : ReadWriteLock ι) : s.settle = s.wakes s.notified := by
  rw [settle, wakes, run, List.foldl_map]
  rfl

/-- Threads that wake up use the lock as before, or hold it now. -/
theorem uses_wakes_iff (order : List ι) (s : ReadWriteLock ι) (a : Access) (t : ι) :
    (s.wakes order).Holds a t ∨ (s.wakes order).Awaits a t ↔ s.Holds a t ∨ s.Awaits a t := by
  induction order generalizing s with
  | nil => rfl
  | cons u rest ih =>
    rw [wakes_cons, ih, holds_wake_iff, awaits_wake_iff]
    constructor
    · rintro ((h | ⟨rfl, hphase, -⟩) | ⟨h, -⟩)
      · exact .inl h
      · exact .inr ⟨true, hphase⟩
      · exact .inr h
    · rintro (h | h)
      · exact .inl (.inl h)
      · by_cases hadmitted : t = u ∧ s.phase? u = some (.waiting a true) ∧ s.mustWait a = false
        · exact .inl (.inr hadmitted)
        · exact .inr ⟨h, hadmitted⟩

theorem uses_wakes_of_free {order : List ι} {s s' : ReadWriteLock ι} (hs' : s' = s.wakes order)
    (hfree : ∀ a t, ¬s.Holds a t) (a : Access) (t : ι) :
    s'.Holds a t ∨ s'.Awaits a t ↔ s.Awaits a t := by
  rw [hs', uses_wakes_iff]
  simp [hfree]

/-- No thread that wakes up is admitted as a reader while a writer uses the lock. -/
theorem holds_read_of_wakes {order : List ι} {s : ReadWriteLock ι} (hs : s.Reachable) {w t : ι}
    (hw : s.Holds .write w ∨ s.Awaits .write w) (h : (s.wakes order).Holds .read t) :
    s.Holds .read t := by
  induction order generalizing s with
  | nil => exact h
  | cons u rest ih =>
    have hw' := (uses_wakes_iff [u] s .write w).2 hw
    have hbefore := ih (hs.step (.wake u)) hw' h
    rcases (holds_wake_iff s .read u t).1 hbefore with hbefore | ⟨-, -, hfree⟩
    · exact hbefore
    · have hwait : s.mustWait .read = true := by
        rw [hs.consistent.mustWait_iff]
        exact hw.imp (fun hw => ⟨w, hw⟩) fun hw => ⟨w, hw⟩
      simp [hfree] at hwait

/-- A thread that has looked again is not notified until another leaves. -/
theorem settled_wakes {order : List ι} {s : ReadWriteLock ι} (hs : s.Reachable)
    (hall : ∀ t ∈ s.notified, t ∈ order) : (s.wakes order).Settled := by
  induction order generalizing s with
  | nil => simpa [Settled, List.eq_nil_iff_forall_not_mem] using hall
  | cons u rest ih =>
    have hu := hs.step (.wake u)
    refine ih hu fun t ht => ?_
    obtain ⟨a, hphase⟩ := (mem_notified_iff hu.consistent t).1 ht
    rw [step] at hphase
    by_cases hwoken : ∃ b, s.phase? u = some (.waiting b true)
    · obtain ⟨b, hwoken⟩ := hwoken
      rw [phase?_wake s u t b hwoken] at hphase
      split at hphase
      · split at hphase <;> simp at hphase
      · next hne =>
        have hmem := hall t ((mem_notified_iff hs.consistent t).2 ⟨a, hphase⟩)
        simpa [hne] using hmem
    · rw [wake_eq_self s u fun b hb => hwoken ⟨b, hb⟩] at hphase
      have hmem := hall t ((mem_notified_iff hs.consistent t).2 ⟨a, hphase⟩)
      rcases List.mem_cons.1 hmem with rfl | hmem
      · exact absurd ⟨a, hphase⟩ hwoken
      · exact hmem

/-- In a settled state nobody has anything to look at. -/
theorem Settled.wakes_eq {s : ReadWriteLock ι} (hs : s.Reachable) (h : s.Settled)
    (order : List ι) : s.wakes order = s := by
  induction order with
  | nil => rfl
  | cons t rest ih =>
    rw [wakes_cons, wake_eq_self s t fun a => (settled_iff hs.consistent).1 h a t]
    exact ih

/-- Where nobody holds a lock that writers wait for, one of them gets it. -/
theorem wakes_free_writer {s s' : ReadWriteLock ι} {order : List ι} (hs : s.Reachable)
    (hs' : s' = s.wakes order) (hsettled : s'.Settled) (hfree : ∀ a t, ¬s.Holds a t) {v : ι}
    (hv : s.Awaits .write v) :
    ∃ w, s.Awaits .write w ∧ (∀ a t, s'.Holds a t ↔ a = .write ∧ t = w) ∧
      ∀ a t, s'.Awaits a t ↔ s.Awaits a t ∧ t ≠ w := by
  have hr' : s'.Reachable := hs' ▸ hs.wakes order
  have huses := uses_wakes_of_free hs' hfree
  have hnoreader (t : ι) : ¬s'.Holds .read t := by
    intro ht
    rw [hs'] at ht
    exact hfree .read t (holds_read_of_wakes hs (.inr hv) ht)
  obtain ⟨w, hw⟩ : ∃ w, s'.Holds .write w := by
    rcases (huses .write v).2 hv with hv' | hv'
    · exact ⟨v, hv'⟩
    · -- a writer that still waits does so for another, as there is no reader
      have hwait := hsettled.mustWait hr' hv'
      rw [hr'.consistent.mustWait_iff] at hwait
      rcases hwait with hw | ⟨t, ht⟩
      · exact hw
      · exact absurd ht (hnoreader t)
  have hholds (a : Access) (t : ι) : s'.Holds a t ↔ a = .write ∧ t = w := by
    constructor
    · intro ht
      cases a with
      | read => exact absurd ht (hnoreader t)
      | write => exact ⟨rfl, hr'.consistent.eq_of_writers ht hw⟩
    · rintro ⟨rfl, rfl⟩
      exact hw
  refine ⟨w, (huses .write w).1 (.inl hw), hholds, fun a t => ⟨fun ht => ?_, fun ⟨ht, hne⟩ => ?_⟩⟩
  · refine ⟨(huses a t).1 (.inr ht), ?_⟩
    rintro rfl
    exact hw.not_awaits ht
  · rcases (huses a t).2 ht with ht | ht
    · exact absurd ((hholds a t).1 ht).2 hne
    · exact ht

/-- Where nobody holds a lock that only readers wait for, all of them get it. -/
theorem wakes_free_readers {s s' : ReadWriteLock ι} {order : List ι} (hs : s.Reachable)
    (hs' : s' = s.wakes order) (hsettled : s'.Settled) (hfree : ∀ a t, ¬s.Holds a t)
    (hnone : ∀ v, ¬s.Awaits .write v) :
    (∀ a t, s'.Holds a t ↔ s.Awaits a t) ∧ ∀ a t, ¬s'.Awaits a t := by
  have hr' : s'.Reachable := hs' ▸ hs.wakes order
  have huses := uses_wakes_of_free hs' hfree
  have hwaiting (a : Access) (t : ι) : ¬s'.Awaits a t := by
    intro ht
    cases a with
    | read =>
      -- a reader that waits does so for a writer, and there is none
      have hwait := hsettled.mustWait hr' ht
      rw [hr'.consistent.mustWait_iff] at hwait
      rcases hwait with ⟨w, hw⟩ | ⟨w, hw⟩
      · exact hnone w ((huses .write w).1 (.inl hw))
      · exact hnone w ((huses .write w).1 (.inr hw))
    | write => exact hnone t ((huses .write t).1 (.inr ht))
  refine ⟨fun a t => ?_, hwaiting⟩
  rw [← huses a t, or_iff_left (hwaiting a t)]

/-! ## Calls -/

theorem nobody_of_counters {s : ReadWriteLock ι} (h : s.Consistent) (hreaders : s.readers = 0)
    (hwriter : s.writerActive = false) (a : Access) (t : ι) : ¬s.Holds a t := by
  intro ht
  cases a with
  | read =>
    have := pos_of_exists h.encard_readers ht
    omega
  | write =>
    have := h.writerActive_iff.2 ⟨t, ht⟩
    simp [hwriter] at this

/-- A thread that leaves notifies others only where it leaves the lock to nobody. -/
theorem Holds.settled_or_free {s : ReadWriteLock ι} (hs : s.Reachable) (h : s.Settled) {a : Access}
    {t : ι} (hholds : s.Holds a t) :
    (s.step (.release t)).Settled ∨ ∀ b u, ¬(s.step (.release t)).Holds b u := by
  have hafter := (hs.step (.release t)).consistent
  have hphase : s.phase? t = some (.holding a) := hholds
  cases a with
  | read =>
    by_cases hreaders : s.readers - 1 = 0
    · right
      have hinactive : s.writerActive = false := by
        by_contra hactive
        have hnone := hs.consistent.alone (by simpa using hactive)
        have := pos_of_exists hs.consistent.encard_readers hholds
        omega
      apply nobody_of_counters hafter <;>
        simp [step, release, hphase, hreaders, notifyAll, hinactive]
    · left
      rw [settled_iff hafter]
      intro a u hu
      simp only [step, release, hphase, hreaders, if_false] at hu
      have hlookup := lookup_filter_phase s t u
      rw [phase?, hlookup] at hu
      split at hu
      · cases hu
      · exact (settled_iff hs.consistent).1 h a u hu
  | write =>
    right
    have hreaders := hs.consistent.alone (hs.consistent.writerActive_iff.2 ⟨t, hholds⟩)
    apply nobody_of_counters hafter <;> simp [step, release, hphase, notifyAll, hreaders]

/-- A call notifies threads only where it leaves the lock to nobody. -/
theorem settled_or_free {s : ReadWriteLock ι} (hs : s.Reachable) (h : s.Settled) {e : LockStep ι}
    (he : e.IsCall) : (s.step e).Settled ∨ ∀ a t, ¬(s.step e).Holds a t := by
  cases e with
  | wake t => exact absurd rfl (he t)
  | request access t =>
    left
    rw [settled_iff (hs.step _).consistent]
    intro a u hphase
    rw [step, phase?_request] at hphase
    split at hphase
    · split at hphase <;> simp at hphase
    · exact (settled_iff hs.consistent).1 h a u hphase
  | release t =>
    by_cases hholds : ∃ a, s.Holds a t
    · obtain ⟨a, hholds⟩ := hholds
      exact hholds.settled_or_free hs h
    · left
      rw [step, release_eq_self s t fun a ha => hholds ⟨a, ha⟩]
      exact h

/-- A call after which the notified threads run, in some order, until nobody can run. -/
structure Settles (e : LockStep ι) (s s' : ReadWriteLock ι) : Prop where
  runs : ∃ order, s' = (s.step e).wakes order
  settled : s'.Settled

/-- What calls lead to from a state, where the threads settle after each. The last call comes first,
and each with a writer: where several writers wait for the lock and one of them gets it, that is the
one. -/
inductive SettledRun (start : ReadWriteLock ι) :
    List (LockStep ι × Option ι) → ReadWriteLock ι → Prop
  | start : SettledRun start [] start
  | call {earlier : List (LockStep ι × Option ι)} {s s' : ReadWriteLock ι} {e : LockStep ι}
      {chosen : Option ι} (h : SettledRun start earlier s) (he : e.IsCall) (hs : Settles e s s')
      (hchosen : ∀ v w, v ≠ w → s.Awaits .write v → s.Awaits .write w → s'.Holds .write w →
        chosen = some w) :
      SettledRun start ((e, chosen) :: earlier) s'

section

variable {start : ReadWriteLock ι} (hreach : start.Reachable) (hsettled : start.Settled)
include hreach

theorem SettledRun.reachable {calls : List (LockStep ι × Option ι)} {s : ReadWriteLock ι}
    (h : SettledRun start calls s) : s.Reachable := by
  induction h with
  | start => exact hreach
  | call _ _ hs _ ih =>
    obtain ⟨⟨order, rfl⟩, -⟩ := hs
    exact (ih.step _).wakes order

omit hreach in
include hsettled in
theorem SettledRun.settled {calls : List (LockStep ι × Option ι)} {s : ReadWriteLock ι}
    (h : SettledRun start calls s) : s.Settled := by
  cases h with
  | start => exact hsettled
  | call _ _ hs _ => exact hs.settled

end

/-- The same threads hold two locks and wait for them. -/
def SameUse (s s' : ReadWriteLock ι) : Prop :=
  ∀ a t, (s.Holds a t ↔ s'.Holds a t) ∧ (s.Awaits a t ↔ s'.Awaits a t)

theorem SameUse.mustWait_eq {s s' : ReadWriteLock ι} (h : SameUse s s') (hs : s.Reachable)
    (hs' : s'.Reachable) (a : Access) : s.mustWait a = s'.mustWait a := by
  rw [Bool.eq_iff_iff, hs.consistent.mustWait_iff, hs'.consistent.mustWait_iff]
  cases a <;> simp only [(h _ _).1, (h _ _).2]

theorem SameUse.call {s s' : ReadWriteLock ι} (h : SameUse s s') (hs : s.Reachable)
    (hs' : s'.Reachable) {e : LockStep ι} (he : e.IsCall) : SameUse (s.step e) (s'.step e) := by
  intro a u
  cases e with
  | wake t => exact absurd rfl (he t)
  | request access t =>
    have hphase : s.phase? t = none ↔ s'.phase? t = none := by
      rw [phase?_eq_none_iff, phase?_eq_none_iff]
      exact forall_congr' fun b => and_congr (not_congr (h b t).1) (not_congr (h b t).2)
    rw [step, step, holds_request_iff, holds_request_iff, awaits_request_iff, awaits_request_iff,
      hphase, h.mustWait_eq hs hs', (h a u).1, (h a u).2]
    exact ⟨Iff.rfl, Iff.rfl⟩
  | release t =>
    rw [step, step, holds_release_iff, holds_release_iff, awaits_release_iff, awaits_release_iff,
      (h a u).1, (h a u).2]
    exact ⟨Iff.rfl, Iff.rfl⟩

/-- A writer that waits for a lock which a call leaves to nobody waited before. -/
theorem awaits_of_step {s : ReadWriteLock ι} (hs : s.Reachable) {e : LockStep ι} (he : e.IsCall)
    (hfree : ∀ a t, ¬(s.step e).Holds a t) {w : ι} (hw : (s.step e).Awaits .write w) :
    s.Awaits .write w := by
  cases e with
  | wake t => exact absurd rfl (he t)
  | request access t =>
    rcases (awaits_request_iff s access .write t w).1 hw with hw | ⟨-, rfl, -, hwait⟩
    · exact hw
    · -- a writer that has to wait for the lock does so for those who hold it
      exfalso
      rw [hs.consistent.mustWait_iff] at hwait
      rcases hwait with ⟨u, hu⟩ | ⟨u, hu⟩
      · exact hfree .write u ((holds_request_iff s _ _ t u).2 (.inl hu))
      · exact hfree .read u ((holds_request_iff s _ _ t u).2 (.inl hu))
  | release t => exact (awaits_release_iff s .write t w).1 hw

/-- A call that leads from settled states with the same use leads to the same use, if it admits the
same one of several waiting writers. -/
theorem SameUse.settles {s₁ s₁' s₂ s₂' : ReadWriteLock ι} (h : SameUse s₁ s₁') (hr : s₁.Reachable)
    (hr' : s₁'.Reachable) (hquiet : s₁.Settled) (hquiet' : s₁'.Settled) {e : LockStep ι}
    (he : e.IsCall) (hs : Settles e s₁ s₂) (hs' : Settles e s₁' s₂') {chosen : Option ι}
    (hchosen : ∀ v w, v ≠ w → s₁.Awaits .write v → s₁.Awaits .write w → s₂.Holds .write w →
      chosen = some w)
    (hchosen' : ∀ v w, v ≠ w → s₁'.Awaits .write v → s₁'.Awaits .write w → s₂'.Holds .write w →
      chosen = some w) : SameUse s₂ s₂' := by
  have hsame := h.call hr hr' he
  obtain ⟨⟨order, hs₂⟩, hsettled⟩ := hs
  obtain ⟨⟨order', hs₂'⟩, hsettled'⟩ := hs'
  by_cases hheld : ∃ a t, (s₁.step e).Holds a t
  · -- the lock is held, so that the call has notified nobody
    obtain ⟨a, t, ht⟩ := hheld
    have hafter := (settled_or_free hr hquiet he).resolve_right fun hfree => hfree a t ht
    have hafter' := (settled_or_free hr' hquiet' he).resolve_right
      fun hfree => hfree a t ((hsame a t).1.1 ht)
    rw [hs₂, hs₂', hafter.wakes_eq (hr.step e), hafter'.wakes_eq (hr'.step e)]
    exact hsame
  have hfree (a : Access) (t : ι) : ¬(s₁.step e).Holds a t := fun ht => hheld ⟨a, t, ht⟩
  have hfree' (a : Access) (t : ι) : ¬(s₁'.step e).Holds a t :=
    fun ht => hfree a t ((hsame a t).1.2 ht)
  by_cases hwriters : ∃ v, (s₁.step e).Awaits .write v
  · obtain ⟨v, hv⟩ := hwriters
    obtain ⟨w, hw, hholds, hawaits⟩ := wakes_free_writer (hr.step e) hs₂ hsettled hfree hv
    obtain ⟨w', hw', hholds', hawaits'⟩ :=
      wakes_free_writer (hr'.step e) hs₂' hsettled' hfree' ((hsame .write v).2.1 hv)
    obtain rfl : w = w' := by
      by_contra hne
      have hbefore := awaits_of_step hr he hfree hw
      have hbefore' := awaits_of_step hr' he hfree' hw'
      have hfirst := hchosen w' w (Ne.symm hne) ((h .write w').2.2 hbefore') hbefore
        ((hholds _ _).2 ⟨rfl, rfl⟩)
      have hsecond := hchosen' w w' hne ((h .write w).2.1 hbefore) hbefore'
        ((hholds' _ _).2 ⟨rfl, rfl⟩)
      rw [hfirst] at hsecond
      exact hne (Option.some.inj hsecond)
    intro a t
    rw [hholds, hholds', hawaits, hawaits', (hsame a t).2]
    exact ⟨Iff.rfl, Iff.rfl⟩
  · have hnone (v : ι) : ¬(s₁.step e).Awaits .write v := fun hv => hwriters ⟨v, hv⟩
    have hnone' (v : ι) : ¬(s₁'.step e).Awaits .write v :=
      fun hv => hnone v ((hsame .write v).2.2 hv)
    obtain ⟨hholds, hawaits⟩ := wakes_free_readers (hr.step e) hs₂ hsettled hfree hnone
    obtain ⟨hholds', hawaits'⟩ := wakes_free_readers (hr'.step e) hs₂' hsettled' hfree' hnone'
    intro a t
    rw [hholds, hholds', (hsame a t).2]
    exact ⟨Iff.rfl, iff_of_false (hawaits a t) (hawaits' a t)⟩

/-- The order in which notified threads run makes no difference to who uses a lock, apart from the
choice among several waiting writers. -/
theorem settled_alike {start : ReadWriteLock ι} (hreach : start.Reachable)
    (hstart : start.Settled) {calls : List (LockStep ι × Option ι)} {s s' : ReadWriteLock ι}
    (h : SettledRun start calls s) (h' : SettledRun start calls s') : SameUse s s' := by
  induction h generalizing s' with
  | start =>
    cases h'
    exact fun _ _ => ⟨Iff.rfl, Iff.rfl⟩
  | call h he hs hchosen ih =>
    obtain _ | ⟨h', -, hs', hchosen'⟩ := h'
    exact (ih h').settles (h.reachable hreach) (h'.reachable hreach) (h.settled hstart)
      (h'.settled hstart) he hs hs' hchosen hchosen'

/-! ## Who waits, and for whom -/

section

variable {s : ReadWriteLock ι} (hs : s.Reachable) (h : s.Settled)
include hs h

theorem Settled.exists_holds {t : ι} (ht : s.Awaits .write t) : ∃ a u, s.Holds a u := by
  have hwait := h.mustWait hs ht
  rw [hs.consistent.mustWait_iff] at hwait
  rcases hwait with ⟨u, hu⟩ | ⟨u, hu⟩
  · exact ⟨_, u, hu⟩
  · exact ⟨_, u, hu⟩

theorem Settled.exists_writer {t : ι} (ht : s.Awaits .read t) :
    ∃ u, s.Holds .write u ∨ s.Awaits .write u := by
  have hwait := h.mustWait hs ht
  rw [hs.consistent.mustWait_iff] at hwait
  rcases hwait with ⟨u, hu⟩ | ⟨u, hu⟩
  · exact ⟨u, .inl hu⟩
  · exact ⟨u, .inr hu⟩

/-- A reader waits for a writer, and a writer for whoever holds the lock. -/
theorem Settled.not_awaits (hfree : ∀ a t, ¬s.Holds a t) (a : Access) (t : ι) :
    ¬s.Awaits a t := by
  have hnone (u : ι) : ¬s.Awaits .write u := by
    intro hu
    obtain ⟨b, v, hv⟩ := h.exists_holds hs hu
    exact hfree b v hv
  intro ht
  cases a with
  | read =>
    obtain ⟨u, hu | hu⟩ := h.exists_writer hs ht
    · exact hfree _ u hu
    · exact hnone u hu
  | write => exact hnone t ht

end

/-- After the last one has left, no thread holds the lock. -/
theorem free_of_last {s : ReadWriteLock ι} {t : ι} (hlast : ∀ b u, s.Holds b u → u = t) (b : Access)
    (u : ι) : ¬(s.step (.release t)).Holds b u := by
  rw [step, holds_release_iff]
  rintro ⟨hu, hne⟩
  exact hne (hlast b u hu)

/-- In every state that threads can reach, whoever sleeps without a notification must wait; so in a
settled state nobody waits for a lock that nobody holds, writers wait for those who hold it, and
readers for writers. Once all notified threads have run the state is settled, and the order in which
they run makes no difference to who uses the lock, apart from the choice among several waiting
writers: when the last one leaves, exactly one waiting writer is admitted, or all readers where no
writer waits. -/
theorem reachable_wakeups (s : ReadWriteLock ι) (h : s.Reachable) :
    (∀ a t, s.phase? t = some (.waiting a false) → s.mustWait a = true) ∧
    (∀ e order, (∀ t ∈ (s.step e).notified, t ∈ order) → Settles e s ((s.step e).wakes order)) ∧
    (∀ e, Settles e s (s.step e).settle) ∧
    (s.Settled →
      ((∀ a t, ¬s.Holds a t) → ∀ a t, ¬s.Awaits a t) ∧
      (∀ t, s.Awaits .write t → ∃ a u, s.Holds a u) ∧
      (∀ t, s.Awaits .read t → ∃ u, s.Holds .write u ∨ s.Awaits .write u) ∧
      (∀ calls s₁ s₂, SettledRun s calls s₁ → SettledRun s calls s₂ → SameUse s₁ s₂) ∧
      ∀ a t s', s.Holds a t → (∀ b u, s.Holds b u → u = t) → Settles (.release t) s s' →
        ((∃ v, s.Awaits .write v) → ∃ w, s.Awaits .write w ∧
          (∀ b u, s'.Holds b u ↔ b = .write ∧ u = w) ∧
          ∀ b u, s'.Awaits b u ↔ s.Awaits b u ∧ u ≠ w) ∧
        ((∀ v, ¬s.Awaits .write v) →
          (∀ b u, s'.Holds b u ↔ s.Awaits b u) ∧ ∀ b u, ¬s'.Awaits b u)) := by
  have hsettles (e : LockStep ι) (order : List ι) (hall : ∀ t ∈ (s.step e).notified, t ∈ order) :
      Settles e s ((s.step e).wakes order) :=
    ⟨⟨order, rfl⟩, settled_wakes (h.step e) hall⟩
  refine ⟨h.alert, hsettles, fun e => ?_, fun hsettled => ?_⟩
  · rw [settle_eq_wakes]
    exact hsettles e _ fun _ ht => ht
  refine ⟨hsettled.not_awaits h, fun _ => hsettled.exists_holds h,
    fun _ => hsettled.exists_writer h, fun _ _ _ => settled_alike h hsettled, ?_⟩
  rintro a t s' ht hlast ⟨⟨order, hs'⟩, hsettled'⟩
  have hfree := free_of_last hlast
  have hawaits (b : Access) (u : ι) : (s.step (.release t)).Awaits b u ↔ s.Awaits b u :=
    awaits_release_iff s b t u
  constructor
  · rintro ⟨v, hv⟩
    simpa only [hawaits] using
      wakes_free_writer (h.step _) hs' hsettled' hfree ((hawaits _ _).2 hv)
  · intro hnone
    simpa only [hawaits] using wakes_free_readers (h.step _) hs' hsettled' hfree
      fun v hv => hnone v ((hawaits _ _).1 hv)

/-- Thread 1 reads, threads 2 and 3 wait to write and thread 4 to read. When 1 leaves, the threads
run in two different orders, in both of which 3 is the first of the writers. -/
theorem reachable_wakeups_of_two_writers :
    let s := (free : ReadWriteLock Nat).run
      [.request .read 1, .request .write 2, .request .write 3, .request .read 4]
    let s₁ := (s.step (.release 1)).wakes [4, 3, 2]
    let s₂ := (s.step (.release 1)).wakes [3, 2, 4]
    s.Reachable ∧ s.Settled ∧ s.mustWait .read = true ∧ s₁.Settled ∧ s₂.Settled ∧
      SameUse s₁ s₂ ∧ s₁.Holds .write 3 := by
  intro s s₁ s₂
  have hs : s.Reachable := Reachable.free.run _
  have hsettled : s.Settled := by unfold Settled; decide
  obtain ⟨halert, hsettles, -, hmore⟩ := reachable_wakeups s hs
  have h₁ : Settles (.release 1) s s₁ := hsettles _ _ (by decide)
  have h₂ : Settles (.release 1) s s₂ := hsettles _ _ (by decide)
  have hholds₁ : s₁.Holds .write 3 := by unfold Holds; decide
  have hholds₂ : s₂.Holds .write 3 := by unfold Holds; decide
  have hrun₁ : SettledRun s [(.release 1, some 3)] s₁ := by
    refine .call .start (by simp [LockStep.IsCall]) h₁ fun v w _ _ _ hw => ?_
    rw [((hs.step _).wakes _).consistent.eq_of_writers hw hholds₁]
  have hrun₂ : SettledRun s [(.release 1, some 3)] s₂ := by
    refine .call .start (by simp [LockStep.IsCall]) h₂ fun v w _ _ _ hw => ?_
    rw [((hs.step _).wakes _).consistent.eq_of_writers hw hholds₂]
  exact ⟨hs, hsettled, halert .read 4 (by decide), h₁.settled, h₂.settled,
    (hmore hsettled).2.2.2.1 _ _ _ hrun₁ hrun₂, hholds₁⟩

end ReadWriteLock
end ChatRecords
