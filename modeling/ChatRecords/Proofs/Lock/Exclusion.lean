import ChatRecords.Proofs.Lock.Steps

/-!
# Exclusion

What the counters of a lock say about its users, whatever the order in which they run: they count
the readers, the writer and the waiting writers, and readers and a writer never hold the lock
together. If no thread asks for a lock that it uses already, threads are counted.

## Main definitions

* `ReadWriteLock.Consistent`: the counters agree with the phases of the users.
* `ReadWriteLock.OthersRun`: a part of a run in which one user does not ask and does not release.
* `ReadWriteLock.HeldBy`, `ReadWriteLock.AwaitedBy`: a thread holds a lock or waits for it, by one
  of its users.
* `ReadWriteLock.ReachableBy`: the states of runs in which threads ask only for locks that they do
  not use.

## Main results

* `ReadWriteLock.ReachableBy.eq_of_owner`: in such a state no thread has two users.
* `ReadWriteLock.encard_owners_le`, `ReadWriteLock.ReachableBy.encard_owners`: how many threads the
  users of a kind have.
* `ReadWriteLock.reachable_exclusion`: what the counters say, and what no step does.
-/

namespace ChatRecords
namespace ReadWriteLock

variable {ι : Type} [DecidableEq ι]

/-- The counters agree with the phases of the users. -/
structure Consistent (s : ReadWriteLock ι) : Prop where
  distinct : (s.users.map Prod.fst).Nodup
  readers_eq : s.readers = s.count (LockPhase.isHolding .read)
  /-- The writer is counted, and there is at most one. -/
  writer_eq : s.writerActive.toNat = s.count (LockPhase.isHolding .write)
  waiting_eq : s.writersWaiting = s.count (LockPhase.isWaiting .write)
  alone : s.writerActive = true → s.readers = 0

omit [DecidableEq ι] in
theorem consistent_free : (free : ReadWriteLock ι).Consistent :=
  ⟨by simp [free], rfl, rfl, rfl, by simp [free]⟩

omit [DecidableEq ι] in
theorem Consistent.notifyAll {s : ReadWriteLock ι} (h : s.Consistent) : s.notifyAll.Consistent := by
  refine ⟨?_, ?_, ?_, ?_, h.alone⟩
  · rw [notifyAll_users, List.map_map]
    exact h.distinct
  · rw [count_notifyAll s _ (LockPhase.isHolding_notify .read)]
    exact h.readers_eq
  · rw [count_notifyAll s _ (LockPhase.isHolding_notify .write)]
    exact h.writer_eq
  · rw [count_notifyAll s _ (LockPhase.isWaiting_notify .write)]
    exact h.waiting_eq

omit [DecidableEq ι] in
/-- The counters still agree after one thread has passed from one phase to another, where no phase
is that of a thread that is not listed, if they follow. -/
theorem Consistent.of_move {s s' : ReadWriteLock ι} (h : s.Consistent)
    (hkeys : (s'.users.map Prod.fst).Nodup) (old new : Option LockPhase)
    (hcount : ∀ p, s'.count p + (old.any p).toNat = s.count p + (new.any p).toNat)
    (hreaders : s'.readers + (old.any (LockPhase.isHolding .read)).toNat =
      s.readers + (new.any (LockPhase.isHolding .read)).toNat)
    (hwriter : s'.writerActive.toNat + (old.any (LockPhase.isHolding .write)).toNat =
      s.writerActive.toNat + (new.any (LockPhase.isHolding .write)).toNat)
    (hwaiting : s'.writersWaiting + (old.any (LockPhase.isWaiting .write)).toNat =
      s.writersWaiting + (new.any (LockPhase.isWaiting .write)).toNat)
    (halone : s'.writerActive = true → s'.readers = 0) : s'.Consistent := by
  have hr := hcount (LockPhase.isHolding .read)
  have hw := hcount (LockPhase.isHolding .write)
  have hq := hcount (LockPhase.isWaiting .write)
  have := h.readers_eq
  have := h.writer_eq
  have := h.waiting_eq
  exact ⟨hkeys, by omega, by omega, by omega, halone⟩

omit [DecidableEq ι] in
/-- A thread is admitted to write only where nobody holds the lock, and to read only where nobody
writes. -/
theorem alone_enter {s : ReadWriteLock ι} {access : Access} (hfree : s.mustWait access = false) :
    (enter access s).writerActive = true → (enter access s).readers = 0 := by
  cases access <;> simp_all [mustWait, enter]

theorem Consistent.request {s : ReadWriteLock ι} (h : s.Consistent) (access : Access) (t : ι) :
    (s.request access t).Consistent := by
  unfold ReadWriteLock.request
  split
  · exact h
  · next hsome =>
    have hnone : s.phase? t = none := by simpa using hsome
    have hkeys (p : LockPhase) : ((s.users ++ [(t, p)]).map Prod.fst).Nodup := by
      rw [List.map_append, List.map_singleton]
      refine List.nodup_append.2 ⟨h.distinct, List.nodup_singleton _, ?_⟩
      intro u hu v hv
      obtain ⟨⟨u', q⟩, hq, rfl⟩ := List.mem_map.1 hu
      obtain rfl : v = t := by simpa using hv
      rintro rfl
      rw [(phase?_eq_some_iff s h.distinct u' q).2 hq] at hnone
      cases hnone
    split
    · cases access with
      | read =>
        exact h.of_move (hkeys _) none (some (.waiting .read false))
          (countP_append_phase s · t _) rfl rfl rfl h.alone
      | write =>
        exact h.of_move (hkeys _) none (some (.waiting .write false))
          (countP_append_phase s · t _) rfl rfl rfl h.alone
    · next hfree =>
      have hfree : s.mustWait access = false := by simpa using hfree
      cases access with
      | read =>
        exact h.of_move (hkeys _) none (some (.holding .read))
          (countP_append_phase s · t _) rfl rfl rfl (alone_enter hfree)
      | write =>
        have hinactive : s.writerActive = false := by simp_all [mustWait]
        refine h.of_move (hkeys _) none (some (.holding .write))
          (countP_append_phase s · t _) rfl ?_ rfl (alone_enter hfree)
        simp [enter, hinactive, LockPhase.isHolding]

theorem setPhase_keys (s : ReadWriteLock ι) (t : ι) (p : LockPhase) :
    (s.setPhase t p).users.map Prod.fst = s.users.map Prod.fst := by
  simp only [setPhase, List.map_map]
  apply List.map_congr_left
  intro e _
  by_cases he : e.1 = t <;> simp [he]

theorem Consistent.wake {s : ReadWriteLock ι} (h : s.Consistent) (t : ι) :
    (s.wake t).Consistent := by
  unfold ReadWriteLock.wake
  split
  · next access hphase =>
    have hkeys (p : LockPhase) : ((s.setPhase t p).users.map Prod.fst).Nodup := by
      rw [setPhase_keys]
      exact h.distinct
    have hcount (new : LockPhase) (p : LockPhase → Bool) :=
      count_setPhase s h.distinct p t _ new hphase
    split
    · exact h.of_move (hkeys _) (some (.waiting access true)) (some (.waiting access false))
        (hcount _) rfl rfl rfl h.alone
    · next hfree =>
      have hfree : s.mustWait access = false := by simpa using hfree
      cases access with
      | read =>
        exact h.of_move (hkeys _) (some (.waiting .read true)) (some (.holding .read))
          (hcount _) rfl rfl rfl (alone_enter hfree)
      | write =>
        have hinactive : s.writerActive = false := by simp_all [mustWait]
        -- the thread itself is among the writers that wait
        have hpos : 0 < s.writersWaiting := by
          have hmove := hcount (.holding .write) (LockPhase.isWaiting .write)
          rw [h.waiting_eq]
          simp only [LockPhase.isWaiting] at hmove ⊢
          simp at hmove
          omega
        refine h.of_move (hkeys _) (some (.waiting .write true)) (some (.holding .write))
          (hcount _) rfl ?_ ?_ (alone_enter hfree)
        · simp [enter, hinactive, LockPhase.isHolding]
        · simp [enter, setPhase, LockPhase.isWaiting]
          omega
  · exact h

theorem Consistent.release {s : ReadWriteLock ι} (h : s.Consistent) (t : ι) :
    (s.release t).Consistent := by
  unfold ReadWriteLock.release
  split
  · next access hphase =>
    have hkeys : ((s.users.filter fun e => e.1 ≠ t).map Prod.fst).Nodup :=
      h.distinct.sublist (List.filter_sublist.map Prod.fst)
    have hcount (p : LockPhase → Bool) := countP_filter_phase s h.distinct p t _ hphase
    cases access with
    | read =>
      -- the thread itself is among the readers
      have hpos : 0 < s.readers := by
        have hmove := hcount (LockPhase.isHolding .read)
        rw [h.readers_eq, ← hmove]
        simp [LockPhase.isHolding]
      have hconsistent : Consistent { s with
          users := s.users.filter fun e => e.1 ≠ t, readers := s.readers - 1 } := by
        refine h.of_move hkeys (some (.holding .read)) none hcount ?_ rfl rfl ?_
        · simp [LockPhase.isHolding]
          omega
        · intro hactive
          have := h.alone hactive
          omega
      simp only
      split
      · exact hconsistent.notifyAll
      · exact hconsistent
    | write =>
      have hactive : s.writerActive = true := by
        have hmove := hcount (LockPhase.isHolding .write)
        have hwriter := h.writer_eq
        rw [← hmove] at hwriter
        cases hs : s.writerActive with
        | true => rfl
        | false => simp [hs, LockPhase.isHolding] at hwriter
      refine Consistent.notifyAll (h.of_move hkeys (some (.holding .write)) none hcount rfl ?_ rfl ?_)
      · simp [hactive, LockPhase.isHolding]
      · simp
  · exact h

theorem Consistent.step {s : ReadWriteLock ι} (h : s.Consistent) (e : LockStep ι) :
    (s.step e).Consistent := by
  cases e with
  | request access t => exact h.request access t
  | wake t => exact h.wake t
  | release t => exact h.release t

theorem Reachable.consistent {s : ReadWriteLock ι} (h : s.Reachable) : s.Consistent := by
  induction h with
  | free => exact consistent_free
  | step e _ ih => exact ih.step e

/-! ## The users that are counted -/

theorem Consistent.encard_holds {s : ReadWriteLock ι} (h : s.Consistent) (access : Access) :
    Set.encard {t | s.Holds access t} = s.count (LockPhase.isHolding access) := by
  rw [← encard_phase s h.distinct]
  congr 1
  ext t
  simp [Holds, LockPhase.isHolding]

theorem Consistent.encard_awaits {s : ReadWriteLock ι} (h : s.Consistent) (access : Access) :
    Set.encard {t | s.Awaits access t} = s.count (LockPhase.isWaiting access) := by
  rw [← encard_phase s h.distinct]
  congr 1
  ext t
  constructor
  · rintro ⟨notified, hphase⟩
    exact ⟨_, hphase, by simp [LockPhase.isWaiting]⟩
  · rintro ⟨q, hphase, hq⟩
    cases q with
    | waiting a notified =>
      obtain rfl : a = access := by simpa [LockPhase.isWaiting] using hq
      exact ⟨notified, hphase⟩
    | holding a => simp [LockPhase.isWaiting] at hq

omit [DecidableEq ι] in
/-- There are users of a kind if their number is not zero. -/
theorem exists_of_encard_pos {p : ι → Prop} {n : Nat} (hn : Set.encard {t | p t} = n)
    (hpos : 0 < n) : ∃ t, p t := by
  have hne : Set.encard {t | p t} ≠ 0 := by
    rw [hn]
    exact_mod_cast hpos.ne'
  exact Set.encard_ne_zero.1 hne

omit [DecidableEq ι] in
theorem pos_of_exists {p : ι → Prop} {n : Nat} (hn : Set.encard {t | p t} = n) {t : ι}
    (ht : p t) : 0 < n := by
  have hne : Set.encard {t | p t} ≠ 0 := Set.encard_ne_zero.2 ⟨t, ht⟩
  rw [hn] at hne
  exact Nat.pos_of_ne_zero (by exact_mod_cast hne)

theorem Consistent.encard_readers {s : ReadWriteLock ι} (h : s.Consistent) :
    Set.encard {t | s.Holds .read t} = s.readers := by
  rw [h.encard_holds, h.readers_eq]

theorem Consistent.encard_writers {s : ReadWriteLock ι} (h : s.Consistent) :
    Set.encard {t | s.Holds .write t} = (s.writerActive.toNat : Nat) := by
  rw [h.encard_holds, h.writer_eq]

theorem Consistent.encard_waiting {s : ReadWriteLock ι} (h : s.Consistent) :
    Set.encard {t | s.Awaits .write t} = s.writersWaiting := by
  rw [h.encard_awaits, h.waiting_eq]

theorem Consistent.eq_of_writers {s : ReadWriteLock ι} (h : s.Consistent) {t u : ι}
    (ht : s.Holds .write t) (hu : s.Holds .write u) : t = u := by
  have hle : Set.encard {t | s.Holds .write t} ≤ 1 := by
    rw [h.encard_writers]
    exact_mod_cast Bool.toNat_le _
  exact Set.encard_le_one_iff.1 hle t u ht hu

theorem Consistent.writerActive_iff {s : ReadWriteLock ι} (h : s.Consistent) :
    s.writerActive = true ↔ ∃ t, s.Holds .write t := by
  constructor
  · intro hactive
    exact exists_of_encard_pos h.encard_writers (by simp [hactive])
  · rintro ⟨t, ht⟩
    have hpos := pos_of_exists h.encard_writers ht
    cases hactive : s.writerActive with
    | true => rfl
    | false => simp [hactive] at hpos

/-- Nothing that a function does to a lock is done by a user, apart from looking at it again. -/
def OthersRun (t : ι) (f : ReadWriteLock ι → ReadWriteLock ι) : Prop :=
  ∀ s, ∃ steps : List (LockStep ι), (∀ e ∈ steps, e.user = t → e = .wake t) ∧ f s = s.run steps

theorem OthersRun.reachable {t : ι} {f : ReadWriteLock ι → ReadWriteLock ι} (hf : OthersRun t f)
    {s : ReadWriteLock ι} (h : s.Reachable) : (f s).Reachable := by
  obtain ⟨steps, -, hrun⟩ := hf s
  rw [hrun]
  exact h.run steps

theorem OthersRun.holds {t : ι} {f : ReadWriteLock ι → ReadWriteLock ι} (hf : OthersRun t f)
    {s : ReadWriteLock ι} {access : Access} (h : s.Holds access t) : (f s).Holds access t := by
  obtain ⟨steps, hothers, hrun⟩ := hf s
  rw [hrun]
  apply holds_run h steps
  intro hmem
  cases hothers _ hmem rfl

theorem Consistent.not_both {s : ReadWriteLock ι} (h : s.Consistent) {t u : ι} :
    ¬(s.Holds .read t ∧ s.Holds .write u) := by
  rintro ⟨ht, hu⟩
  have hreaders := pos_of_exists h.encard_readers ht
  have hnone := h.alone (h.writerActive_iff.2 ⟨u, hu⟩)
  omega

theorem Consistent.no_writer_of_admitted {s : ReadWriteLock ι} (h : s.Consistent) {e : LockStep ι}
    {t : ι} (hbefore : ¬s.Holds .read t) (hafter : (s.step e).Holds .read t) (u : ι) :
    ¬s.Holds .write u ∧ ¬s.Awaits .write u := by
  -- the user looked at the counters before the step, where they are the numbers of users
  have hfree := mustWait_of_admitted hbefore hafter
  simp only [mustWait, Bool.or_eq_false_iff, bne_eq_false_iff_eq] at hfree
  constructor
  · intro hu
    have hactive := h.writerActive_iff.2 ⟨u, hu⟩
    simp [hfree.1] at hactive
  · intro hu
    have hwaiting := pos_of_exists h.encard_waiting hu
    omega

/-! ## Threads -/

section

variable {θ : Type} (owner : ι → θ)

/-- One of the users of a thread holds the lock for an access. -/
def HeldBy (access : Access) (a : θ) (s : ReadWriteLock ι) : Prop :=
  ∃ u, owner u = a ∧ s.Holds access u

/-- One of the users of a thread waits for an access. -/
def AwaitedBy (access : Access) (a : θ) (s : ReadWriteLock ι) : Prop :=
  ∃ u, owner u = a ∧ s.Awaits access u

/-- The states that sections lead to from a lock that nobody uses, where a thread asks for the lock
only while it neither holds it nor waits for it. -/
inductive ReachableBy : ReadWriteLock ι → Prop where
  | free : ReachableBy free
  /-- A section is a request only if the thread has no user. -/
  | step {s : ReadWriteLock ι} (e : LockStep ι) (h : ReachableBy s)
      (hidle : ∀ access u, e = .request access u → ∀ v, owner v = owner u → s.phase? v = none) :
      ReachableBy (s.step e)

variable {owner}

theorem ReachableBy.reachable {s : ReadWriteLock ι} (h : s.ReachableBy owner) : s.Reachable := by
  induction h with
  | free => exact .free
  | step e _ _ ih => exact ih.step e

omit [DecidableEq ι] in
theorem notify_ne_none {p : Option LockPhase} : p.map LockPhase.notify ≠ none ↔ p ≠ none := by
  simp

/-- A step makes a user of one that was none only by its request. -/
theorem phase?_ne_none_of_step {s : ReadWriteLock ι} {e : LockStep ι} {u : ι}
    (h : (s.step e).phase? u ≠ none) : s.phase? u ≠ none ∨ ∃ access, e = .request access u := by
  cases e with
  | request access t =>
    rw [step, phase?_request] at h
    split at h
    · next ht => exact .inr ⟨access, by rw [ht.1]⟩
    · exact .inl h
  | wake t =>
    rw [step] at h
    by_cases hwoken : ∃ a, s.phase? t = some (.waiting a true)
    · obtain ⟨a, hwoken⟩ := hwoken
      rw [phase?_wake s t u a hwoken] at h
      split at h
      · next ht => exact .inl (by rw [ht, hwoken]; simp)
      · exact .inl h
    · rw [wake_eq_self s t fun a ha => hwoken ⟨a, ha⟩] at h
      exact .inl h
  | release t =>
    rw [step] at h
    by_cases ht : u = t
    · subst ht
      by_cases hholds : ∃ a, s.Holds a u
      · obtain ⟨a, hholds⟩ := hholds
        exact absurd (phase?_release_self s u a hholds) h
      · rw [release_eq_self s u fun a ha => hholds ⟨a, ha⟩] at h
        exact .inl h
    · rcases phase?_release_of_ne s t u ht with hsame | hnotified
      · exact .inl (hsame ▸ h)
      · rw [hnotified] at h
        exact .inl (notify_ne_none.1 h)

/-- A thread that asks only for locks that it does not use has one user at a time. -/
theorem ReachableBy.eq_of_owner {s : ReadWriteLock ι} (h : s.ReachableBy owner) {u v : ι}
    (hu : s.phase? u ≠ none) (hv : s.phase? v ≠ none) (howner : owner u = owner v) : u = v := by
  induction h with
  | free => exact absurd rfl hu
  | step e _ hidle ih =>
    rcases phase?_ne_none_of_step hu with hu | ⟨access, hask⟩ <;>
      rcases phase?_ne_none_of_step hv with hv | ⟨access', hask'⟩
    · exact ih hu hv
    · exact absurd (hidle access' v hask' u howner) hu
    · exact absurd (hidle access u hask v howner.symm) hv
    · rw [hask, LockStep.request.injEq] at hask'
      exact hask'.2

omit [DecidableEq ι] in
theorem owners_eq_image (p : ι → Prop) : {a | ∃ u, owner u = a ∧ p u} = owner '' {u | p u} := by
  ext a
  exact exists_congr fun u => and_comm

omit [DecidableEq ι] in
/-- There are at most as many threads as users of a kind. -/
theorem encard_owners_le (p : ι → Prop) :
    Set.encard {a | ∃ u, owner u = a ∧ p u} ≤ Set.encard {u | p u} := by
  rw [owners_eq_image]
  exact Set.encard_image_le owner _

/-- Where a thread has one user at a time, there are as many threads as users of a kind. -/
theorem ReachableBy.encard_owners {s : ReadWriteLock ι} (h : s.ReachableBy owner) {p : ι → Prop}
    (hp : ∀ u, p u → s.phase? u ≠ none) :
    Set.encard {a | ∃ u, owner u = a ∧ p u} = Set.encard {u | p u} := by
  rw [owners_eq_image]
  exact Set.InjOn.encard_image fun u hu v hv => h.eq_of_owner (hp u hu) (hp v hv)

theorem phase?_ne_none_of_holds {s : ReadWriteLock ι} {access : Access} {u : ι}
    (h : s.Holds access u) : s.phase? u ≠ none := by
  rw [show s.phase? u = _ from h]
  simp

theorem phase?_ne_none_of_awaits {s : ReadWriteLock ι} {access : Access} {u : ι}
    (h : s.Awaits access u) : s.phase? u ≠ none := by
  obtain ⟨notified, hphase⟩ := h
  rw [hphase]
  simp

theorem Consistent.writerActive_iff_heldBy {s : ReadWriteLock ι} (h : s.Consistent) :
    s.writerActive = true ↔ ∃! a, s.HeldBy owner .write a := by
  rw [h.writerActive_iff]
  constructor
  · rintro ⟨t, ht⟩
    refine ⟨owner t, ⟨t, rfl, ht⟩, ?_⟩
    rintro _ ⟨u, rfl, hu⟩
    rw [h.eq_of_writers hu ht]
  · rintro ⟨_, ⟨t, -, ht⟩, -⟩
    exact ⟨t, ht⟩

theorem Consistent.not_heldBy_both {s : ReadWriteLock ι} (h : s.Consistent) (a b : θ) :
    ¬(s.HeldBy owner .read a ∧ s.HeldBy owner .write b) := by
  rintro ⟨⟨t, -, ht⟩, u, -, hu⟩
  exact h.not_both ⟨ht, hu⟩

/-- No thread begins to read while a thread writes or waits to write. -/
theorem Consistent.no_writer_of_admittedBy {s : ReadWriteLock ι} (h : s.Consistent)
    {e : LockStep ι} {a : θ} (hbefore : ¬s.HeldBy owner .read a)
    (hafter : (s.step e).HeldBy owner .read a) (b : θ) :
    ¬s.HeldBy owner .write b ∧ ¬s.AwaitedBy owner .write b := by
  obtain ⟨t, howner, hholds⟩ := hafter
  have hnone := h.no_writer_of_admitted (fun ht => hbefore ⟨t, howner, ht⟩) hholds
  constructor
  · rintro ⟨u, -, hu⟩
    exact (hnone u).1 hu
  · rintro ⟨u, -, hu⟩
    exact (hnone u).2 hu

end

/-- In every state that can be reached, the counters of a lock are the numbers of the users that
read, write and wait to write; readers and a writer never hold the lock together; no step admits a
reader while a writer holds the lock or waits for it; and a section under the lock gives it back,
whether the section fails or not. The users are requests of threads, whichever threads these are,
and what is said of users is so of threads. Only the counters of readers and of waiting writers may
be larger than the numbers of threads, where a thread uses the lock more than once at a time; they
are the numbers of threads where each asks only for a lock that it does not use already. -/
theorem reachable_exclusion (s : ReadWriteLock ι) (h : s.Reachable) :
    Set.encard {t | s.Holds .read t} = s.readers ∧
    (s.writerActive = true ↔ ∃! t, s.Holds .write t) ∧
    (∀ t u, s.Holds .write t → s.Holds .write u → t = u) ∧
    (∀ t u, ¬(s.Holds .read t ∧ s.Holds .write u)) ∧
    Set.encard {t | s.Awaits .write t} = s.writersWaiting ∧
    (∀ e t, ¬s.Holds .read t → (s.step e).Holds .read t →
      ∀ u, ¬s.Holds .write u ∧ ¬s.Awaits .write u) ∧
    (∀ (θ : Type) (owner : ι → θ),
      (s.writerActive = true ↔ ∃! a, s.HeldBy owner .write a) ∧
      (∀ a b, ¬(s.HeldBy owner .read a ∧ s.HeldBy owner .write b)) ∧
      (∀ e a, ¬s.HeldBy owner .read a → (s.step e).HeldBy owner .read a →
        ∀ b, ¬s.HeldBy owner .write b ∧ ¬s.AwaitedBy owner .write b) ∧
      Set.encard {a | s.HeldBy owner .read a} ≤ s.readers ∧
      Set.encard {a | s.AwaitedBy owner .write a} ≤ s.writersWaiting ∧
      (s.ReachableBy owner → Set.encard {a | s.HeldBy owner .read a} = s.readers ∧
        Set.encard {a | s.AwaitedBy owner .write a} = s.writersWaiting)) ∧
    ∀ (α ε : Type) (access : Access) (t : ι) (meanwhile : ReadWriteLock ι → ReadWriteLock ι)
      (body : ReadWriteLock ι → ReadWriteLock ι × Except ε α),
      s.phase? t = none → OthersRun t meanwhile → (OthersRun t fun s => (body s).1) →
      (meanwhile (s.request access t)).Holds access t →
      let admitted := meanwhile (s.request access t)
      let left := s.holdAfter access t meanwhile body
      (body admitted).1.Holds access t ∧ left.1.phase? t = none ∧ left.1.Reachable ∧
        left.2 = (body admitted).2 := by
  have hc := h.consistent
  refine ⟨hc.encard_readers, ?_, fun _ _ => hc.eq_of_writers, fun _ _ => hc.not_both,
    hc.encard_waiting, fun _ _ => hc.no_writer_of_admitted, fun θ owner => ?_, ?_⟩
  · rw [hc.writerActive_iff]
    constructor
    · rintro ⟨t, ht⟩
      exact ⟨t, ht, fun u hu => hc.eq_of_writers hu ht⟩
    · rintro ⟨t, ht, -⟩
      exact ⟨t, ht⟩
  · rw [← hc.encard_readers, ← hc.encard_waiting]
    exact ⟨hc.writerActive_iff_heldBy, hc.not_heldBy_both, fun _ _ => hc.no_writer_of_admittedBy,
      encard_owners_le _, encard_owners_le _, fun hby =>
        ⟨hby.encard_owners fun _ => phase?_ne_none_of_holds,
          hby.encard_owners fun _ => phase?_ne_none_of_awaits⟩⟩
  · intro α ε access t meanwhile body hidle hmeanwhile hbody hadmitted
    have hholds := hbody.holds hadmitted
    have hreach := hbody.reachable (hmeanwhile.reachable (h.step (.request access t)))
    exact ⟨hholds, phase?_release_self _ _ _ hholds, hreach.step (.release t), rfl⟩

/-- User 1 writes and user 2 waits to write; user 3 asks to read, is admitted after both, and fails,
and nobody reads any more. The threads are three, and would use the lock again as users 4 to 6. -/
theorem reachable_exclusion_of_failure :
    let s := (free : ReadWriteLock Nat).run [.request .write 1, .request .write 2]
    let meanwhile := fun s : ReadWriteLock Nat =>
      s.run [.release 1, .wake 3, .wake 2, .release 2, .wake 3]
    let body := fun s : ReadWriteLock Nat => (s, (Except.error "refused" : Except String Unit))
    let left := s.holdAfter .read 3 meanwhile body
    s.Reachable ∧ Set.encard {t | s.Awaits .write t} = 1 ∧
      s.ReachableBy (· % 3) ∧ Set.encard {a | s.AwaitedBy (· % 3) .write a} = 1 ∧
      left.1.phase? 3 = none ∧ left.2 = .error "refused" ∧ left.1.readers = 0 := by
  intro s meanwhile body left
  have hs : s.Reachable := Reachable.free.run _
  obtain ⟨-, -, -, -, hwait, -, hthreads, hsection⟩ := reachable_exclusion s hs
  have hby : s.ReachableBy (· % 3) := by
    have hfirst : ((free : ReadWriteLock Nat).step (.request .write 1)).ReachableBy (· % 3) := by
      refine .step _ .free ?_
      rintro _ u ⟨⟩ v -
      rfl
    refine .step (.request .write 2) hfirst ?_
    rintro _ u ⟨⟩ v hv
    have hne : v ≠ 1 := by rintro rfl; cases hv
    simp [step, request, phase?, free, mustWait, enter, List.lookup_cons,
      beq_eq_false_iff_ne.2 hne]
  have hwaitBy := ((hthreads Nat (· % 3)).2.2.2.2.2 hby).2
  have hleft := hsection Unit String .read 3 meanwhile body (by decide)
    (fun _ => ⟨_, by decide, rfl⟩) (fun _ => ⟨[], by simp, rfl⟩) (by unfold Holds; decide)
  exact ⟨hs, hwait, hby, hwaitBy, hleft.2.1, hleft.2.2.2, by decide⟩

end ReadWriteLock
end ChatRecords
