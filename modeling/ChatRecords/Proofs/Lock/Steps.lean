import ChatRecords.Lock.ReadWrite
import Mathlib.Data.Set.Card

/-!
# Runs of a lock

The atomic sections of threads as steps, and what a step does to the phase of each user and to the
number of users in a phase.

## Main definitions

* `LockStep`, `ReadWriteLock.step`, `ReadWriteLock.run`: one section, and sections in a row.
* `ReadWriteLock.Reachable`: the states that sections lead to.
* `ReadWriteLock.count`: how many users are in some phases.
-/

namespace ChatRecords

/-- An atomic section of a thread, by the user of the lock that it is done for. -/
inductive LockStep (ι : Type) where
  | request (access : Access) (user : ι)
  /-- The user was notified and looks again. -/
  | wake (user : ι)
  | release (user : ι)
deriving DecidableEq

namespace LockStep

variable {ι : Type}

def user : LockStep ι → ι
  | request _ t | wake t | release t => t

end LockStep

namespace LockPhase

/-- Whether a user holds the lock for an access. -/
def isHolding (access : Access) (p : LockPhase) : Bool := p = .holding access

/-- Whether a user waits for an access. -/
def isWaiting (access : Access) : LockPhase → Bool
  | .waiting a _ => a = access
  | .holding _ => false

def notify : LockPhase → LockPhase
  | .waiting access _ => .waiting access true
  | .holding access => .holding access

@[simp] theorem isHolding_notify (access : Access) (p : LockPhase) :
    p.notify.isHolding access = p.isHolding access := by
  cases p <;> simp [notify, isHolding]

@[simp] theorem isWaiting_notify (access : Access) (p : LockPhase) :
    p.notify.isWaiting access = p.isWaiting access := by
  cases p <;> simp [notify, isWaiting]

end LockPhase

namespace ReadWriteLock

variable {ι : Type} [DecidableEq ι]

/-- The lock after a section of a thread. -/
def step (e : LockStep ι) (s : ReadWriteLock ι) : ReadWriteLock ι :=
  match e with
  | .request access t => s.request access t
  | .wake t => s.wake t
  | .release t => s.release t

/-- The lock after sections in a row. -/
def run (steps : List (LockStep ι)) (s : ReadWriteLock ι) : ReadWriteLock ι :=
  steps.foldl (fun s e => s.step e) s

/-- The states that sections lead to from a lock that nobody uses. -/
inductive Reachable : ReadWriteLock ι → Prop where
  | free : Reachable free
  | step {s : ReadWriteLock ι} (e : LockStep ι) (h : Reachable s) : Reachable (s.step e)

theorem Reachable.run {s : ReadWriteLock ι} (h : s.Reachable) (steps : List (LockStep ι)) :
    (s.run steps).Reachable := by
  induction steps generalizing s with
  | nil => exact h
  | cons e rest ih => exact ih (h.step e)

/-- A user holds the lock for an access. -/
def Holds (access : Access) (t : ι) (s : ReadWriteLock ι) : Prop :=
  s.phase? t = some (.holding access)

/-- A user has asked for an access and waits for it. -/
def Awaits (access : Access) (t : ι) (s : ReadWriteLock ι) : Prop :=
  ∃ notified, s.phase? t = some (.waiting access notified)

/-! ## Phases -/

omit [DecidableEq ι] in
theorem notifyAll_users (s : ReadWriteLock ι) :
    s.notifyAll.users = s.users.map fun t => (t.1, t.2.notify) := by
  simp only [notifyAll]
  apply List.map_congr_left
  rintro ⟨t, p⟩ _
  cases p <;> rfl

theorem phase?_notifyAll (s : ReadWriteLock ι) (t : ι) :
    s.notifyAll.phase? t = (s.phase? t).map LockPhase.notify := by
  rw [phase?, notifyAll_users, phase?]
  induction s.users with
  | nil => rfl
  | cons e rest ih =>
    obtain ⟨v, q⟩ := e
    by_cases hv : t = v
    · simp [hv]
    · simpa [List.lookup_cons, beq_eq_false_iff_ne.2 hv] using ih

theorem phase?_setPhase (s : ReadWriteLock ι) (t u : ι) (p : LockPhase) :
    (s.setPhase t p).phase? u = if u = t then (s.phase? u).map fun _ => p else s.phase? u := by
  simp only [phase?, setPhase]
  induction s.users with
  | nil => simp
  | cons e rest ih =>
    obtain ⟨v, q⟩ := e
    by_cases hv : v = t <;> by_cases hu : u = v <;>
      simp_all [List.lookup_cons, beq_eq_false_iff_ne.2]

/-- The phases after a thread that did not use the lock is listed. -/
theorem lookup_append_phase (s : ReadWriteLock ι) (t u : ι) (p : LockPhase)
    (hnone : s.phase? t = none) :
    (s.users ++ [(t, p)]).lookup u = if u = t then some p else s.phase? u := by
  rw [List.lookup_append]
  by_cases hu : u = t
  · subst hu
    simp [show s.users.lookup u = none from hnone]
  · simp [hu, phase?, List.lookup_cons, beq_eq_false_iff_ne.2 hu]

theorem lookup_filter_phase (s : ReadWriteLock ι) (t u : ι) :
    (s.users.filter fun e => e.1 ≠ t).lookup u = if u = t then none else s.phase? u := by
  simp only [phase?]
  induction s.users with
  | nil => simp
  | cons e rest ih =>
    obtain ⟨v, q⟩ := e
    by_cases hv : v = t
    · by_cases hu : u = t
      · simpa [hv, hu] using ih
      · simpa [hv, hu, List.lookup_cons, beq_eq_false_iff_ne.2 hu] using ih
    · by_cases hu : u = v
      · subst hu
        simp [hv]
      · simpa [hv, List.lookup_cons, beq_eq_false_iff_ne.2 hu] using ih

theorem phase?_request (s : ReadWriteLock ι) (access : Access) (t u : ι) :
    (s.request access t).phase? u =
      if u = t ∧ s.phase? t = none then
        some (if s.mustWait access then .waiting access false else .holding access)
      else s.phase? u := by
  unfold request
  split
  · next hsome =>
    have hne : s.phase? t ≠ none := Option.isSome_iff_ne_none.1 hsome
    rw [if_neg (fun h => hne h.2)]
  · next hsome =>
    have hnone : s.phase? t = none := by simpa using hsome
    have happend (p : LockPhase) := lookup_append_phase s t u p hnone
    simp only [hnone, and_true]
    split
    · cases access <;> exact happend _
    · cases access <;> exact happend _

/-- Only a thread that was notified and runs gets another phase. -/
theorem phase?_wake (s : ReadWriteLock ι) (t u : ι) (access : Access)
    (hphase : s.phase? t = some (.waiting access true)) :
    (s.wake t).phase? u =
      if u = t then some (if s.mustWait access then .waiting access false else .holding access)
      else s.phase? u := by
  have hset (p : LockPhase) :
      (s.setPhase t p).phase? u = if u = t then some p else s.phase? u := by
    rw [phase?_setPhase]
    split
    · next hu => rw [hu, hphase, Option.map_some]
    · rfl
  simp only [wake, hphase]
  split
  · exact hset _
  · cases access <;> exact hset _

theorem wake_eq_self (s : ReadWriteLock ι) (t : ι)
    (hphase : ∀ access, s.phase? t ≠ some (.waiting access true)) : s.wake t = s := by
  unfold wake
  split
  · next access h => exact absurd h (hphase access)
  · rfl

/-- A thread that does not hold the lock has nothing to give back. -/
theorem release_eq_self (s : ReadWriteLock ι) (t : ι) (hfree : ∀ access, ¬s.Holds access t) :
    s.release t = s := by
  unfold release
  split
  · next access h => exact absurd h (hfree access)
  · rfl

/-- A thread that gives the lock back no longer uses it. -/
theorem phase?_release_self (s : ReadWriteLock ι) (t : ι) (access : Access)
    (hholds : s.Holds access t) : (s.release t).phase? t = none := by
  have hgone : (s.users.filter fun e => e.1 ≠ t).lookup t = none := by
    rw [lookup_filter_phase, if_pos rfl]
  unfold release
  rw [show s.phase? t = some (.holding access) from hholds]
  cases access with
  | read =>
    simp only
    split
    · rw [phase?_notifyAll]
      exact congrArg (Option.map _) hgone
    · exact hgone
  | write =>
    simp only
    rw [phase?_notifyAll]
    exact congrArg (Option.map _) hgone

/-- The phases of the other threads change at most by a notification. -/
theorem phase?_release_of_ne (s : ReadWriteLock ι) (t u : ι) (hne : u ≠ t) :
    (s.release t).phase? u = s.phase? u ∨
      (s.release t).phase? u = (s.phase? u).map LockPhase.notify := by
  have hsame : (s.users.filter fun e => e.1 ≠ t).lookup u = s.phase? u := by
    simpa [hne] using lookup_filter_phase s t u
  unfold release
  split
  · next access _ =>
    cases access with
    | read =>
      simp only
      split
      · right
        rw [phase?_notifyAll]
        exact congrArg _ hsame
      · exact .inl hsame
    | write =>
      right
      simp only
      rw [phase?_notifyAll]
      exact congrArg _ hsame
  · exact .inl rfl

theorem holds_release_of_ne (s : ReadWriteLock ι) (access : Access) (t u : ι) (hne : u ≠ t) :
    (s.release t).Holds access u ↔ s.Holds access u := by
  unfold Holds
  rcases phase?_release_of_ne s t u hne with h | h
  · rw [h]
  · rw [h]
    cases hu : s.phase? u with
    | none => simp
    | some p => cases p <;> simp [LockPhase.notify]

theorem mustWait_of_admitted {s : ReadWriteLock ι} {e : LockStep ι} {access : Access} {t : ι}
    (hbefore : ¬s.Holds access t) (hafter : (s.step e).Holds access t) :
    s.mustWait access = false := by
  -- a step of the thread that ends with it holding the lock for the access it looked at
  have hlooked (a : Access)
      (h : some (if s.mustWait a then LockPhase.waiting a false else .holding a) =
        some (.holding access)) : s.mustWait access = false := by
    split at h
    · simp at h
    · next hfree =>
      obtain rfl : a = access := by simpa using h
      simpa using hfree
  cases e with
  | request a u =>
    rw [step, Holds, phase?_request] at hafter
    split at hafter
    · exact hlooked a hafter
    · exact absurd hafter hbefore
  | wake u =>
    rw [step] at hafter
    by_cases hphase : ∃ a, s.phase? u = some (.waiting a true)
    · obtain ⟨a, hphase⟩ := hphase
      rw [Holds, phase?_wake s u t a hphase] at hafter
      split at hafter
      · exact hlooked a hafter
      · exact absurd hafter hbefore
    · rw [wake_eq_self s u fun a h => hphase ⟨a, h⟩] at hafter
      exact absurd hafter hbefore
  | release u =>
    rw [step] at hafter
    by_cases hu : t = u
    · subst hu
      by_cases hholds : ∃ a, s.Holds a t
      · obtain ⟨a, hholds⟩ := hholds
        rw [Holds, phase?_release_self s t a hholds] at hafter
        cases hafter
      · rw [release_eq_self s t fun a h => hholds ⟨a, h⟩] at hafter
        exact absurd hafter hbefore
    · exact absurd ((holds_release_of_ne s access u t hu).1 hafter) hbefore

/-- A thread that holds the lock goes on to hold it until it gives it back. -/
theorem holds_step {s : ReadWriteLock ι} {e : LockStep ι} {access : Access} {t : ι}
    (hholds : s.Holds access t) (hspared : e ≠ .release t) : (s.step e).Holds access t := by
  have hphase : s.phase? t = some (.holding access) := hholds
  cases e with
  | request a u =>
    rw [step, Holds, phase?_request, if_neg, hphase]
    rintro ⟨rfl, hnone⟩
    rw [hnone] at hphase
    cases hphase
  | wake u =>
    rw [step]
    by_cases hwoken : ∃ a, s.phase? u = some (.waiting a true)
    · obtain ⟨a, hwoken⟩ := hwoken
      have hne : t ≠ u := by
        rintro rfl
        rw [hwoken] at hphase
        cases hphase
      rw [Holds, phase?_wake s u t a hwoken, if_neg hne, hphase]
    · rw [wake_eq_self s u fun a h => hwoken ⟨a, h⟩]
      exact hholds
  | release u =>
    have hne : t ≠ u := by
      rintro rfl
      exact hspared rfl
    exact (holds_release_of_ne s access u t hne).2 hholds

theorem holds_run {s : ReadWriteLock ι} {access : Access} {t : ι} (hholds : s.Holds access t)
    (steps : List (LockStep ι)) (hspared : .release t ∉ steps) :
    (s.run steps).Holds access t := by
  induction steps generalizing s with
  | nil => exact hholds
  | cons e rest ih =>
    simp only [List.mem_cons, not_or] at hspared
    exact ih (holds_step hholds (Ne.symm hspared.1)) hspared.2

/-! ## Numbers of users -/

/-- How many users are in some phases. -/
def count (p : LockPhase → Bool) (s : ReadWriteLock ι) : Nat := s.users.countP fun t => p t.2

omit [DecidableEq ι] in
/-- A notification changes no number that does not depend on notifications. -/
theorem count_notifyAll (s : ReadWriteLock ι) (p : LockPhase → Bool)
    (hp : ∀ q : LockPhase, p q.notify = p q) : s.notifyAll.count p = s.count p := by
  rw [count, notifyAll_users, List.countP_map, count]
  apply List.countP_congr
  intro e _
  simp [hp]

omit [DecidableEq ι] in
/-- A thread that is newly listed is counted with its phase. -/
theorem countP_append_phase (s : ReadWriteLock ι) (p : LockPhase → Bool) (t : ι) (q : LockPhase) :
    (s.users ++ [(t, q)]).countP (fun e => p e.2) = s.count p + (p q).toNat := by
  rw [List.countP_append, count]
  cases h : p q <;> simp [h]

/-- A thread that changes its phase is no longer counted with the old one. -/
theorem count_setPhase (s : ReadWriteLock ι) (hkeys : (s.users.map Prod.fst).Nodup)
    (p : LockPhase → Bool) (t : ι) (old new : LockPhase) (hold : s.phase? t = some old) :
    (s.setPhase t new).count p + (p old).toNat = s.count p + (p new).toNat := by
  simp only [count, setPhase, phase?] at hold ⊢
  generalize s.users = users at hkeys hold ⊢
  induction users with
  | nil => simp at hold
  | cons e rest ih =>
    obtain ⟨v, q⟩ := e
    simp only [List.map_cons, List.nodup_cons] at hkeys
    by_cases hv : t = v
    · subst hv
      obtain rfl : q = old := by simpa using hold
      -- no other entry is of this thread, so the rest is mapped to itself
      have hrest : (rest.map fun e => if e.1 = t then (t, new) else e) = rest := by
        conv_rhs => rw [← List.map_id rest]
        apply List.map_congr_left
        intro e he
        have : e.1 ≠ t := fun h => hkeys.1 (h ▸ List.mem_map_of_mem he)
        simp [this]
      simp only [List.map_cons, if_true, List.countP_cons, hrest]
      cases p q <;> cases p new <;> simp
    · have hrest := ih hkeys.2 (by simpa [List.lookup_cons, beq_eq_false_iff_ne.2 hv] using hold)
      simp only [List.map_cons, if_neg (Ne.symm hv), List.countP_cons]
      omega

/-- A thread that is no longer listed is no longer counted. -/
theorem countP_filter_phase (s : ReadWriteLock ι) (hkeys : (s.users.map Prod.fst).Nodup)
    (p : LockPhase → Bool) (t : ι) (old : LockPhase) (hold : s.phase? t = some old) :
    (s.users.filter fun e => e.1 ≠ t).countP (fun e => p e.2) + (p old).toNat = s.count p := by
  simp only [count, phase?] at hold ⊢
  generalize s.users = users at hkeys hold ⊢
  induction users with
  | nil => simp at hold
  | cons e rest ih =>
    obtain ⟨v, q⟩ := e
    simp only [List.map_cons, List.nodup_cons] at hkeys
    by_cases hv : t = v
    · subst hv
      obtain rfl : q = old := by simpa using hold
      have hrest : (rest.filter fun e => e.1 ≠ t) = rest := by
        apply List.filter_eq_self.2
        intro e he
        have : e.1 ≠ t := fun h => hkeys.1 (h ▸ List.mem_map_of_mem he)
        simp [this]
      rw [List.filter_cons_of_neg (by simp), hrest, List.countP_cons]
      cases p q <;> simp
    · have hrest := ih hkeys.2 (by simpa [List.lookup_cons, beq_eq_false_iff_ne.2 hv] using hold)
      rw [List.filter_cons_of_pos (by simpa using Ne.symm hv), List.countP_cons, List.countP_cons]
      omega

theorem phase?_eq_some_iff (s : ReadWriteLock ι) (hkeys : (s.users.map Prod.fst).Nodup)
    (t : ι) (p : LockPhase) : s.phase? t = some p ↔ (t, p) ∈ s.users := by
  rw [phase?]
  generalize s.users = users at hkeys
  induction users with
  | nil => simp
  | cons e rest ih =>
    obtain ⟨v, q⟩ := e
    simp only [List.map_cons, List.nodup_cons] at hkeys
    by_cases hv : t = v
    · subst hv
      have hrest : (t, p) ∉ rest := fun hmem => hkeys.1 (List.mem_map_of_mem hmem)
      simp [hrest, eq_comm]
    · simp [List.lookup_cons, beq_eq_false_iff_ne.2 hv, ih hkeys.2, hv]

/-- The counted users are those whose phase is one of those counted. -/
theorem encard_phase (s : ReadWriteLock ι) (hkeys : (s.users.map Prod.fst).Nodup)
    (p : LockPhase → Bool) :
    Set.encard {t | ∃ q, s.phase? t = some q ∧ p q = true} = s.count p := by
  have hset : {t | ∃ q, s.phase? t = some q ∧ p q = true} =
      (((s.users.filter fun e => p e.2).map Prod.fst).toFinset : Set ι) := by
    ext t
    simp [phase?_eq_some_iff s hkeys]
  have hnodup : ((s.users.filter fun e => p e.2).map Prod.fst).Nodup :=
    hkeys.sublist (List.filter_sublist.map Prod.fst)
  rw [hset, Set.encard_coe_eq_coe_finsetCard, List.toFinset_card_of_nodup hnodup,
    List.length_map, ← List.countP_eq_length_filter, count]

end ReadWriteLock
end ChatRecords
