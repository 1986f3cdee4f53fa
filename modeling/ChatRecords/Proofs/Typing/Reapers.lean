import ChatRecords.Proofs.Typing.Timers
import ChatRecords.Typing.Reaper
import Mathlib.Algebra.Order.Ring.Nat
import Mathlib.Data.List.Induction

/-!
# The life of reaper threads

Callers and reaper threads take turns in any order. At any time at most one thread has not decided to
end, and as long as timers are pending there is one, so that no timer is left behind. That holds
while no timer lies so far ahead that a thread cannot sleep until then: a thread that meets such
a timer ends, and the indicator is abandoned for good.

## Main definitions

* `ReaperStep`, `Reaped.step`, `Reaped.run`: one section of a caller or of a thread, and sections in
  a row.
* `Reaped.WithinSleep`: no thread looks at a timer that lies too far ahead.
* `Reaped.Served`: the invariant.
* `Reaped.Abandoned`: what an indicator is after a thread met such a timer.

## Main results

* `Reaped.Served.step`: every section keeps the invariant, unless a thread looks at such a timer.
* `Reaped.threads_step`: a section of a thread changes no phase but its own.
* `Reaped.phase_step_of_other`: what a section of another thread does to the phase of a thread.
* `Reaped.withinSleep_of_ttl`: the time that users stay limits how far ahead timers lie.
* `Reaped.lifecycle_of_run`: what holds after every run.
* `Reaped.Served.abandoned_check`, `Reaped.Abandoned.run`: no thread ever serves an indicator again
  after one met a timer that lies too far ahead.

## Design notes

The clock is read anew in every section. Where nothing else is said, nothing is assumed of the
readings but where a thread fires what it saw due: its clock has not gone backwards in between.
A sleeping thread may wake up at any time.
-/

namespace ChatRecords

/-- An atomic section of a caller or of a reaper thread. -/
inductive ReaperStep (υ τ : Type) where
  | add (now : τ) (user : υ)
  | remove (user : υ)
  | reap (now : τ)
  | close
  /-- A caller tells the sleeping threads to look again. -/
  | notify
  | wake (i : Nat)
  | check (now : τ) (i : Nat)
  | fire (now : τ) (i : Nat)

namespace ReaperStep

variable {υ τ : Type}

/-- The position of the reaper thread whose section it is. -/
def thread? : ReaperStep υ τ → Option Nat
  | wake i | check _ i | fire _ i => some i
  | _ => none

/-- Whether a user starts to type. -/
def isAdd : ReaperStep υ τ → Bool
  | add _ _ => true
  | _ => false

/-- The reading of the clock of a section that sets a timer or looks at one. -/
def reading? : ReaperStep υ τ → Option τ
  | add now _ | check now _ => some now
  | _ => none

end ReaperStep

namespace ReaperPhase

variable {τ : Type}

/-- Whether a thread has not decided to end. -/
def isLive : ReaperPhase τ → Bool
  | done => false
  | _ => true

theorem isLive_iff (p : ReaperPhase τ) : p.isLive = true ↔ p ≠ .done := by
  cases p <;> simp [isLive]

end ReaperPhase

namespace Reaped

/-! ## Phases -/

section Phases

variable {τ : Type}

@[simp] theorem isLive_awake (p : ReaperPhase τ) : (awake p).isLive = p.isLive := by
  cases p <;> rfl

theorem map_isLive_set {threads : List (ReaperPhase τ)} {i : Nat} {p q : ReaperPhase τ}
    (hi : threads[i]? = some q) (hlive : p.isLive = q.isLive) :
    (threads.set i p).map ReaperPhase.isLive = threads.map ReaperPhase.isLive := by
  apply List.ext_getElem?
  intro j
  rw [List.getElem?_map, List.getElem?_map, List.getElem?_set]
  split
  · next hij =>
    subst hij
    rw [if_pos (List.getElem?_eq_some_iff.1 hi).1, hi, Option.map_some, Option.map_some, hlive]
  · rfl

theorem map_isLive_modify (threads : List (ReaperPhase τ)) (i : Nat) :
    (threads.modify i awake).map ReaperPhase.isLive = threads.map ReaperPhase.isLive := by
  apply List.ext_getElem?
  intro j
  rw [List.getElem?_map, List.getElem?_map, List.getElem?_modify]
  by_cases hij : i = j <;> cases threads[j]? <;> simp [hij]

end Phases

variable {υ τ : Type}

/-- Which threads have not decided to end, in the order in which they were started. -/
def lives (s : Reaped υ τ) : List Bool := s.threads.map ReaperPhase.isLive

/-- A thread was started and has not decided to end. -/
def Live (s : Reaped υ τ) (i : Nat) : Prop := s.lives[i]? = some true

theorem live_iff_phase {s : Reaped υ τ} {i : Nat} :
    s.Live i ↔ ∃ p, s.threads[i]? = some p ∧ p ≠ .done := by
  simp only [Live, lives, List.getElem?_map, Option.map_eq_some_iff, ReaperPhase.isLive_iff]

variable {s s' : Reaped υ τ} {i : Nat} {p : ReaperPhase τ} {longest now : τ} [Preorder τ]

/-! ## The invariant -/

/-- The thread that serves an indicator is the only one that has not decided to end, and while the
indicator is open and timers are pending, there is one. -/
structure Served (s : Reaped υ τ) : Prop where
  linked : s.indicator.Linked
  dropped : s.dropped = false
  live_iff : ∀ i, s.Live i ↔ s.current = some i
  pending : s.indicator.closed = false → s.indicator.timers ≠ [] → s.current.isSome = true

/-- A section that starts no thread and lets none end keeps the invariant, if timers that are pending
after it have a thread. -/
theorem Served.of_lives_eq (h : s.Served) (hlives : s'.lives = s.lives)
    (hcurrent : s'.current = s.current) (hdropped : s'.dropped = s.dropped)
    (hlinked : s'.indicator.Linked)
    (hpending : s'.indicator.closed = false → s'.indicator.timers ≠ [] →
      s.current.isSome = true) : s'.Served where
  linked := hlinked
  dropped := hdropped.trans h.dropped
  live_iff i := by rw [Live, hlives, hcurrent]; exact h.live_iff i
  pending hopen htimers := by rw [hcurrent]; exact hpending hopen htimers

theorem served_idle (name : String) (ttl : τ) :
    (idle (.empty name ttl) : Reaped υ τ).Served where
  linked := TypingIndicator.linked_empty name ttl
  dropped := rfl
  live_iff i := by simp [Live, lives, idle]
  pending _ htimers := absurd rfl htimers

/-- A thread that has not decided to end is the last one once it does. -/
theorem Served.done_of_set (h : s.Served) (hi : s.threads[i]? = some .checking) {q : ReaperPhase τ}
    (hq : q ∈ s.threads.set i .done) : q = .done := by
  by_contra hne
  have hcurrent : s.current = some i := (h.live_iff i).1 (live_iff_phase.2 ⟨_, hi, nofun⟩)
  obtain ⟨j, hj⟩ := List.mem_iff_getElem?.1 hq
  rw [List.getElem?_set] at hj
  split at hj
  · split at hj
    · exact hne (Option.some.inj hj).symm
    · cases hj
  · next hij =>
    have hother := (h.live_iff j).1 (live_iff_phase.2 ⟨q, hj, hne⟩)
    exact hij (Option.some.inj (hcurrent.symm.trans hother))

theorem Served.current_eq_none (h : s.Served) (hdone : ∀ p ∈ s.threads, p = .done) :
    s.current = none := by
  by_contra hne
  obtain ⟨j, hj⟩ := Option.ne_none_iff_exists'.1 hne
  obtain ⟨p, hp, hlive⟩ := live_iff_phase.1 ((h.live_iff j).2 hj)
  exact hlive (hdone p (List.mem_of_getElem? hp))

theorem Served.close (h : s.Served) : s.close.Served := by
  refine h.of_lives_eq rfl rfl rfl h.linked.close fun hopen _ => ?_
  rw [Reaped.close, TypingIndicator.close] at hopen
  split at hopen
  · next hclosed => exact absurd (hclosed.symm.trans hopen) nofun
  · cases hopen

/-- All threads of an indicator have ended, and it takes one of them for the one that serves it. -/
structure Abandoned (s : Reaped υ τ) : Prop where
  ended : ∀ p ∈ s.threads, p = .done
  current : s.current.isSome = true

/-! ## A thread looks -/

section Looking

variable [DecidableLT τ] [Add τ] [Sub τ] [Zero τ]

theorem check_of_ne (hi : s.threads[i]? ≠ some .checking) (longest now : τ) :
    s.check longest now i = s := by
  rw [check]
  split
  · next hchecking => exact absurd hchecking hi
  · rfl

/-- What a thread decides when it looks at the earliest timer: to end, to sleep for a positive time,
or to fire. It is ended if it would have to sleep for too long. -/
theorem check_cases (hdropped : s.dropped = false) (hi : s.threads[i]? = some .checking)
    (longest now : τ) :
    ((s.indicator.closed = true ∨ s.indicator.timers = []) ∧
        s.check longest now i =
          { s with threads := s.threads.set i .done, current := none }) ∨
      s.indicator.closed = false ∧ ∃ t, s.indicator.timers.head? = some t ∧
        ((0 < t.deadline - now ∧ longest < t.deadline - now ∧
          s.check longest now i = { s with threads := s.threads.set i .done }) ∨
        (0 < t.deadline - now ∧ ¬longest < t.deadline - now ∧ s.check longest now i =
          { s with threads := s.threads.set i (.sleeping (now + (t.deadline - now))) }) ∨
        (¬0 < t.deadline - now ∧
          s.check longest now i = { s with threads := s.threads.set i .firing })) := by
  rw [check, hi, hdropped]
  cases hnext : s.indicator.nextDelay? now with
  | none => exact .inl ⟨TypingIndicator.nextDelay?_eq_none_iff.1 hnext, rfl⟩
  | some delay =>
    obtain ⟨hopen, t, ht, rfl⟩ := TypingIndicator.nextDelay?_eq_some_iff.1 hnext
    refine .inr ⟨hopen, t, ht, ?_⟩
    by_cases hdelay : 0 < t.deadline - now
    · by_cases hlong : longest < t.deadline - now
      · exact .inl ⟨hdelay, hlong, by simp [hdelay, hlong]⟩
      · exact .inr (.inl ⟨hdelay, hlong, by simp [hdelay, hlong]⟩)
    · exact .inr (.inr ⟨hdelay, by simp [hdelay]⟩)

theorem indicator_check (longest now : τ) (i : Nat) :
    (s.check longest now i).indicator = s.indicator := by
  unfold check
  repeat' split
  all_goals rfl

/-- A thread that looks at the earliest timer keeps the invariant, unless the timer lies further
ahead than it can sleep. -/
theorem Served.check (h : s.Served)
    (hnear : ∀ t, s.indicator.timers.head? = some t → t.deadline - now ≤ longest) (i : Nat) :
    (s.check longest now i).Served := by
  by_cases hi : s.threads[i]? = some .checking
  · have hlive {p : ReaperPhase τ} (hp : p.isLive = true) :
        (s.threads.set i p).map ReaperPhase.isLive = s.lives := map_isLive_set hi hp
    obtain ⟨hidle, heq⟩ | ⟨hopen, t, ht, ⟨-, hlong, -⟩ | ⟨-, -, heq⟩ | ⟨-, heq⟩⟩ :=
      check_cases h.dropped hi longest now
    · rw [heq]
      refine ⟨h.linked, h.dropped, fun j => ?_, fun hopen htimers => ?_⟩
      · refine iff_of_false (fun hlive => ?_) nofun
        obtain ⟨p, hp, hne⟩ := live_iff_phase.1 hlive
        exact hne (h.done_of_set hi (List.mem_of_getElem? hp))
      · rcases hidle with hclosed | hnone
        · exact absurd (hclosed.symm.trans hopen) nofun
        · exact absurd hnone htimers
    · exact absurd hlong (not_lt_of_ge (hnear t ht))
    · rw [heq]
      exact h.of_lives_eq (hlive rfl) rfl rfl h.linked h.pending
    · rw [heq]
      exact h.of_lives_eq (hlive rfl) rfl rfl h.linked h.pending
  · rwa [check_of_ne hi]

/-- An indicator is abandoned once its thread has met a timer that lies further ahead than it can
sleep. -/
theorem Served.abandoned_check (h : s.Served) (hopen : s.indicator.closed = false)
    (hi : s.threads[i]? = some .checking) {t : Timer υ τ}
    (ht : s.indicator.timers.head? = some t) (hpositive : 0 < t.deadline - now)
    (hlong : longest < t.deadline - now) : (s.check longest now i).Abandoned := by
  have hcurrent : s.current = some i := (h.live_iff i).1 (live_iff_phase.2 ⟨_, hi, nofun⟩)
  have heq : s.check longest now i = { s with threads := s.threads.set i .done } := by
    rw [Reaped.check, hi, h.dropped, TypingIndicator.nextDelay?_eq_some_iff.2 ⟨hopen, t, ht, rfl⟩]
    simp [hpositive, hlong]
  rw [heq]
  exact ⟨fun q hq => h.done_of_set hi hq, hcurrent ▸ rfl⟩

end Looking

/-! ## A thread fires -/

variable [DecidableEq υ]

section Firing

variable [DecidableLE τ]

theorem fire_of_ne (hi : s.threads[i]? ≠ some .firing) (now : τ) : s.fire now i = s := by
  rw [fire]
  split
  · next hfiring => exact absurd hfiring hi
  · rfl

theorem fire_of_firing (hi : s.threads[i]? = some .firing) (now : τ) :
    s.fire now i = { s.reap now with threads := s.threads.set i .checking } := by
  rw [fire, hi]

theorem timers_reap_subset (now : τ) : (s.reap now).indicator.timers ⊆ s.indicator.timers :=
  (List.dropWhile_sublist _).subset

/-- Timers that are pending after some fired were pending before. -/
theorem Served.reap (h : s.Served) (now : τ) : (s.reap now).Served := by
  refine h.of_lives_eq rfl rfl rfl (h.linked.reap now) fun hopen htimers => h.pending hopen ?_
  intro hnone
  apply htimers
  simp [Reaped.reap, TypingIndicator.reap, hnone]

theorem Served.fire (h : s.Served) (now : τ) (i : Nat) : (s.fire now i).Served := by
  by_cases hi : s.threads[i]? = some .firing
  · rw [fire_of_firing hi]
    have hreaped := h.reap now
    exact hreaped.of_lives_eq (map_isLive_set hi rfl) rfl rfl hreaped.linked hreaped.pending
  · rwa [fire_of_ne hi]

/-- What was due when a thread looked is gone once it has fired, whoever took turns in between. -/
theorem not_mem_fire (h : s.indicator.Linked) {t : Timer υ τ} {now' : τ} (hdue : t.deadline ≤ now')
    (hi : s.threads[i]? = some .firing) :
    (s.fire now' i).threads[i]? = some .checking ∧ t ∉ (s.fire now' i).indicator.timers := by
  rw [fire_of_firing hi]
  refine ⟨List.getElem?_set_self (List.getElem?_eq_some_iff.1 hi).1, fun hmem => ?_⟩
  exact ((TypingIndicator.mem_dropWhile_due h.sorted t).1 hmem).2 hdue

end Firing

/-! ## A user starts -/

section Starting

variable [DecidableLT τ] [Add τ]

theorem add_of_closed (hclosed : s.indicator.closed = true) (now : τ) (user : υ) :
    s.add now user = s := by
  rw [Reaped.add, if_pos hclosed]

theorem add_of_isSome (hopen : s.indicator.closed = false) (hcurrent : s.current.isSome = true)
    (now : τ) (user : υ) :
    s.add now user = { s with indicator := s.indicator.add now user } := by
  simp [Reaped.add, hopen, hcurrent]

theorem add_of_none (hopen : s.indicator.closed = false) (hcurrent : s.current = none)
    (now : τ) (user : υ) : s.add now user =
      { s with
        indicator := s.indicator.add now user
        threads := s.threads ++ [.checking]
        current := some s.threads.length } := by
  simp [Reaped.add, hopen, hcurrent]

theorem indicator_add (now : τ) (user : υ) :
    (s.add now user).indicator = s.indicator.add now user := by
  cases hclosed : s.indicator.closed with
  | true => rw [add_of_closed hclosed, TypingIndicator.add, if_pos hclosed]
  | false =>
    rw [Reaped.add, hclosed]
    cases s.current <;> rfl

theorem dropped_add (now : τ) (user : υ) : (s.add now user).dropped = s.dropped := by
  cases hclosed : s.indicator.closed with
  | true => rw [add_of_closed hclosed]
  | false =>
    rw [Reaped.add, hclosed]
    cases s.current <;> rfl

/-- A start of a user has one thread started if all have ended, and else none. -/
theorem Served.threads_add (h : s.Served) (hopen : s.indicator.closed = false) (now : τ) (user : υ) :
    ((∀ p ∈ s.threads, p = .done) → (s.add now user).threads = s.threads ++ [.checking] ∧
      (s.add now user).current = some s.threads.length) ∧
    ((∃ p ∈ s.threads, p ≠ .done) → (s.add now user).threads = s.threads) := by
  constructor
  · intro hdone
    rw [add_of_none hopen (h.current_eq_none hdone)]
    exact ⟨rfl, rfl⟩
  · rintro ⟨p, hmem, hlive⟩
    obtain ⟨j, hj⟩ := List.mem_iff_getElem?.1 hmem
    have hcurrent := (h.live_iff j).1 (live_iff_phase.2 ⟨p, hj, hlive⟩)
    rw [add_of_isSome hopen (by rw [hcurrent]; rfl)]

theorem Served.add [@Std.Total τ (· ≤ ·)] (h : s.Served) (now : τ) (user : υ) :
    (s.add now user).Served := by
  cases hclosed : s.indicator.closed with
  | true => rwa [add_of_closed hclosed]
  | false =>
    cases hcurrent : s.current with
    | some j =>
      rw [add_of_isSome hclosed (by rw [hcurrent]; rfl)]
      exact h.of_lives_eq rfl rfl rfl (h.linked.add now user) fun _ _ => by rw [hcurrent]; rfl
    | none =>
      rw [add_of_none hclosed hcurrent]
      refine ⟨h.linked.add now user, h.dropped, fun i => ?_, fun _ _ => rfl⟩
      -- the new thread comes after those that have ended
      have hended : ¬s.Live i := by
        rw [h.live_iff, hcurrent]
        exact nofun
      have hlength : s.lives.length = s.threads.length := List.length_map _
      rw [Live, lives, List.map_append, ← lives, List.getElem?_append, ← hlength]
      split
      · next hlt =>
        refine iff_of_false hended ?_
        rw [Option.some.injEq]
        exact Nat.ne_of_gt hlt
      · next hge =>
        rw [List.map_singleton, List.getElem?_singleton, Option.some.injEq]
        split
        · exact iff_of_true rfl (by omega)
        · exact iff_of_false nofun (by omega)

end Starting

/-! ## A user leaves -/

theorem Served.remove (h : s.Served) (user : υ) : (s.remove user).Served := by
  have hclosed : (s.indicator.remove user).closed = s.indicator.closed := by
    rw [TypingIndicator.remove]
    split <;> rfl
  have htimers : (s.indicator.remove user).timers = s.indicator.timers := by
    rw [TypingIndicator.remove]
    split <;> rfl
  exact h.of_lives_eq rfl rfl rfl (h.linked.remove user) fun hopen hpending =>
    h.pending (hclosed.symm.trans hopen) (htimers ▸ hpending)

section Runs

variable [DecidableLT τ] [DecidableLE τ] [Add τ] [Sub τ] [Zero τ]

/-- The state after a section, where a thread can sleep for some time at most. -/
def step (longest : τ) (s : Reaped υ τ) : ReaperStep υ τ → Reaped υ τ
  | .add now user => s.add now user
  | .remove user => s.remove user
  | .reap now => s.reap now
  | .close => s.close
  | .notify => s.notify
  | .wake i => s.wake i
  | .check now i => s.check longest now i
  | .fire now i => s.fire now i

/-- The state after sections in a row. -/
def run (longest : τ) (s : Reaped υ τ) (steps : List (ReaperStep υ τ)) : Reaped υ τ :=
  steps.foldl (step longest) s

/-- No thread looks at a timer that lies further ahead than a thread can sleep. -/
def WithinSleep (longest : τ) (s : Reaped υ τ) (steps : List (ReaperStep υ τ)) : Prop :=
  ∀ before now i after t, steps = before ++ .check now i :: after →
    (s.run longest before).indicator.timers.head? = some t → t.deadline - now ≤ longest

theorem WithinSleep.head {now : τ} {i : Nat} {rest : List (ReaperStep υ τ)}
    (h : s.WithinSleep longest (.check now i :: rest)) {t : Timer υ τ}
    (ht : s.indicator.timers.head? = some t) : t.deadline - now ≤ longest :=
  h [] now i rest t rfl ht

theorem WithinSleep.tail {e : ReaperStep υ τ} {rest : List (ReaperStep υ τ)}
    (h : s.WithinSleep longest (e :: rest)) : (s.step longest e).WithinSleep longest rest :=
  fun before now i after t hsteps ht =>
    h (e :: before) now i after t (congrArg (e :: ·) hsteps) ht

/-! ## The phase of one thread -/

/-- A section of a thread changes the phase of that thread and of no other. -/
theorem threads_step (hdropped : s.dropped = false) (longest : τ) {e : ReaperStep υ τ}
    (he : e.thread? = some i) : ∃ f, (s.step longest e).threads = s.threads.modify i f := by
  cases e with
  | wake j =>
    cases he
    exact ⟨awake, rfl⟩
  | check now j =>
    cases he
    rw [Reaped.step]
    by_cases hi : s.threads[i]? = some .checking
    · obtain ⟨-, heq⟩ | ⟨-, t, -, ⟨-, -, heq⟩ | ⟨-, -, heq⟩ | ⟨-, heq⟩⟩ :=
          check_cases hdropped hi longest now <;>
        rw [heq] <;> exact ⟨fun _ => _, List.set_eq_modify _ _ _⟩
    · rw [check_of_ne hi]
      exact ⟨id, (List.modify_id _ _).symm⟩
  | fire now j =>
    cases he
    rw [Reaped.step]
    by_cases hi : s.threads[i]? = some .firing
    · rw [fire_of_firing hi]
      exact ⟨fun _ => _, List.set_eq_modify _ _ _⟩
    · rw [fire_of_ne hi]
      exact ⟨id, (List.modify_id _ _).symm⟩
  | _ => cases he

/-- A section of another thread leaves a thread in its phase or wakes it up. -/
theorem phase_step_of_other (hdropped : s.dropped = false) (longest : τ) {e : ReaperStep υ τ}
    (hother : e.thread? ≠ some i) (hp : s.threads[i]? = some p) :
    (s.step longest e).threads[i]? = some p ∨
      (s.step longest e).threads[i]? = some (awake p) := by
  cases hthread : e.thread? with
  | some j =>
    obtain ⟨f, hf⟩ := threads_step hdropped longest hthread
    have hij : j ≠ i := fun hij => hother (hthread.trans (congrArg some hij))
    left
    rw [hf, List.getElem?_modify_ne f s.threads hij, hp]
  | none =>
    cases e with
    | add now user =>
      left
      rw [Reaped.step]
      cases hclosed : s.indicator.closed with
      | true => rwa [add_of_closed hclosed]
      | false =>
        cases hcurrent : s.current with
        | some j => rwa [add_of_isSome hclosed (by rw [hcurrent]; rfl)]
        | none =>
          rw [add_of_none hclosed hcurrent]
          exact (List.getElem?_append_left (List.getElem?_eq_some_iff.1 hp).1).trans hp
    | remove user => exact .inl hp
    | reap now => exact .inl hp
    | close => exact .inl hp
    | notify =>
      right
      rw [Reaped.step, Reaped.notify, List.getElem?_map, hp]
      rfl
    | _ => cases hthread

theorem dropped_step (hdropped : s.dropped = false) (longest : τ) (e : ReaperStep υ τ) :
    (s.step longest e).dropped = false := by
  cases e with
  | add now user => exact (dropped_add now user).trans hdropped
  | check now i =>
    rw [Reaped.step, Reaped.check]
    repeat' split
    all_goals exact hdropped
  | fire now i =>
    rw [Reaped.step, Reaped.fire]
    split <;> exact hdropped
  | _ => exact hdropped

/-- A thread that does not sleep stays as it is while others take their turns. -/
theorem phase_run_of_others (hdropped : s.dropped = false) (longest : τ)
    (hp : s.threads[i]? = some p) (hawake : awake p = p) {steps : List (ReaperStep υ τ)}
    (hothers : ∀ e ∈ steps, e.thread? ≠ some i) :
    (s.run longest steps).threads[i]? = some p := by
  induction steps generalizing s with
  | nil => exact hp
  | cons e rest ih =>
    rw [List.forall_mem_cons] at hothers
    refine ih (dropped_step hdropped longest e) ?_ hothers.2
    simpa only [hawake, or_self] using phase_step_of_other hdropped longest hothers.1 hp

/-- A thread that has decided to end does nothing. -/
theorem step_of_done (hi : s.threads[i]? = some .done) (longest : τ) {e : ReaperStep υ τ}
    (he : e.thread? = some i) : s.step longest e = s := by
  cases e with
  | wake j =>
    obtain rfl : j = i := Option.some.inj he
    have hmodify : s.threads.modify j awake = s.threads := by
      apply List.ext_getElem?
      intro k
      rw [List.getElem?_modify]
      by_cases hjk : j = k
      · subst hjk
        rw [hi]
        simp [awake]
      · simp [hjk]
    rw [Reaped.step, wake, hmodify]
  | check now j =>
    obtain rfl : j = i := Option.some.inj he
    exact check_of_ne (by rw [hi]; exact nofun) longest now
  | fire now j =>
    obtain rfl : j = i := Option.some.inj he
    exact fire_of_ne (by rw [hi]; exact nofun) now
  | _ => cases he

theorem done_run (hdropped : s.dropped = false) (longest : τ) (hi : s.threads[i]? = some .done)
    (steps : List (ReaperStep υ τ)) : (s.run longest steps).threads[i]? = some .done := by
  induction steps generalizing s with
  | nil => exact hi
  | cons e rest ih =>
    refine ih (dropped_step hdropped longest e) ?_
    by_cases he : e.thread? = some i
    · rwa [step_of_done hi longest he]
    · exact (or_self_iff).1 (phase_step_of_other hdropped longest he hi)

/-- Only a user who starts to type has a thread started. -/
theorem length_step (hdropped : s.dropped = false) (longest : τ) {e : ReaperStep υ τ}
    (he : e.isAdd = false) : (s.step longest e).threads.length = s.threads.length := by
  cases hthread : e.thread? with
  | some j =>
    obtain ⟨f, hf⟩ := threads_step hdropped longest hthread
    rw [hf, List.length_modify]
  | none =>
    cases e with
    | add now user => cases he
    | notify => exact List.length_map _
    | wake j | check now j | fire now j => cases hthread
    | _ => rfl

/-! ## How far ahead timers lie -/

theorem ttl_step (longest : τ) (e : ReaperStep υ τ) :
    (s.step longest e).indicator.ttl = s.indicator.ttl := by
  cases e with
  | add now user =>
    rw [Reaped.step, indicator_add, TypingIndicator.add]
    split <;> rfl
  | remove user =>
    rw [Reaped.step, Reaped.remove, TypingIndicator.remove]
    split <;> rfl
  | close =>
    rw [Reaped.step, Reaped.close, TypingIndicator.close]
    split <;> rfl
  | check now i => exact congrArg TypingIndicator.ttl (indicator_check longest now i)
  | fire now i =>
    rw [Reaped.step, Reaped.fire]
    split <;> rfl
  | _ => rfl

/-- A timer that is pending after a section was pending before, or the section set it. -/
theorem timers_step (longest : τ) (e : ReaperStep υ τ) {t : Timer υ τ}
    (ht : t ∈ (s.step longest e).indicator.timers) : t ∈ s.indicator.timers ∨
      ∃ now user, e = .add now user ∧ t.deadline = now + s.indicator.ttl := by
  cases e with
  | add now user =>
    rw [Reaped.step, indicator_add, TypingIndicator.add] at ht
    split at ht
    · exact .inl ht
    · rcases List.mem_cons.1 ((TypingIndicator.perm_insertTimer _ _).mem_iff.1 ht) with rfl | hold
      · exact .inr ⟨now, user, rfl, rfl⟩
      · exact .inl hold
  | remove user =>
    left
    rw [Reaped.step, Reaped.remove, TypingIndicator.remove] at ht
    split at ht <;> exact ht
  | reap now => exact .inl (timers_reap_subset now ht)
  | close =>
    left
    rw [Reaped.step, Reaped.close, TypingIndicator.close] at ht
    split at ht
    · exact ht
    · cases ht
  | check now i =>
    left
    rwa [Reaped.step, indicator_check] at ht
  | fire now i =>
    left
    rw [Reaped.step, Reaped.fire] at ht
    split at ht
    · exact timers_reap_subset now ht
    · exact ht
  | notify | wake i => exact .inl ht

/-- Every pending timer was set by a start of a user. -/
theorem deadline_of_run (name : String) (ttl longest : τ) (steps : List (ReaperStep υ τ)) :
    let s := (idle (.empty name ttl) : Reaped υ τ).run longest steps
    s.indicator.ttl = ttl ∧ ∀ t ∈ s.indicator.timers,
      ∃ now ∈ steps.filterMap ReaperStep.reading?, t.deadline = now + ttl := by
  induction steps using List.reverseRecOn with
  | nil => exact ⟨rfl, fun t ht => absurd ht List.not_mem_nil⟩
  | append_singleton steps e ih =>
    obtain ⟨httl, ih⟩ := ih
    rw [run, List.foldl_append, List.foldl_cons, List.foldl_nil, ← run, List.filterMap_append]
    refine ⟨(ttl_step longest e).trans httl, fun t ht => ?_⟩
    rcases timers_step longest e ht with hold | ⟨now, user, rfl, hdeadline⟩
    · obtain ⟨now, hnow, hdeadline⟩ := ih t hold
      exact ⟨now, List.mem_append_left _ hnow, hdeadline⟩
    · exact ⟨now, List.mem_append_right _ List.mem_cons_self, httl ▸ hdeadline⟩

/-- The time that users stay limits how far ahead timers lie, if the clock does not go backwards
between the sections that set timers or look at them. -/
theorem withinSleep_of_ttl {name : String} {ttl longest : τ} {steps : List (ReaperStep υ τ)}
    (httl : ∀ a b : τ, a ≤ b → a + ttl - b ≤ longest)
    (hclock : (steps.filterMap ReaperStep.reading?).Pairwise (· ≤ ·)) :
    (idle (.empty name ttl)).WithinSleep longest steps := by
  rintro before now i after t rfl ht
  obtain ⟨-, htimers⟩ := deadline_of_run name ttl longest before
  obtain ⟨a, ha, hdeadline⟩ := htimers t (List.mem_of_mem_head? ht)
  rw [List.filterMap_append, List.pairwise_append] at hclock
  rw [hdeadline]
  exact httl a now (hclock.2.2 a ha now List.mem_cons_self)

/-! ## Abandoned indicators -/

theorem Abandoned.step (h : s.Abandoned) (longest : τ) (e : ReaperStep υ τ) :
    (s.step longest e).Abandoned ∧ (s.step longest e).threads = s.threads := by
  have hne {i : Nat} {p : ReaperPhase τ} (hp : p ≠ .done) : s.threads[i]? ≠ some p :=
    fun hi => hp (h.ended p (List.mem_of_getElem? hi))
  cases e with
  | add now user =>
    rw [Reaped.step]
    cases hclosed : s.indicator.closed with
    | true =>
      rw [add_of_closed hclosed]
      exact ⟨h, rfl⟩
    | false =>
      rw [add_of_isSome hclosed h.current]
      exact ⟨⟨h.ended, h.current⟩, rfl⟩
  | notify =>
    have hmap : s.threads.map awake = s.threads := by
      refine (List.map_congr_left fun p hp => ?_).trans (List.map_id _)
      rw [h.ended p hp]
      rfl
    exact ⟨⟨fun p hp => h.ended p (hmap ▸ hp), h.current⟩, hmap⟩
  | wake i =>
    cases hi : s.threads[i]? with
    | some p =>
      rw [h.ended p (List.mem_of_getElem? hi)] at hi
      rw [step_of_done hi longest rfl]
      exact ⟨h, rfl⟩
    | none =>
      have hmodify : s.threads.modify i awake = s.threads :=
        List.modify_eq_self (List.getElem?_eq_none_iff.1 hi)
      exact ⟨⟨fun p hp => h.ended p (hmodify ▸ hp), h.current⟩, hmodify⟩
  | check now i =>
    rw [Reaped.step, check_of_ne (hne nofun)]
    exact ⟨h, rfl⟩
  | fire now i =>
    rw [Reaped.step, fire_of_ne (hne nofun)]
    exact ⟨h, rfl⟩
  | remove user | reap now | close => exact ⟨⟨h.ended, h.current⟩, rfl⟩

/-- Nothing serves an abandoned indicator again, whatever callers do. -/
theorem Abandoned.run (h : s.Abandoned) (longest : τ) (steps : List (ReaperStep υ τ)) :
    (s.run longest steps).Abandoned ∧ (s.run longest steps).threads = s.threads := by
  induction steps generalizing s with
  | nil => exact ⟨h, rfl⟩
  | cons e rest ih =>
    obtain ⟨hstep, hthreads⟩ := h.step longest e
    exact ⟨(ih hstep).1, (ih hstep).2.trans hthreads⟩

/-! ## Runs -/

variable [@Std.Total τ (· ≤ ·)]

/-- Every section keeps the invariant, unless a thread looks at a timer that lies further ahead than
it can sleep. -/
theorem Served.step (h : s.Served) (e : ReaperStep υ τ)
    (hnear : ∀ now i t, e = .check now i → s.indicator.timers.head? = some t →
      t.deadline - now ≤ longest) : (s.step longest e).Served := by
  cases e with
  | add now user => exact h.add now user
  | remove user => exact h.remove user
  | reap now => exact h.reap now
  | close => exact h.close
  | notify =>
    refine h.of_lives_eq ?_ rfl rfl h.linked h.pending
    rw [lives, lives, Reaped.step, Reaped.notify, List.map_map]
    exact List.map_congr_left fun p _ => isLive_awake p
  | wake i => exact h.of_lives_eq (map_isLive_modify s.threads i) rfl rfl h.linked h.pending
  | check now i => exact h.check (fun t => hnear now i t rfl) i
  | fire now i => exact h.fire now i

theorem Served.run (h : s.Served) {steps : List (ReaperStep υ τ)}
    (hsleep : s.WithinSleep longest steps) : (s.run longest steps).Served := by
  induction steps generalizing s with
  | nil => exact h
  | cons e rest ih =>
    refine ih (h.step e fun now i t he ht => ?_) hsleep.tail
    subst he
    exact hsleep.head ht

theorem linked_step (h : s.indicator.Linked) (longest : τ) (e : ReaperStep υ τ) :
    (s.step longest e).indicator.Linked := by
  cases e with
  | add now user => exact indicator_add now user ▸ h.add now user
  | remove user => exact h.remove user
  | reap now => exact h.reap now
  | close => exact h.close
  | notify | wake i => exact h
  | check now i => rwa [Reaped.step, indicator_check]
  | fire now i =>
    rw [Reaped.step, Reaped.fire]
    split
    · exact h.reap now
    · exact h

theorem linked_run (h : s.indicator.Linked) (longest : τ) (steps : List (ReaperStep υ τ)) :
    (s.run longest steps).indicator.Linked := by
  induction steps generalizing s with
  | nil => exact h
  | cons e rest ih => exact ih (linked_step h longest e)

/-- The life of reaper threads, in every state that callers and threads lead to by taking turns, as
long as no thread looks at a timer that lies further ahead than a thread can sleep.
At most one thread has not decided to end, and it is the one that serves the indicator. While the
indicator is open and timers are pending, there is one. A thread that has decided to end never does
anything again; the next start of a user on an open indicator has exactly one thread started if none
is left, and nothing else ever has. A thread that looks at the earliest timer sleeps for a positive
time, ends as there is none, or goes on to fire; then that timer, which is due, is gone once it has
fired, whoever took turns in between. -/
theorem lifecycle_of_run {name : String} {ttl longest : τ} {steps : List (ReaperStep υ τ)}
    (hsleep : (idle (.empty name ttl)).WithinSleep longest steps)
    (hsub : ∀ a b : τ, 0 < a - b ↔ b < a) :
    let s := (idle (.empty name ttl)).run longest steps
    (∀ i p, s.threads[i]? = some p → p ≠ .done → s.current = some i) ∧
    (s.indicator.closed = false → s.indicator.timers ≠ [] →
      ∃ i p, s.current = some i ∧ s.threads[i]? = some p ∧ p ≠ .done) ∧
    (∀ i, s.threads[i]? = some .done → ∀ later,
      (s.run longest later).threads[i]? = some .done ∧
      ∀ e : ReaperStep υ τ, e.thread? = some i →
        (s.run longest later).step longest e = s.run longest later) ∧
    (∀ now user, s.indicator.closed = false →
      ((∀ p ∈ s.threads, p = .done) → (s.add now user).threads = s.threads ++ [.checking] ∧
        (s.add now user).current = some s.threads.length) ∧
      ((∃ p ∈ s.threads, p ≠ .done) → (s.add now user).threads = s.threads)) ∧
    (∀ e : ReaperStep υ τ, e.isAdd = false →
      (s.step longest e).threads.length = s.threads.length) ∧
    ∀ i now, s.threads[i]? = some .checking →
      (∀ t, s.indicator.timers.head? = some t → t.deadline - now ≤ longest) →
      let s' := s.check longest now i
      ((s.indicator.closed = true ∨ s.indicator.timers = []) ∧ s'.threads[i]? = some .done ∧
        s'.current = none) ∨
      (∃ delay, 0 < delay ∧ s'.threads[i]? = some (.sleeping (now + delay))) ∨
      s'.threads[i]? = some .firing ∧ ∃ t, s.indicator.timers.head? = some t ∧
        t.deadline ≤ now ∧ ∀ later now', (∀ e ∈ later, e.thread? ≠ some i) → now ≤ now' →
          let s'' := (s'.run longest later).fire now' i
          s''.threads[i]? = some .checking ∧ t ∉ s''.indicator.timers := by
  intro s
  have hs : s.Served := (served_idle name ttl).run hsleep
  refine ⟨?_, ?_, ?_, fun now user hopen => hs.threads_add hopen now user,
    fun e => length_step hs.dropped longest, ?_⟩
  · exact fun i p hp hlive => (hs.live_iff i).1 (live_iff_phase.2 ⟨p, hp, hlive⟩)
  · intro hopen htimers
    obtain ⟨i, hi⟩ := Option.isSome_iff_exists.1 (hs.pending hopen htimers)
    obtain ⟨p, hp, hlive⟩ := live_iff_phase.1 ((hs.live_iff i).2 hi)
    exact ⟨i, p, hi, hp, hlive⟩
  · intro i hi later
    have hdone := done_run hs.dropped longest hi later
    exact ⟨hdone, fun e he => step_of_done hdone longest he⟩
  · intro i now hi hnear
    have hset (p : ReaperPhase τ) : (s.threads.set i p)[i]? = some p :=
      List.getElem?_set_self (List.getElem?_eq_some_iff.1 hi).1
    have hchecked := hs.check hnear i
    obtain ⟨hidle, heq⟩ | ⟨-, t, ht, ⟨-, hlong, -⟩ | ⟨hdelay, -, heq⟩ | ⟨hdelay, heq⟩⟩ :=
      check_cases hs.dropped hi longest now
    · rw [heq]
      exact .inl ⟨hidle, hset _, rfl⟩
    · exact absurd hlong (not_lt_of_ge (hnear t ht))
    · rw [heq]
      exact .inr (.inl ⟨_, hdelay, hset _⟩)
    · have hfiring : (s.check longest now i).threads[i]? = some .firing := heq ▸ hset _
      have hdue : t.deadline ≤ now := by
        by_contra hle
        exact hdelay ((hsub _ _).2 (TypingIndicator.lt_of_not_le hle))
      refine .inr (.inr ⟨hfiring, t, ht, hdue, fun later now' hothers hnow => ?_⟩)
      exact not_mem_fire (linked_run hchecked.linked longest later) (hdue.trans hnow)
        (phase_run_of_others hchecked.dropped longest hfiring rfl hothers)

/-- The timer of a user fires and the thread ends for good; the next start has another thread
started. -/
theorem lifecycle_of_run_of_return :
    let s : Reaped Nat Nat := (idle (.empty "lobby" 5)).run 100
      [.add 0 1, .notify, .check 0 0, .wake 0, .check 5 0, .remove 1, .fire 6 0, .check 6 0]
    s.threads = [.done] ∧ (s.add 7 2).threads = [.done, .checking] ∧
      ∀ later : List (ReaperStep Nat Nat), (s.run 100 later).threads[0]? = some .done := by
  intro s
  have hsleep : (idle (.empty "lobby" 5) : Reaped Nat Nat).WithinSleep 100
      [.add 0 1, .notify, .check 0 0, .wake 0, .check 5 0, .remove 1, .fire 6 0, .check 6 0] :=
    withinSleep_of_ttl (fun a b hab => by omega) (by decide)
  obtain ⟨-, -, hdone, hadd, -⟩ := lifecycle_of_run hsleep fun a b => Nat.sub_pos_iff_lt
  have hthreads : s.threads = [.done] := by decide
  have hended : s.threads[0]? = some .done := by rw [hthreads]; rfl
  have hall : ∀ p ∈ s.threads, p = .done := by simp [hthreads]
  have hnew : (s.add 7 2).threads = s.threads ++ [.checking] := ((hadd 7 2 (by decide)).1 hall).1
  refine ⟨hthreads, ?_, fun later => (hdone 0 hended later).1⟩
  rw [hnew, hthreads]
  rfl

/-- Without the limit, the timer of a user who stays for longer than a thread can sleep would have
a thread. -/
theorem lifecycle_of_run_failed :
    let s : Reaped Nat Nat := (idle (.empty "lobby" 10000000000)).run 9223372036
      [.add 0 1, .notify, .check 0 0]
    s.indicator.closed = false ∧ s.indicator.timers ≠ [] ∧
      ∀ later : List (ReaperStep Nat Nat), (s.run 9223372036 later).threads = [.done] := by
  intro s
  have habandoned : s.Abandoned := ⟨by decide, by decide⟩
  exact ⟨by decide, by decide, fun later => (habandoned.run 9223372036 later).2⟩

end Runs
end Reaped
end ChatRecords
