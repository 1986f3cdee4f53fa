import ChatRecords.Proofs.Typing.Timers
import Mathlib.Data.List.Induction
import Mathlib.Data.Set.Card

/-!
# Histories

Who is typing can be told from the calls that were made on an indicator, without its timers: a
user is typing if the last thing that happened to the user is a start that is not too long ago.

## Main definitions

* `TypingCall`, `TypingEvent`: a call on an indicator, and the reading of the clock in it.
* `TypingIndicator.run`: the indicator after a sequence of calls.
* `TypingIndicator.LastStart`: the last thing that happened to a user is a start.
* `TypingEvent.isSweep`: a call without a time of its own that lets due timers fire.

## Design notes

The clock may stand still between two calls. That it does not go backwards matters for sweeps
alone, which would otherwise take out a user whom an earlier reading shows as typing.
-/

namespace ChatRecords

/-- An item of a sequence that has a property, given the items before it, and is followed by items of
another property only: after one more item, it is that item, or it is followed by that item too. -/
theorem exists_last_append_singleton_iff {α : Type} {P : List α → α → Prop} {Q : α → Prop}
    {l : List α} {e : α} :
    (∃ before a after, l ++ [e] = before ++ a :: after ∧ P before a ∧ ∀ b ∈ after, Q b) ↔
      P l e ∨ ((∃ before a after, l = before ++ a :: after ∧ P before a ∧ ∀ b ∈ after, Q b) ∧
        Q e) := by
  constructor
  · rintro ⟨before, a, after, heq, ha, hafter⟩
    rcases List.eq_nil_or_concat after with rfl | ⟨after, last, rfl⟩
    · obtain ⟨rfl, hlast⟩ := List.append_inj' heq rfl
      obtain rfl : e = a := by simpa using hlast
      exact .inl ha
    · rw [List.concat_eq_append, ← List.cons_append, ← List.append_assoc] at heq
      obtain ⟨hinit, hlast⟩ := List.append_inj' heq rfl
      obtain rfl : e = last := by simpa using hlast
      rw [List.concat_eq_append] at hafter
      exact .inr ⟨⟨before, a, after, hinit, ha, fun b hb => hafter b (List.mem_append_left _ hb)⟩,
        hafter e (by simp)⟩
  · rintro (he | ⟨⟨before, a, after, rfl, ha, hafter⟩, he⟩)
    · exact ⟨l, e, [], rfl, he, by simp⟩
    · refine ⟨before, a, after ++ [e], by simp, ha, fun b hb => ?_⟩
      rcases List.mem_append.1 hb with hb | hb
      · exact hafter b hb
      · rwa [List.mem_singleton.1 hb]

/-- A call on an indicator. -/
inductive TypingCall (υ τ : Type) where
  | add (user : υ)
  | remove (user : υ)
  /-- The timers due at a time fire; without a time, those due now. -/
  | reap (limit : Option τ)
  | close
deriving DecidableEq

/-- A call with the reading of the clock in it. -/
structure TypingEvent (υ τ : Type) where
  now : τ
  call : TypingCall υ τ
deriving DecidableEq

/-- Whether a call lets the timers fire that are due now. -/
def TypingEvent.isSweep {υ τ : Type} (e : TypingEvent υ τ) : Bool :=
  match e.call with
  | .reap none => true
  | _ => false

namespace TypingIndicator

variable {υ τ : Type}

/-! ## What calls say -/

def WasClosed (events : List (TypingEvent υ τ)) : Prop := ∃ e ∈ events, e.call = .close

theorem isSweep_of_add {e : TypingEvent υ τ} {user : υ} (h : e.call = .add user) :
    e.isSweep = false := by
  simp [TypingEvent.isSweep, h]

theorem wasClosed_filter_iff (events : List (TypingEvent υ τ)) :
    WasClosed (events.filter fun e => !e.isSweep) ↔ WasClosed events := by
  simp only [WasClosed, List.mem_filter]
  constructor
  · rintro ⟨e, ⟨hmem, -⟩, hcall⟩
    exact ⟨e, hmem, hcall⟩
  · rintro ⟨e, hmem, hcall⟩
    exact ⟨e, ⟨hmem, by simp [TypingEvent.isSweep, hcall]⟩, hcall⟩

section Calls

variable [Preorder τ]

/-- A call that ends a stay with a deadline: the user stops or starts anew, or timers fire at a
time that is not before the deadline. -/
def Ends (user : υ) (deadline : τ) (e : TypingEvent υ τ) : Prop :=
  match e.call with
  | .add user' => user' = user
  | .remove user' => user' = user
  | .reap limit => deadline ≤ limit.getD e.now
  | .close => False

/-- A sweep does not end a stay that lasts beyond the present reading of the clock. -/
theorem not_ends_of_isSweep {e : TypingEvent υ τ} (h : e.isSweep = true) {now d : τ}
    (hnow : e.now ≤ now) (hd : now < d) (user : υ) : ¬Ends user d e := by
  unfold TypingEvent.isSweep at h
  split at h
  · next hcall =>
    simp only [Ends, hcall, Option.getD_none]
    intro hle
    exact lt_irrefl _ ((hd.trans_le hle).trans_le hnow)
  · simp at h

variable [Add τ] (ttl : τ)

/-- The last thing that happened to a user is a start; `deadline` is when the stay ends. -/
def LastStart (user : υ) (deadline : τ) (events : List (TypingEvent υ τ)) : Prop :=
  ∃ before start after, events = before ++ start :: after ∧ start.call = .add user ∧
    start.now + ttl = deadline ∧ ∀ e ∈ after, ¬Ends user deadline e

/-- The last thing that happened to a user, after one more call. -/
theorem lastStart_append_singleton_iff (user : υ) (d : τ) (events : List (TypingEvent υ τ))
    (e : TypingEvent υ τ) :
    LastStart ttl user d (events ++ [e]) ↔
      (e.call = .add user ∧ e.now + ttl = d) ∨ (LastStart ttl user d events ∧ ¬Ends user d e) := by
  have hlast := exists_last_append_singleton_iff (l := events) (e := e)
    (P := fun _ start => start.call = .add user ∧ start.now + ttl = d)
    (Q := fun e => ¬Ends user d e)
  simpa only [LastStart, and_assoc] using hlast

/-- Sweeps play no part in a stay that lasts beyond the present reading of the clock. -/
theorem lastStart_filter_iff {events : List (TypingEvent υ τ)} {now d : τ}
    (hnow : ∀ e ∈ events, e.now ≤ now) (hd : now < d) (user : υ) :
    LastStart ttl user d (events.filter fun e => !e.isSweep) ↔ LastStart ttl user d events := by
  constructor
  · rintro ⟨before, start, after, heq, hcall, hstart, hafter⟩
    -- put the sweeps back between the calls that were kept
    obtain ⟨l₁, l₂, rfl, -, heq⟩ := List.filter_eq_append_iff.1 heq
    obtain ⟨l₃, l₄, rfl, -, -, rfl⟩ := List.filter_eq_cons_iff.1 heq
    refine ⟨l₁ ++ l₃, start, l₄, by simp, hcall, hstart, ?_⟩
    intro e he
    by_cases hsweep : e.isSweep = true
    · exact not_ends_of_isSweep hsweep (hnow e (by simp [he])) hd user
    · exact hafter e (List.mem_filter.2 ⟨he, by simpa using hsweep⟩)
  · rintro ⟨before, start, after, rfl, hcall, hstart, hafter⟩
    refine ⟨before.filter fun e => !e.isSweep, start, after.filter fun e => !e.isSweep, ?_, hcall,
      hstart, fun e he => hafter e (List.mem_filter.1 he).1⟩
    rw [List.filter_append, List.filter_cons_of_pos (by simp [isSweep_of_add hcall])]

end Calls

/-! ## What is observed -/

/-- A list without repetitions counts the set of its members. -/
theorem encard_eq_length {α : Type} {l : List α} (h : l.Nodup) {p : α → Prop}
    (hmem : ∀ a, a ∈ l ↔ p a) : {a | p a}.encard = l.length := by
  classical
  have hset : {a | p a} = (l.toFinset : Set α) := by
    ext a
    simp [hmem]
  rw [hset, Set.encard_coe_eq_coe_finsetCard, List.toFinset_card_of_nodup h]

section Observed

variable [Preorder τ] {s : TypingIndicator υ τ}

theorem Linked.nodup_users [DecidableLT τ] (h : s.Linked) (now : τ) :
    (s.users now).Nodup :=
  h.distinct.sublist (List.filter_sublist.map _)

variable [DecidableEq υ]

theorem contains_eq_true_iff [DecidableLT τ] (s : TypingIndicator υ τ) (now : τ) (user : υ) :
    s.contains now user = true ↔ ∃ d, s.deadline? user = some d ∧ now < d := by
  unfold contains deadline?
  split <;> simp_all

theorem Linked.mem_users_iff [DecidableLT τ] (h : s.Linked) (now : τ) (user : υ) :
    user ∈ s.users now ↔ s.contains now user = true := by
  rw [contains_eq_true_iff]
  simp only [users, List.mem_map, List.mem_filter, decide_eq_true_eq, h.deadline?_eq_some_iff]
  constructor
  · rintro ⟨⟨user', token, d⟩, ⟨hmem, hlt⟩, rfl⟩
    exact ⟨d, ⟨token, hmem⟩, hlt⟩
  · rintro ⟨d, ⟨token, hmem⟩, hlt⟩
    exact ⟨_, ⟨hmem, hlt⟩, rfl⟩

theorem Linked.encard_due [DecidableLE τ] (h : s.Linked) (limit : τ) :
    {user | ∃ d, s.deadline? user = some d ∧ d ≤ limit}.encard = s.reapCount limit := by
  have hdue := encard_eq_length
    (h.distinct.sublist ((List.filter_sublist (p := fun e => e.2.deadline ≤ limit)).map _))
    (p := fun user => ∃ d, s.deadline? user = some d ∧ d ≤ limit) ?_
  · rw [hdue, List.length_map]
    -- each stay is due or is kept
    have hsplit := List.length_eq_length_filter_add (l := s.present)
      (fun e => decide (e.2.deadline ≤ limit))
    have hkept : (s.reap limit).present.length =
        (s.present.filter fun e => !decide (e.2.deadline ≤ limit)).length := by
      rw [h.present_reap]
      simp
    rw [reapCount, hkept]
    congr 1
    omega
  · intro user
    simp only [List.mem_map, List.mem_filter, decide_eq_true_eq, h.deadline?_eq_some_iff]
    constructor
    · rintro ⟨⟨user', token, d⟩, ⟨hmem, hle⟩, rfl⟩
      exact ⟨d, ⟨token, hmem⟩, hle⟩
    · rintro ⟨d, ⟨token, hmem⟩, hle⟩
      exact ⟨_, ⟨hmem, hle⟩, rfl⟩

end Observed

/-! ## Runs -/

section Runs

variable [DecidableEq υ] [Add τ] [Preorder τ] [DecidableLT τ] [DecidableLE τ]

def perform (s : TypingIndicator υ τ) (e : TypingEvent υ τ) : TypingIndicator υ τ :=
  match e.call with
  | .add user => s.add e.now user
  | .remove user => s.remove user
  | .reap limit => s.reap (limit.getD e.now)
  | .close => s.close

/-- The indicator after a sequence of calls, the first one first. -/
def run (name : String) (ttl : τ) (events : List (TypingEvent υ τ)) : TypingIndicator υ τ :=
  events.foldl perform (empty name ttl)

variable (name : String) (ttl : τ)

theorem run_append_singleton (events : List (TypingEvent υ τ)) (e : TypingEvent υ τ) :
    run name ttl (events ++ [e]) = (run name ttl events).perform e := by
  simp [run]

@[simp] theorem ttl_perform (s : TypingIndicator υ τ) (e : TypingEvent υ τ) :
    (s.perform e).ttl = s.ttl := by
  unfold perform
  split
  · unfold add
    split <;> rfl
  · unfold remove
    split <;> rfl
  · rfl
  · unfold close
    split <;> rfl

theorem ttl_run (events : List (TypingEvent υ τ)) : (run name ttl events).ttl = ttl := by
  induction events using List.reverseRecOn with
  | nil => rfl
  | append_singleton events e ih => rw [run_append_singleton, ttl_perform, ih]

theorem closed_perform (s : TypingIndicator υ τ) (e : TypingEvent υ τ) :
    (s.perform e).closed = true ↔ s.closed = true ∨ e.call = .close := by
  unfold perform
  split <;> simp_all [add, remove, reap, close] <;> split <;> simp_all

theorem closed_run_iff (events : List (TypingEvent υ τ)) :
    (run name ttl events).closed = true ↔ WasClosed events := by
  induction events using List.reverseRecOn with
  | nil => simp [run, empty, WasClosed]
  | append_singleton events e ih =>
    rw [run_append_singleton, closed_perform, ih]
    simp [WasClosed, or_and_right, exists_or]

/-- A stay is begun by a start, and else goes on until a call ends it. -/
theorem Linked.deadline?_perform {s : TypingIndicator υ τ} (h : s.Linked)
    {e : TypingEvent υ τ} (hopen : (s.perform e).closed = false) (user : υ) (d : τ) :
    (s.perform e).deadline? user = some d ↔
      (e.call = .add user ∧ e.now + s.ttl = d) ∨ (s.deadline? user = some d ∧ ¬Ends user d e) := by
  have hbefore : s.closed = false := by
    by_contra hclosed
    have := (closed_perform s e).2 (.inl (by simpa using hclosed))
    simp [hopen] at this
  have hcall : e.call ≠ .close := by
    intro hcall
    have := (closed_perform s e).2 (.inr hcall)
    simp [hopen] at this
  obtain ⟨now, call⟩ := e
  cases call with
  | add user' =>
    simp only [TypingIndicator.perform, Ends, h.deadline?_add hbefore]
    by_cases hu : user = user'
    · simp [hu]
    · simp [hu, Ne.symm hu]
  | remove user' =>
    simp only [TypingIndicator.perform, Ends, h.deadline?_remove hbefore]
    by_cases hu : user = user'
    · simp [hu]
    · simp [hu, Ne.symm hu]
  | reap limit =>
    simp [TypingIndicator.perform, Ends, h.deadline?_reap, Option.filter_eq_some_iff]
  | close => exact absurd rfl hcall

variable [@Std.Total τ (· ≤ ·)]

theorem Linked.perform {s : TypingIndicator υ τ} (h : s.Linked) (e : TypingEvent υ τ) :
    (s.perform e).Linked := by
  unfold TypingIndicator.perform
  split
  · exact h.add _ _
  · exact h.remove _
  · exact h.reap _
  · exact h.close

theorem linked_run (events : List (TypingEvent υ τ)) : (run name ttl events).Linked := by
  induction events using List.reverseRecOn with
  | nil => exact linked_empty name ttl
  | append_singleton events e ih =>
    rw [run_append_singleton]
    exact ih.perform e

theorem deadline?_run_eq_some_iff (events : List (TypingEvent υ τ)) (user : υ) (d : τ) :
    (run name ttl events).deadline? user = some d ↔
      ¬WasClosed events ∧ LastStart ttl user d events := by
  induction events using List.reverseRecOn with
  | nil => simp [run, empty, deadline?, LastStart]
  | append_singleton events e ih =>
    have hlinked := linked_run name ttl (events ++ [e])
    -- a closed indicator has forgotten its stays, and what the calls say no longer counts
    by_cases hclosed : WasClosed (events ++ [e])
    · rw [hlinked.deadline?_closed ((closed_run_iff name ttl _).2 hclosed)]
      simp [hclosed]
    · have hopen : (run name ttl (events ++ [e])).closed = false := by
        simpa using mt (closed_run_iff name ttl _).1 hclosed
      have hbefore : ¬WasClosed events := by
        rintro ⟨e', he', hcall⟩
        exact hclosed ⟨e', List.mem_append_left _ he', hcall⟩
      rw [run_append_singleton] at hopen ⊢
      rw [(linked_run name ttl events).deadline?_perform hopen, ih, ttl_run,
        lastStart_append_singleton_iff]
      simp [hclosed, hbefore]

theorem contains_run_filter (events : List (TypingEvent υ τ)) {now : τ}
    (hnow : ∀ e ∈ events, e.now ≤ now) (user : υ) :
    (run name ttl (events.filter fun e => !e.isSweep)).contains now user =
      (run name ttl events).contains now user := by
  rw [Bool.eq_iff_iff]
  simp only [contains_eq_true_iff, deadline?_run_eq_some_iff, wasClosed_filter_iff]
  constructor
  · rintro ⟨d, ⟨hopen, hlast⟩, hd⟩
    exact ⟨d, ⟨hopen, (lastStart_filter_iff ttl hnow hd user).1 hlast⟩, hd⟩
  · rintro ⟨d, ⟨hopen, hlast⟩, hd⟩
    exact ⟨d, ⟨hopen, (lastStart_filter_iff ttl hnow hd user).2 hlast⟩, hd⟩

theorem contains_run_congr {events events' : List (TypingEvent υ τ)} {now : τ}
    (h : (events.filter fun e => !e.isSweep) = events'.filter fun e => !e.isSweep)
    (hnow : ∀ e ∈ events, e.now ≤ now) (hnow' : ∀ e ∈ events', e.now ≤ now) (user : υ) :
    (run name ttl events).contains now user = (run name ttl events').contains now user := by
  rw [← contains_run_filter name ttl events hnow, h, contains_run_filter name ttl events' hnow']

theorem users_run_perm {events events' : List (TypingEvent υ τ)} {now : τ}
    (h : (events.filter fun e => !e.isSweep) = events'.filter fun e => !e.isSweep)
    (hnow : ∀ e ∈ events, e.now ≤ now) (hnow' : ∀ e ∈ events', e.now ≤ now) :
    ((run name ttl events).users now).Perm ((run name ttl events').users now) := by
  have hlinked := linked_run name ttl events
  have hlinked' := linked_run name ttl events'
  rw [List.perm_ext_iff_of_nodup (hlinked.nodup_users now) (hlinked'.nodup_users now)]
  intro user
  rw [hlinked.mem_users_iff, hlinked'.mem_users_iff,
    contains_run_congr name ttl h hnow hnow' user]

/-! ## Who is typing -/

/-- Who is typing is told by the calls: those whose last start has not run out, and nobody once
the indicator was closed. The users listed are those, each one once. Sweeps cannot be observed:
two sequences of calls that differ in sweeps alone have the same users, as long as the clock has
not gone backwards. When timers fire at a time, the users taken out are those whose stay has ended
by then. After a close nobody is typing, whatever is called. -/
theorem typing_of_history (events : List (TypingEvent υ τ)) :
    (∀ user d, (run name ttl events).deadline? user = some d ↔
      ¬WasClosed events ∧ LastStart ttl user d events) ∧
    (∀ now user, (run name ttl events).contains now user = true ↔
      ¬WasClosed events ∧ ∃ d, LastStart ttl user d events ∧ now < d) ∧
    (∀ now, ((run name ttl events).users now).Nodup) ∧
    (∀ now user, user ∈ (run name ttl events).users now ↔
      (run name ttl events).contains now user = true) ∧
    (∀ now, {user | (run name ttl events).contains now user = true}.encard =
      ((run name ttl events).users now).length) ∧
    (∀ events' now, (events.filter fun e => !e.isSweep) = (events'.filter fun e => !e.isSweep) →
      (∀ e ∈ events, e.now ≤ now) → (∀ e ∈ events', e.now ≤ now) →
      (∀ user, (run name ttl events).contains now user =
        (run name ttl events').contains now user) ∧
      ((run name ttl events).users now).Perm ((run name ttl events').users now) ∧
      ((run name ttl events).users now).length = ((run name ttl events').users now).length) ∧
    (∀ limit user d, ((run name ttl events).reap limit).deadline? user = some d ↔
      (run name ttl events).deadline? user = some d ∧ ¬d ≤ limit) ∧
    (∀ limit, {user | ∃ d, (run name ttl events).deadline? user = some d ∧ d ≤ limit}.encard =
      (run name ttl events).reapCount limit) ∧
    (WasClosed events → ∀ more now, (run name ttl (events ++ more)).users now = [] ∧
      ∀ user, (run name ttl (events ++ more)).contains now user = false) := by
  have hlinked := linked_run name ttl events
  refine ⟨deadline?_run_eq_some_iff name ttl events, ?_, hlinked.nodup_users,
    hlinked.mem_users_iff, ?_, ?_, ?_, hlinked.encard_due, ?_⟩
  · intro now user
    simp only [contains_eq_true_iff, deadline?_run_eq_some_iff, and_assoc, exists_and_left]
  · intro now
    exact encard_eq_length (hlinked.nodup_users now) (hlinked.mem_users_iff now)
  · intro events' now h hnow hnow'
    have hperm := users_run_perm name ttl h hnow hnow'
    exact ⟨contains_run_congr name ttl h hnow hnow', hperm, hperm.length_eq⟩
  · intro limit user d
    rw [hlinked.deadline?_reap, Option.filter_eq_some_iff]
    simp
  · rintro ⟨e, hmem, hcall⟩ more now
    have hclosed : WasClosed (events ++ more) := ⟨e, List.mem_append_left _ hmem, hcall⟩
    have hnone (user : υ) : (run name ttl (events ++ more)).contains now user = false := by
      rw [← Bool.not_eq_true, contains_eq_true_iff]
      simp [deadline?_run_eq_some_iff, hclosed]
    refine ⟨?_, hnone⟩
    rw [List.eq_nil_iff_forall_not_mem]
    intro user
    rw [(linked_run name ttl _).mem_users_iff, hnone]
    simp

/-- A user starts, a sweep comes before the stay has run out, and the indicator is closed. -/
theorem typing_of_history_of_close :
    let events : List (TypingEvent Nat Nat) := [⟨0, .add 1⟩, ⟨2, .reap none⟩]
    let swept : List (TypingEvent Nat Nat) := [⟨0, .add 1⟩]
    (run "lobby" 5 events).contains 4 1 = true ∧
      (run "lobby" 5 events).contains 4 1 = (run "lobby" 5 swept).contains 4 1 ∧
      (run "lobby" 5 (events ++ [⟨4, .close⟩] ++ [⟨4, .add 1⟩])).contains 4 1 = false := by
  intro events swept
  have hopen := typing_of_history "lobby" 5 events
  have hclosed := typing_of_history "lobby" 5 (events ++ [⟨4, .close⟩])
  obtain ⟨-, hcontains, -, -, -, hsweeps, -⟩ := hopen
  obtain ⟨-, -, -, -, -, -, -, -, hafter⟩ := hclosed
  refine ⟨(hcontains 4 1).2 ⟨?_, 5, ?_, by decide⟩, ?_, (hafter ?_ [⟨4, .add 1⟩] 4).2 1⟩
  · simp [WasClosed, events]
  · exact ⟨[], ⟨0, .add 1⟩, [⟨2, .reap none⟩], rfl, rfl, rfl, by simp [Ends]⟩
  · exact (hsweeps swept 4 (by decide) (by decide) (by decide)).1 1
  · exact ⟨⟨4, .close⟩, by simp, rfl⟩

end Runs
end TypingIndicator
end ChatRecords
