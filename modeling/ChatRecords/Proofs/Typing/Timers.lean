import ChatRecords.Typing.Indicator
import Mathlib.Data.List.Nodup
import Mathlib.Order.Basic
import Mathlib.Order.RelClasses

/-!
# Timers and stays

A typing indicator keeps a list of stays and a list of timers, and most timers can be void. What
links the two is that every stay has its timer and that no two timers carry one token. From this
follows what each operation does to the time at which a user's stay ends.

## Main definitions

* `TypingIndicator.deadline?`: when the stay of a user ends.
* `TypingIndicator.Linked`: the invariant.

## Design notes

Times only need to be compared in full: two of them may be equally late without being equal.
-/

namespace ChatRecords
namespace TypingIndicator

variable {υ τ : Type}

/-- When the stay of a user ends, if the user is present. -/
def deadline? [DecidableEq υ] (user : υ) (s : TypingIndicator υ τ) : Option τ :=
  (Entries.get? user s.present).map Stay.deadline

section Order

variable [Preorder τ]

/-- What links stays and timers. -/
structure Linked (s : TypingIndicator υ τ) : Prop where
  distinct : (s.present.map Prod.fst).Nodup
  timed : ∀ user stay, (user, stay) ∈ s.present → ⟨stay.deadline, stay.token, user⟩ ∈ s.timers
  /-- The timers are in the order in which they fire. -/
  sorted : s.timers.Pairwise fun a b => a.deadline ≤ b.deadline
  tokens : (s.timers.map Timer.token).Nodup
  /-- Tokens are given out in ascending order. -/
  fresh : ∀ t ∈ s.timers, t.token < s.nextToken
  closed : s.closed = true → s.present = [] ∧ s.timers = []

/-! ## The list of timers -/

theorem lt_of_not_le [@Std.Total τ (· ≤ ·)] {a b : τ} (h : ¬a ≤ b) : b < a :=
  lt_iff_le_not_ge.2 ⟨(Std.Total.total b a).resolve_right h, h⟩

section Setting

variable [DecidableLT τ]

theorem perm_insertTimer (t : Timer υ τ) (timers : List (Timer υ τ)) :
    (insertTimer t timers).Perm (t :: timers) := by
  induction timers with
  | nil => exact .refl _
  | cons u rest ih =>
    simp only [insertTimer]
    split
    · exact .refl _
    · exact (ih.cons u).trans (.swap t u rest)

theorem sorted_insertTimer [@Std.Total τ (· ≤ ·)] (t : Timer υ τ) {timers : List (Timer υ τ)}
    (h : timers.Pairwise fun a b => a.deadline ≤ b.deadline) :
    (insertTimer t timers).Pairwise fun a b => a.deadline ≤ b.deadline := by
  induction timers with
  | nil => simp [insertTimer]
  | cons u rest ih =>
    obtain ⟨hu, hrest⟩ := List.pairwise_cons.1 h
    simp only [insertTimer]
    split
    · next hlt =>
      refine List.pairwise_cons.2 ⟨?_, h⟩
      intro v hv
      rcases List.mem_cons.1 hv with rfl | hv
      · exact hlt.le
      · exact hlt.le.trans (hu v hv)
    · next hlt =>
      refine List.pairwise_cons.2 ⟨?_, ih hrest⟩
      intro v hv
      rcases List.mem_cons.1 ((perm_insertTimer t rest).mem_iff.1 hv) with rfl | hv
      · by_contra hle
        exact hlt (lt_of_not_le hle)
      · exact hu v hv

end Setting

section Firing

variable [DecidableLE τ]

/-- The timers that fire at a time are those due by then. -/
theorem mem_takeWhile_due {timers : List (Timer υ τ)} {limit : τ}
    (h : timers.Pairwise fun a b => a.deadline ≤ b.deadline) (t : Timer υ τ) :
    t ∈ timers.takeWhile (fun t => t.deadline ≤ limit) ↔ t ∈ timers ∧ t.deadline ≤ limit := by
  induction timers with
  | nil => simp
  | cons u rest ih =>
    obtain ⟨hu, hrest⟩ := List.pairwise_cons.1 h
    by_cases hdue : u.deadline ≤ limit
    · rw [List.takeWhile_cons_of_pos (by simpa using hdue)]
      simp only [List.mem_cons, ih hrest]
      constructor
      · rintro (rfl | ⟨ht, hle⟩)
        · exact ⟨.inl rfl, hdue⟩
        · exact ⟨.inr ht, hle⟩
      · rintro ⟨rfl | ht, hle⟩
        · exact .inl rfl
        · exact .inr ⟨ht, hle⟩
    · rw [List.takeWhile_cons_of_neg (by simpa using hdue)]
      -- no later timer is due, as none is earlier than this one
      simp only [List.not_mem_nil, List.mem_cons, false_iff]
      rintro ⟨rfl | ht, hle⟩
      · exact hdue hle
      · exact hdue ((hu t ht).trans hle)

theorem mem_dropWhile_due {timers : List (Timer υ τ)} {limit : τ}
    (h : timers.Pairwise fun a b => a.deadline ≤ b.deadline) (t : Timer υ τ) :
    t ∈ timers.dropWhile (fun t => t.deadline ≤ limit) ↔ t ∈ timers ∧ ¬t.deadline ≤ limit := by
  induction timers with
  | nil => simp
  | cons u rest ih =>
    obtain ⟨hu, hrest⟩ := List.pairwise_cons.1 h
    by_cases hdue : u.deadline ≤ limit
    · rw [List.dropWhile_cons_of_pos (by simpa using hdue), ih hrest, List.mem_cons]
      constructor
      · rintro ⟨ht, hle⟩
        exact ⟨.inr ht, hle⟩
      · rintro ⟨rfl | ht, hle⟩
        · exact absurd hdue hle
        · exact ⟨ht, hle⟩
    · rw [List.dropWhile_cons_of_neg (by simpa using hdue), List.mem_cons]
      constructor
      · rintro (rfl | ht)
        · exact ⟨.inl rfl, hdue⟩
        · exact ⟨.inr ht, fun hle => hdue ((hu t ht).trans hle)⟩
      · rintro ⟨ht, -⟩
        exact ht

end Firing

/-! ## The operations keep the invariant -/

theorem linked_empty (name : String) (ttl : τ) : (empty name ttl : TypingIndicator υ τ).Linked := by
  constructor <;> simp [empty]

theorem Linked.close {s : TypingIndicator υ τ} (h : s.Linked) : s.close.Linked := by
  unfold TypingIndicator.close
  split
  · exact h
  · constructor <;> simp

variable [DecidableEq υ]

theorem Linked.remove {s : TypingIndicator υ τ} (h : s.Linked) (user : υ) :
    (s.remove user).Linked := by
  unfold TypingIndicator.remove
  split
  · exact h
  · next hopen =>
    refine ⟨h.distinct.sublist (List.filter_sublist.map _), ?_, h.sorted, h.tokens, h.fresh,
      fun hclosed => absurd hclosed hopen⟩
    -- the timer of the user stays behind: stays need timers, but not the other way round
    intro user' stay hmem
    exact h.timed user' stay ((List.mem_filter.1 hmem).1)

theorem Linked.add [@Std.Total τ (· ≤ ·)] [DecidableLT τ] [Add τ] {s : TypingIndicator υ τ}
    (h : s.Linked) (now : τ) (user : υ) : (s.add now user).Linked := by
  unfold TypingIndicator.add
  split
  · exact h
  · next hopen =>
    have hperm := perm_insertTimer ⟨now + s.ttl, s.nextToken, user⟩ s.timers
    refine ⟨Entries.nodup_keys_put user _ h.distinct, ?_, sorted_insertTimer _ h.sorted, ?_, ?_,
      fun hclosed => absurd hclosed hopen⟩
    · intro user' stay hmem
      rw [hperm.mem_iff, List.mem_cons]
      rcases (Entries.mem_put_iff h.distinct).1 hmem with heq | ⟨hold, -⟩
      · obtain ⟨rfl, rfl⟩ := Prod.mk.inj heq
        exact .inl rfl
      · exact .inr (h.timed user' stay hold)
    · rw [(hperm.map Timer.token).nodup_iff, List.map_cons, List.nodup_cons]
      refine ⟨?_, h.tokens⟩
      -- the new token is beyond all that are pending
      intro hmem
      obtain ⟨t, ht, htoken⟩ := List.mem_map.1 hmem
      have := h.fresh t ht
      simp only at htoken
      omega
    · intro t ht
      rcases List.mem_cons.1 (hperm.mem_iff.1 ht) with rfl | ht
      · exact Nat.lt_succ_self _
      · exact Nat.lt_succ_of_lt (h.fresh t ht)

section Firing

variable [DecidableLE τ]

/-- A timer with the token of a stay is the timer of the stay. -/
theorem Linked.ends_iff {s : TypingIndicator υ τ} (h : s.Linked) {user : υ} {stay : Stay τ}
    (hmem : (user, stay) ∈ s.present) (limit : τ) :
    ends (s.timers.takeWhile fun t => t.deadline ≤ limit) user stay = true ↔
      stay.deadline ≤ limit := by
  have htimer := h.timed user stay hmem
  simp only [ends, List.any_eq_true, Bool.and_eq_true, decide_eq_true_eq, beq_iff_eq]
  constructor
  · rintro ⟨t, ht, rfl, htoken⟩
    obtain ⟨ht, hdue⟩ := (mem_takeWhile_due h.sorted t).1 ht
    -- a token names one timer, so the timer that fired is the one of the stay
    have heq : t = ⟨stay.deadline, stay.token, t.user⟩ :=
      List.inj_on_of_nodup_map h.tokens ht htimer htoken
    rw [heq] at hdue
    exact hdue
  · intro hdue
    exact ⟨_, (mem_takeWhile_due h.sorted _).2 ⟨htimer, hdue⟩, rfl, rfl⟩

/-- The users who are taken out when timers fire are those whose stay has ended. -/
theorem Linked.present_reap {s : TypingIndicator υ τ} (h : s.Linked) (limit : τ) :
    (s.reap limit).present = s.present.filter fun e => ¬e.2.deadline ≤ limit := by
  simp only [reap]
  apply List.filter_congr
  rintro ⟨user, stay⟩ hmem
  rw [Bool.eq_iff_iff]
  simp [← h.ends_iff hmem limit]

theorem Linked.reap {s : TypingIndicator υ τ} (h : s.Linked) (limit : τ) :
    (s.reap limit).Linked := by
  have hsublist : (s.reap limit).timers.Sublist s.timers := List.dropWhile_sublist _
  refine ⟨?_, ?_, h.sorted.sublist hsublist, h.tokens.sublist (hsublist.map _), ?_, ?_⟩
  · rw [h.present_reap]
    exact h.distinct.sublist (List.filter_sublist.map _)
  · intro user stay hmem
    rw [h.present_reap, List.mem_filter] at hmem
    exact (mem_dropWhile_due h.sorted _).2 ⟨h.timed user stay hmem.1, by simpa using hmem.2⟩
  · intro t ht
    exact h.fresh t (hsublist.subset ht)
  · intro hclosed
    obtain ⟨hpresent, htimers⟩ := h.closed hclosed
    rw [h.present_reap, hpresent]
    exact ⟨rfl, by simp [TypingIndicator.reap, htimers]⟩

end Firing

/-! ## What the operations do to the end of a stay -/

theorem Linked.deadline?_eq_some_iff {s : TypingIndicator υ τ} (h : s.Linked) (user : υ) (d : τ) :
    s.deadline? user = some d ↔ ∃ token, (user, ⟨token, d⟩) ∈ s.present := by
  simp only [deadline?, Option.map_eq_some_iff, Entries.get?_eq_some_iff h.distinct]
  constructor
  · rintro ⟨⟨token, d'⟩, hmem, rfl⟩
    exact ⟨token, hmem⟩
  · rintro ⟨token, hmem⟩
    exact ⟨_, hmem, rfl⟩

theorem Linked.deadline?_add [DecidableLT τ] [Add τ] {s : TypingIndicator υ τ} (h : s.Linked)
    (hopen : s.closed = false) (now : τ) (user user' : υ) :
    (s.add now user).deadline? user' =
      if user' = user then some (now + s.ttl) else s.deadline? user' := by
  simp only [TypingIndicator.add, hopen, Bool.false_eq_true, if_false, deadline?]
  split
  · next heq => simp [heq, Entries.get?_put_self user _ s.present h.distinct]
  · next hne => simp [Entries.get?_put_of_ne _ hne h.distinct]

theorem Linked.deadline?_remove {s : TypingIndicator υ τ} (h : s.Linked)
    (hopen : s.closed = false) (user user' : υ) :
    (s.remove user).deadline? user' = if user' = user then none else s.deadline? user' := by
  apply Option.ext
  intro d
  rw [(h.remove user).deadline?_eq_some_iff]
  split
  · next heq => simp [TypingIndicator.remove, hopen, Entries.erase, heq]
  · next hne => simp [TypingIndicator.remove, hopen, Entries.erase, h.deadline?_eq_some_iff, hne]

theorem Linked.deadline?_reap [DecidableLE τ] {s : TypingIndicator υ τ} (h : s.Linked) (limit : τ)
    (user : υ) : (s.reap limit).deadline? user = (s.deadline? user).filter fun d => ¬d ≤ limit := by
  apply Option.ext
  intro d
  rw [(h.reap limit).deadline?_eq_some_iff, Option.filter_eq_some_iff, h.deadline?_eq_some_iff,
    h.present_reap]
  simp

theorem Linked.deadline?_closed {s : TypingIndicator υ τ} (h : s.Linked)
    (hclosed : s.closed = true) (user : υ) : s.deadline? user = none := by
  simp [deadline?, (h.closed hclosed).1]

end Order

/-! ## The next timer -/

section Delay

variable [Sub τ] {s : TypingIndicator υ τ} {now delay : τ}

theorem nextDelay?_eq_some_iff : s.nextDelay? now = some delay ↔
    s.closed = false ∧ ∃ t, s.timers.head? = some t ∧ t.deadline - now = delay := by
  rw [nextDelay?]
  split
  · next hclosed => simp [hclosed]
  · next hopen => simp [hopen]

theorem nextDelay?_eq_none_iff :
    s.nextDelay? now = none ↔ s.closed = true ∨ s.timers = [] := by
  rw [nextDelay?]
  split
  · next hclosed => simp [hclosed]
  · next hopen => simp [hopen]

end Delay

end TypingIndicator
end ChatRecords
