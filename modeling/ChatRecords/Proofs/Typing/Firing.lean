import ChatRecords.Proofs.Typing.History

/-!
# Timers firing one by one

The timers of an indicator fire in the order of their deadlines, and in the order in which they were
set where these are equal. Each one that fires takes out its user if the user still carries its
token. What is left when all timers due at a time have fired is told by the deadlines of the stays,
however many void timers there are.

## Main definitions

* `Timer.FiresBefore`: the order in which timers fire.
* `TypingIndicator.fireDue`: what is left when the timers due at a time have fired.

## Main results

* `TypingIndicator.fireDue_eq`: the timers that fire one by one, and all at once.
* `TypingIndicator.timers_of_run`: what links the timers and the users after any calls.
-/

namespace ChatRecords

/-- The first timer fires before the second: it is due earlier, or no later and was set earlier.
Users are not looked at. -/
def Timer.FiresBefore {υ τ : Type} [LE τ] [LT τ] (a b : Timer υ τ) : Prop :=
  a.deadline < b.deadline ∨ (a.deadline ≤ b.deadline ∧ a.token < b.token)

/-- What is left when timers have fired. -/
structure Fired (υ τ : Type) where
  present : List (υ × Stay τ)
  timers : List (Timer υ τ)
  /-- How many users were taken out. -/
  count : Nat
deriving DecidableEq

namespace TypingIndicator

variable {υ τ : Type}

/-! ## The order of the timers -/

section Order

variable [Preorder τ]

/-- A timer with a token beyond those of others finds its place among them. -/
theorem firesBefore_insertTimer [DecidableLT τ] [@Std.Total τ (· ≤ ·)] {t : Timer υ τ}
    {timers : List (Timer υ τ)} (hfresh : ∀ u ∈ timers, u.token < t.token) (h : timers.Pairwise Timer.FiresBefore) :
    (insertTimer t timers).Pairwise Timer.FiresBefore := by
  induction timers with
  | nil => simp [insertTimer]
  | cons u rest ih =>
    obtain ⟨hu, hrest⟩ := List.pairwise_cons.1 h
    simp only [insertTimer]
    split
    · next hlt =>
      refine List.pairwise_cons.2 ⟨?_, h⟩
      intro v hv
      rcases List.mem_cons.1 hv with rfl | hv
      · exact .inl hlt
      · rcases hu v hv with huv | ⟨huv, -⟩
        · exact .inl (hlt.trans huv)
        · exact .inl (hlt.trans_le huv)
    · next hlt =>
      refine List.pairwise_cons.2 ⟨?_, ih (fun v hv => hfresh v (List.mem_cons_of_mem _ hv)) hrest⟩
      intro v hv
      rcases List.mem_cons.1 ((perm_insertTimer t rest).mem_iff.1 hv) with rfl | hv
      · refine .inr ⟨?_, hfresh u List.mem_cons_self⟩
        by_contra hle
        exact hlt (lt_of_not_le hle)
      · exact hu v hv

variable {s : TypingIndicator υ τ}

/-- Just one timer has the token of a stay, and it is the timer of the stay. -/
theorem Linked.filter_token (h : s.Linked) {user : υ} {stay : Stay τ}
    (hmem : (user, stay) ∈ s.present) :
    (s.timers.filter fun t => t.token = stay.token) = [⟨stay.deadline, stay.token, user⟩] := by
  have htimer := h.timed user stay hmem
  have hnodup : (s.timers.filter fun t => t.token = stay.token).Nodup :=
    (List.Nodup.of_map _ h.tokens).filter _
  have hall : ∀ t ∈ s.timers.filter fun t => t.token = stay.token,
      t = ⟨stay.deadline, stay.token, user⟩ := by
    intro t ht
    obtain ⟨ht, htoken⟩ := List.mem_filter.1 ht
    exact List.inj_on_of_nodup_map h.tokens ht htimer (by simpa using htoken)
  exact (List.perm_singleton.1 ((List.perm_ext_iff_of_nodup hnodup (List.nodup_singleton _)).2
    fun t => ⟨fun ht => List.mem_singleton.2 (hall t ht), fun ht => by
      rw [List.mem_singleton.1 ht]
      exact List.mem_filter.2 ⟨htimer, by simp⟩⟩))

/-- While somebody is present there is a timer, and the earliest is no later than any deadline. -/
theorem Linked.exists_head (h : s.Linked) (hne : s.present ≠ []) :
    ∃ t, s.timers.head? = some t ∧ ∀ e ∈ s.present, t.deadline ≤ e.2.deadline := by
  obtain ⟨e, hpresent⟩ := List.exists_mem_of_ne_nil _ hne
  cases htimers : s.timers with
  | nil => simpa [htimers] using h.timed e.1 e.2 hpresent
  | cons t rest =>
    refine ⟨t, rfl, fun e he => ?_⟩
    have hsorted := List.pairwise_cons.1 (htimers ▸ h.sorted)
    rcases List.mem_cons.1 (htimers ▸ h.timed e.1 e.2 he) with heq | hrest
    · exact (congrArg Timer.deadline heq.symm).le
    · exact hsorted.1 _ hrest

theorem Linked.closed_eq_false (h : s.Linked) (hne : s.present ≠ []) : s.closed = false := by
  by_contra hclosed
  exact hne (h.closed (by simpa using hclosed)).1

end Order

/-! ## All at once -/

variable [DecidableEq υ]

/-- Whether a user carries the token of a timer. -/
def carries (present : List (υ × Stay τ)) (t : Timer υ τ) : Bool :=
  (Entries.get? t.user present).any fun stay => stay.token == t.token

/-- The timers fire one by one until one is not due. Those whose user carries another token, or is
not there, are dropped. -/
def fireDue [LE τ] [DecidableLE τ] (limit : τ) (present : List (υ × Stay τ)) (count : Nat) :
    List (Timer υ τ) → Fired υ τ
  | [] => ⟨present, [], count⟩
  | t :: rest =>
    if t.deadline ≤ limit then
      if carries present t then fireDue limit (Entries.erase t.user present) (count + 1) rest
      else fireDue limit present count rest
    else ⟨present, t :: rest, count⟩

section Firing

variable {present : List (υ × Stay τ)} {t : Timer υ τ} {due : List (Timer υ τ)}

theorem carries_iff (h : (present.map Prod.fst).Nodup) :
    carries present t = true ↔ ∃ stay, (t.user, stay) ∈ present ∧ stay.token = t.token := by
  simp only [carries, Option.any_eq_true, Entries.get?_eq_some_iff h, beq_iff_eq]

theorem ends_cons (user : υ) (stay : Stay τ) :
    ends (t :: due) user stay = true ↔ (t.user = user ∧ t.token = stay.token) ∨
      ends due user stay = true := by
  simp [ends]

/-- A timer whose token is carried ends the stay of its user, which is one stay. -/
theorem filter_ends_of_carries (h : (present.map Prod.fst).Nodup) (ht : carries present t = true) :
    (present.filter fun e => !ends (t :: due) e.1 e.2) =
      (Entries.erase t.user present).filter fun e => !ends due e.1 e.2 := by
  obtain ⟨stay, hstay, htoken⟩ := (carries_iff h).1 ht
  rw [Entries.erase, List.filter_filter]
  refine List.filter_congr fun e he => ?_
  rw [Bool.eq_iff_iff]
  simp only [Bool.not_eq_true', Bool.and_eq_true, decide_eq_true_eq, ← Bool.not_eq_true, ends_cons]
  constructor
  · intro hnot
    refine ⟨fun hends => hnot (.inr hends), fun huser => hnot (.inl ⟨huser.symm, ?_⟩)⟩
    -- the entry of the user is the one with the token
    obtain rfl : e = (t.user, stay) := List.inj_on_of_nodup_map h he hstay huser
    exact htoken.symm
  · rintro ⟨hends, hne⟩ (⟨huser, -⟩ | hdue)
    · exact hne huser.symm
    · exact hends hdue

/-- A timer whose token is not carried ends no stay. -/
theorem filter_ends_of_not_carries (h : (present.map Prod.fst).Nodup)
    (ht : ¬carries present t = true) :
    (present.filter fun e => !ends (t :: due) e.1 e.2) =
      present.filter fun e => !ends due e.1 e.2 := by
  refine List.filter_congr fun e he => ?_
  rw [Bool.eq_iff_iff]
  simp only [Bool.not_eq_true', ← Bool.not_eq_true, ends_cons, not_or, and_iff_right_iff_imp]
  rintro - ⟨huser, htoken⟩
  exact ht ((carries_iff h).2 ⟨e.2, by rwa [huser], htoken.symm⟩)

theorem length_erase_of_carries (h : (present.map Prod.fst).Nodup) (ht : carries present t = true) :
    (Entries.erase t.user present).length + 1 = present.length := by
  obtain ⟨stay, hstay, -⟩ := (carries_iff h).1 ht
  obtain ⟨before, after, rfl⟩ := List.append_of_mem hstay
  -- the keys before and after the entry are others
  have hkeys : ∀ e ∈ before ++ after, e.1 ≠ t.user := by
    have hperm : (before ++ (t.user, stay) :: after).Perm ((t.user, stay) :: (before ++ after)) :=
      List.perm_middle
    have hnodup := (hperm.map Prod.fst).nodup_iff.1 h
    intro e he heq
    exact (List.nodup_cons.1 hnodup).1 (List.mem_map.2 ⟨e, he, heq⟩)
  have hself (l : List (υ × Stay τ)) (hl : ∀ e ∈ l, e.1 ≠ t.user) :
      (l.filter fun e => e.1 ≠ t.user) = l :=
    List.filter_eq_self.2 fun e he => by simpa using hl e he
  rw [Entries.erase, List.filter_append, List.filter_cons_of_neg (by simp),
    hself before fun e he => hkeys e (List.mem_append_left _ he),
    hself after fun e he => hkeys e (List.mem_append_right _ he)]
  simp only [List.length_append, List.length_cons]
  omega

/-- The stays that no timer ends that is due. -/
def kept [LE τ] [DecidableLE τ] (limit : τ) (timers : List (Timer υ τ))
    (present : List (υ × Stay τ)) : List (υ × Stay τ) :=
  present.filter fun e => !ends (timers.takeWhile fun t => t.deadline ≤ limit) e.1 e.2

/-- The timers that fire one by one leave what they leave all at once, and take out as many users as
are missing in the end. -/
theorem fireDue_eq [LE τ] [DecidableLE τ] (limit : τ) (h : (present.map Prod.fst).Nodup)
    (timers : List (Timer υ τ)) (count : Nat) :
    fireDue limit present count timers =
      ⟨kept limit timers present, timers.dropWhile fun t => t.deadline ≤ limit,
        count + (present.length - (kept limit timers present).length)⟩ := by
  induction timers generalizing present count with
  | nil => simp [fireDue, kept, ends]
  | cons t rest ih =>
    rw [fireDue]
    by_cases hdue : t.deadline ≤ limit
    · rw [if_pos hdue, List.dropWhile_cons_of_pos (by simpa using hdue)]
      have htake : ((t :: rest).takeWhile fun t => t.deadline ≤ limit) =
          t :: rest.takeWhile fun t => t.deadline ≤ limit :=
        List.takeWhile_cons_of_pos (by simpa using hdue)
      split
      · next ht =>
        have hkept : kept limit (t :: rest) present =
            kept limit rest (Entries.erase t.user present) := by
          rw [kept, htake, filter_ends_of_carries h ht, kept]
        have hlength := length_erase_of_carries h ht
        have hle : (kept limit rest (Entries.erase t.user present)).length ≤
            (Entries.erase t.user present).length := List.length_filter_le _ _
        have herase : ((Entries.erase t.user present).map Prod.fst).Nodup :=
          h.sublist (List.filter_sublist.map _)
        rw [ih herase, hkept]
        congr 1
        omega
      · next ht =>
        rw [ih h, kept, kept, htake, filter_ends_of_not_carries h ht]
    · rw [if_neg hdue, kept, List.takeWhile_cons_of_neg (by simpa using hdue),
        List.dropWhile_cons_of_neg (by simpa using hdue)]
      simp [ends]

/-- The timers due at a time fire one by one as `reap` and `reapCount` say. -/
theorem fireDue_reap [LE τ] [DecidableLE τ] {s : TypingIndicator υ τ}
    (h : (s.present.map Prod.fst).Nodup) (limit : τ) :
    fireDue limit s.present 0 s.timers =
      ⟨(s.reap limit).present, (s.reap limit).timers, s.reapCount limit⟩ := by
  rw [fireDue_eq limit h, Nat.zero_add]
  rfl

end Firing

/-! ## Timers and users -/

section Runs

variable [Preorder τ] [DecidableLE τ] {s : TypingIndicator υ τ}

/-- Those who are not kept were due. -/
theorem Linked.reapCount_eq (h : s.Linked) (limit : τ) :
    s.reapCount limit = (s.present.filter fun e => e.2.deadline ≤ limit).length := by
  have hsplit := List.length_eq_length_filter_add (l := s.present)
    (fun e => decide (e.2.deadline ≤ limit))
  rw [reapCount, h.present_reap]
  simp only [decide_not]
  omega

/-- The timers left are those that are not due. -/
theorem Linked.timers_reap (h : s.Linked) (limit : τ) :
    (s.reap limit).timers = s.timers.filter fun t => ¬t.deadline ≤ limit := by
  have hdue : ((s.timers.takeWhile fun t => t.deadline ≤ limit).filter fun t =>
      ¬t.deadline ≤ limit) = [] := by
    rw [List.filter_eq_nil_iff]
    intro t ht
    simpa using ((mem_takeWhile_due h.sorted t).1 ht).2
  have hkept : ((s.timers.dropWhile fun t => t.deadline ≤ limit).filter fun t =>
      ¬t.deadline ≤ limit) = s.timers.dropWhile fun t => t.deadline ≤ limit := by
    rw [List.filter_eq_self]
    intro t ht
    simpa using ((mem_dropWhile_due h.sorted t).1 ht).2
  conv_rhs => rw [← List.takeWhile_append_dropWhile (p := fun t => t.deadline ≤ limit) (l := s.timers)]
  rw [List.filter_append, hdue, hkept]
  rfl

variable [DecidableLT τ] [@Std.Total τ (· ≤ ·)] [Add τ]

theorem firesBefore_perform (hlinked : s.Linked)
    (h : s.timers.Pairwise Timer.FiresBefore) (e : TypingEvent υ τ) :
    (s.perform e).timers.Pairwise Timer.FiresBefore := by
  unfold perform
  split
  · unfold add
    split
    · exact h
    · exact firesBefore_insertTimer hlinked.fresh h
  · unfold remove
    split <;> exact h
  · exact h.sublist (List.dropWhile_sublist _)
  · unfold close
    split
    · exact h
    · exact List.Pairwise.nil

theorem firesBefore_run (name : String) (ttl : τ) (events : List (TypingEvent υ τ)) :
    (run name ttl events).timers.Pairwise Timer.FiresBefore := by
  induction events using List.reverseRecOn with
  | nil => exact List.Pairwise.nil
  | append_singleton events e ih =>
    rw [run_append_singleton]
    exact firesBefore_perform (linked_run name ttl events) ih e

variable [Sub τ] (name : String) (ttl : τ)

/-- After any calls every user present has just one timer with the token that the user carries, and
it has the deadline of the stay. No two timers have one token, so that the order in which they fire
is told by deadlines and tokens. While somebody is present there is a next timer, and it is no later
than any deadline. When the timers due at a time fire one by one, those users are taken out whose
stay has ended by then, each counted once, and no timer is left that is due, while all others are
left in their order. -/
theorem timers_of_run (events : List (TypingEvent υ τ)) :
    let s := run name ttl events
    (s.present.map Prod.fst).Nodup ∧
    (∀ user stay, (user, stay) ∈ s.present →
      (s.timers.filter fun t => t.token = stay.token) = [⟨stay.deadline, stay.token, user⟩]) ∧
    (s.timers.map Timer.token).Nodup ∧
    s.timers.Pairwise Timer.FiresBefore ∧
    (s.present ≠ [] → ∃ t, s.timers.head? = some t ∧
      (∀ now, s.nextDelay? now = some (t.deadline - now)) ∧
      ∀ e ∈ s.present, t.deadline ≤ e.2.deadline) ∧
    (∀ limit, fireDue limit s.present 0 s.timers =
      ⟨s.present.filter fun e => ¬e.2.deadline ≤ limit,
        s.timers.filter fun t => ¬t.deadline ≤ limit,
        (s.present.filter fun e => e.2.deadline ≤ limit).length⟩) ∧
    (∀ limit, fireDue limit s.present 0 s.timers =
      ⟨(s.reap limit).present, (s.reap limit).timers, s.reapCount limit⟩) := by
  intro s
  have hlinked : s.Linked := linked_run name ttl events
  have hfire := fireDue_reap hlinked.distinct
  refine ⟨hlinked.distinct, fun _ _ => hlinked.filter_token, hlinked.tokens,
    firesBefore_run name ttl events, ?_, ?_, hfire⟩
  · intro hne
    obtain ⟨t, hhead, hle⟩ := hlinked.exists_head hne
    exact ⟨t, hhead, fun now => nextDelay?_eq_some_iff.2
      ⟨hlinked.closed_eq_false hne, t, hhead, rfl⟩, hle⟩
  · intro limit
    rw [hfire limit, hlinked.present_reap, hlinked.timers_reap, hlinked.reapCount_eq]

/-- A user starts twice and another starts and stops: when the second timer of the first user is
due, three timers fire and one user is taken out. -/
theorem timers_of_run_of_refresh :
    let events : List (TypingEvent Nat Nat) :=
      [⟨0, .add 1⟩, ⟨2, .add 1⟩, ⟨2, .add 2⟩, ⟨3, .remove 2⟩, ⟨6, .add 3⟩]
    let s := run "lobby" 5 events
    (s.timers.filter fun t => t.token = 2) = [⟨7, 2, 1⟩] ∧ s.nextDelay? 6 = some 0 ∧
      fireDue 8 s.present 0 s.timers = ⟨[(3, ⟨4, 11⟩)], [⟨11, 4, 3⟩], 1⟩ := by
  intro events s
  obtain ⟨-, hone, -, -, hnext, hfire, -⟩ := timers_of_run "lobby" 5 events
  obtain ⟨t, hhead, hdelay, -⟩ := hnext (by decide)
  obtain rfl : (⟨5, 1, 1⟩ : Timer Nat Nat) = t := by
    refine Option.some.inj (Eq.trans ?_ hhead)
    decide
  refine ⟨hone 1 ⟨2, 7⟩ (by decide), hdelay 6, ?_⟩
  rw [hfire]
  decide

end Runs
end TypingIndicator
end ChatRecords
