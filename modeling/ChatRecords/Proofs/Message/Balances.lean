import ChatRecords.Proofs.Message.Reactions

/-!
# Balances of reactions

When users react to a message and take back no more reactions than there are, the counts of every
emoji are the balances of its events, and the emoji stand in the order in which they last turned
up.

## Main definitions

* `Message.balance`: how many burst or normal reactions with an identity there should be.
* `Message.arrival`: when an identity last turned up.
* `Reaction.Tallies`: the counts of a reaction, or of none, are two balances.

## Main results

* `Message.balances_of_run`: counts and order after any events.
-/

namespace ChatRecords
namespace Reaction

/-- The counts of a reaction add up and none is negative, and it counts something. -/
structure IsBalanced (r : Reaction) : Prop where
  count_eq : r.count = r.burst + r.normal
  burst_nonneg : 0 ≤ r.burst
  normal_nonneg : 0 ≤ r.normal
  one_le_count : 1 ≤ r.count

/-- The number of burst reactions or that of normal ones. -/
def number (burst : Bool) (r : Reaction) : Int := if burst then r.burst else r.normal

/-- The counts of a reaction are two balances, which are not both zero; where there is no reaction
they are. -/
def Tallies (balance : Bool → Int) : Option Reaction → Prop
  | some r => (∀ burst, r.number burst = balance burst) ∧ r.count = r.burst + r.normal ∧ r.count ≠ 0
  | none => ∀ burst, balance burst = 0

end Reaction

namespace ReactionCall

/-- A user reacted, or took a reaction back. -/
def IsEvent : ReactionCall → Prop
  | .add .. | .remove .. => True
  | _ => False

/-- By how much an event changes the number of burst or normal reactions with an identity. -/
def change (k : EmojiIdentity) (burst : Bool) : ReactionCall → Int
  | .add emoji b _ _ => if Emoji.identity? emoji = some k ∧ b = burst then 1 else 0
  | .remove emoji b _ => if Emoji.identity? emoji = some k ∧ b = burst then -1 else 0
  | _ => 0

end ReactionCall

namespace Message

/-- How many burst or normal reactions with an identity there were at the start, with those that
were added since and without those that were taken back. -/
def balance (message : Record) (calls : List ReactionCall) (k : EmojiIdentity) (burst : Bool) :
    Int :=
  calls.foldl (fun n c => n + c.change k burst)
    (((Reactions.get? k (reactions message)).map (Reaction.number burst)).getD 0)

/-- The balances of an identity are not both zero. -/
def IsPresent (message : Record) (calls : List ReactionCall) (k : EmojiIdentity) : Prop :=
  balance message calls k true ≠ 0 ∨ balance message calls k false ≠ 0

instance (message : Record) (calls : List ReactionCall) (k : EmojiIdentity) :
    Decidable (IsPresent message calls k) := by unfold IsPresent; infer_instance

/-- Of an identity that is present after the first `n` events, the event with which it last went
from absent to present, counted from one; zero if it has been there from the start. -/
def arrival (message : Record) (calls : List ReactionCall) (k : EmojiIdentity) : Nat → Nat
  | 0 => 0
  | n + 1 => if IsPresent message (calls.take n) k then arrival message calls k n else n + 1

end Message

namespace ReactionCall

open Keyed (Distinct Slot Lacks)

variable {rs rs' : List Reaction} {c : ReactionCall} {result : Except Fault (Option Reaction)}

/-- The reaction with another identity is the same after an operation. -/
theorem Effect.get?_of_ne {k : EmojiIdentity} (h : c.Effect rs result rs') (hclear : c ≠ .clear)
    (hk : c.identity? ≠ some k) : Reactions.get? k rs' = Reactions.get? k rs := by
  have hspares : c.Spares fun o => decide (o = some k) := by
    refine ⟨hclear, fun k' hk' => ?_⟩
    rw [decide_eq_false_iff_not, ← hk']
    exact hk
  rw [Reactions.get?, Keyed.find?_eq_head?, h.filter_eq hspares, ← Keyed.find?_eq_head?,
    Reactions.get?]

/-- After an event that adds one, a reaction counts one more. -/
theorem Effect.get?_add {emoji : Record} {burst me : Bool} {burstColors : List String}
    {k : EmojiIdentity} (hk : Emoji.identity? emoji = some k)
    (h : (ReactionCall.add emoji burst me burstColors).Effect rs result rs') :
    Reactions.get? k rs' = some (((Reactions.get? k rs).getD
      (Reaction.start emoji burstColors)).more burst me) := by
  cases h with
  | refused hc hnone =>
    obtain rfl := Option.some.inj hc
    simp [hk] at hnone
  | @counted _ _ _ _ _ before rest r hk' hslot =>
    obtain rfl := Option.some.inj (hk.symm.trans hk')
    have hkey : (r.more burst me).identity? = some k := by simpa using hslot.key_eq
    rw [Reactions.get?, (hslot.replaced hkey).find?_eq, Reactions.get?, hslot.find?_eq,
      Option.getD_some]
  | started hk' hlacks =>
    obtain rfl := Option.some.inj (hk.symm.trans hk')
    have hkey : ((Reaction.start emoji burstColors).more burst me).identity? = some k := by
      simpa using hk
    rw [Reactions.get?, (hlacks.appended hkey).find?_eq, Reactions.get?, hlacks.find?_eq,
      Option.getD_none]

/-- After an event that takes one back, a reaction counts one less, or nothing is left of it. -/
theorem Effect.get?_remove {emoji : Record} {burst me : Bool} {k : EmojiIdentity}
    (hk : Emoji.identity? emoji = some k)
    (h : (ReactionCall.remove emoji burst me).Effect rs result rs') :
    Reactions.get? k rs' = (Reactions.get? k rs).bind fun r =>
      if (r.less burst me).count = 0 then none else some (r.less burst me) := by
  cases h with
  | refused hc hnone =>
    obtain rfl := Option.some.inj hc
    simp [hk] at hnone
  | @reduced _ _ _ _ before rest r hk' hslot hcount =>
    obtain rfl := Option.some.inj (hk.symm.trans hk')
    have hkey : (r.less burst me).identity? = some k := by simpa using hslot.key_eq
    rw [Reactions.get?, (hslot.replaced hkey).find?_eq, Reactions.get?, hslot.find?_eq,
      Option.bind_some, if_neg hcount]
  | emptied hk' hslot hcount =>
    obtain rfl := Option.some.inj (hk.symm.trans hk')
    rw [Reactions.get?, hslot.lacks_erased.find?_eq, Reactions.get?, hslot.find?_eq,
      Option.bind_some, if_pos hcount]
  | untracked hk' hlacks =>
    obtain rfl := Option.some.inj (hk.symm.trans hk')
    rw [Reactions.get?, hlacks.find?_eq, Option.bind_none]

/-- The identities after an event: some of those before, or those before and a new one. -/
theorem Effect.identities (h : c.Effect rs result rs') (hevent : c.IsEvent) :
    (rs'.filterMap Reaction.identity?).Sublist (rs.filterMap Reaction.identity?) ∨
      ∃ k, Lacks Reaction.identity? k rs ∧
        rs'.filterMap Reaction.identity? = rs.filterMap Reaction.identity? ++ [k] := by
  cases h with
  | refused | found | notFound | notErased | untracked => exact .inl (List.Sublist.refl _)
  | replaced | appended | erased | cleared => exact hevent.elim
  | counted _ hslot | reduced _ hslot =>
    left
    rw [hslot.filterMap_replaced (by simpa using hslot.key_eq)]
  | @started emoji burst me burstColors k hk hlacks =>
    have hkey : ((Reaction.start emoji burstColors).more burst me).identity? = some k := by
      simpa using hk
    exact .inr ⟨k, hlacks, by simpa using (hlacks.appended hkey).filterMap_eq⟩
  | emptied _ hslot =>
    left
    rw [hslot.split, List.filterMap_append, List.filterMap_append]
    exact (List.Sublist.refl _).append ((List.sublist_cons_self _ _).filterMap _)

end ReactionCall

/-! ## Counts -/

namespace Reaction

theorem number_more (r : Reaction) (burst me b : Bool) :
    (r.more burst me).number b = r.number b + if burst = b then 1 else 0 := by
  cases burst <;> cases b <;> simp [more, number]

theorem count_more (r : Reaction) (burst me : Bool) : (r.more burst me).count = r.count + 1 := by
  cases burst <;> rfl

theorem add_numbers (r : Reaction) (burst : Bool) :
    r.number burst + r.number (!burst) = r.burst + r.normal := by
  cases burst <;> simp [number, Int.add_comm]

/-- No count falls below zero. -/
theorem number_less (r : Reaction) (burst me b : Bool) :
    (r.less burst me).number b = if burst = b then max (r.number b - 1) 0 else r.number b := by
  cases burst <;> cases b <;> simp [less, number]

theorem count_less (r : Reaction) (burst me : Bool) :
    (r.less burst me).count = max (r.count - 1) 0 := by
  cases burst <;> rfl

/-- One more reaction, where there was one or none. -/
theorem Tallies.more {balance balance' : Bool → Int} {o : Option Reaction}
    (h : Tallies balance o) (hnonneg : ∀ b, 0 ≤ balance b) {emoji : Record} {burst me : Bool}
    {burstColors : List String}
    (hchange : ∀ b, balance' b = balance b + if burst = b then 1 else 0) :
    Tallies balance' (some ((o.getD (start emoji burstColors)).more burst me)) := by
  have hnumbers : ∀ b, (o.getD (start emoji burstColors)).number b = balance b := by
    cases o with
    | some r => exact h.1
    | none =>
      intro b
      rw [Option.getD_none, h b]
      cases b <;> rfl
  have hcount : (o.getD (start emoji burstColors)).count = balance burst + balance (!burst) := by
    rw [← hnumbers, ← hnumbers, add_numbers]
    cases o with
    | some r => exact h.2.1
    | none => rfl
  generalize o.getD (start emoji burstColors) = r at hnumbers hcount
  have hsum := add_numbers (r.more burst me) burst
  simp only [number_more, if_true, Bool.eq_not_self, if_false, hnumbers] at hsum
  have hburst := hnonneg burst
  have hother := hnonneg (!burst)
  refine ⟨fun b => ?_, ?_, ?_⟩
  · rw [number_more, hnumbers, hchange]
  · rw [count_more]
    omega
  · rw [count_more]
    omega

/-- One reaction less, where there was one to take back. -/
theorem Tallies.less {balance balance' : Bool → Int} {o : Option Reaction}
    (h : Tallies balance o) (hnonneg : ∀ b, 0 ≤ balance' b) {burst me : Bool}
    (hchange : ∀ b, balance' b = balance b + if burst = b then -1 else 0) :
    Tallies balance' (o.bind fun r =>
      if (r.less burst me).count = 0 then none else some (r.less burst me)) := by
  have hburst := hnonneg burst
  have hother := hnonneg (!burst)
  have hchanged := hchange burst
  have hsame := hchange (!burst)
  simp only [if_true, Bool.eq_not_self, if_false] at hchanged hsame
  cases o with
  | none =>
    have := h burst
    omega
  | some r =>
    obtain ⟨hnumbers, hcount, -⟩ := h
    have hsum := add_numbers r burst
    rw [hnumbers, hnumbers] at hsum
    have hless := add_numbers (r.less burst me) burst
    simp only [number_less, if_true, Bool.eq_not_self, if_false, hnumbers] at hless
    have hleft := count_less r burst me
    have hnumbers' (b : Bool) : (r.less burst me).number b = balance' b := by
      rw [number_less, hchange, hnumbers]
      split
      · next hb =>
        subst hb
        omega
      · omega
    rw [Option.bind_some]
    split
    · next hzero =>
      intro b
      cases b <;> cases burst <;> simp only [Bool.not_true, Bool.not_false] at * <;> omega
    · next hne =>
      exact ⟨hnumbers', by omega, hne⟩

end Reaction

/-! ## Histories -/

namespace Message

open Keyed (Distinct Lacks)

variable {message : Record} {calls : List ReactionCall}

theorem balance_append (c : ReactionCall) (k : EmojiIdentity) (burst : Bool) :
    balance message (calls ++ [c]) k burst = balance message calls k burst + c.change k burst := by
  simp [balance]

theorem tallies_start (hdistinct : Distinct Reaction.identity? (reactions message))
    (hstart : ∀ r ∈ reactions message, r.identity?.isSome → r.IsBalanced) (k : EmojiIdentity) :
    Reaction.Tallies (balance message [] k) (Reactions.get? k (reactions message)) := by
  rcases hdistinct.slot_or_lacks k with ⟨before, r, rest, hslot⟩ | hlacks
  · have hr : Reactions.get? k (reactions message) = some r := hslot.find?_eq
    have hbalanced := hstart r hslot.mem (by simp [hslot.key_eq])
    rw [hr]
    refine ⟨fun b => by simp [balance, hr], hbalanced.count_eq, ?_⟩
    have := hbalanced.one_le_count
    omega
  · have hnone : Reactions.get? k (reactions message) = none := hlacks.find?_eq
    rw [hnone]
    intro b
    simp [balance, hnone]

/-- The counts follow the balances from one event to the next. -/
theorem tallies_after {rs rs' : List Reaction} {c : ReactionCall}
    {result : Except Fault (Option Reaction)} (heffect : c.Effect rs result rs')
    (hevent : c.IsEvent) (k : EmojiIdentity)
    (hbefore : ∀ burst, 0 ≤ balance message calls k burst)
    (hafter : ∀ burst, 0 ≤ balance message (calls ++ [c]) k burst)
    (h : Reaction.Tallies (balance message calls k) (Reactions.get? k rs)) :
    Reaction.Tallies (balance message (calls ++ [c]) k) (Reactions.get? k rs') := by
  have hchange (burst : Bool) : balance message (calls ++ [c]) k burst =
      balance message calls k burst + c.change k burst := balance_append c k burst
  by_cases hk : c.identity? = some k
  · cases c with
    | add emoji burst me burstColors =>
      have hk : Emoji.identity? emoji = some k := hk
      rw [heffect.get?_add hk]
      exact h.more hbefore fun b => by simp [hchange, ReactionCall.change, hk]
    | remove emoji burst me =>
      have hk : Emoji.identity? emoji = some k := hk
      rw [heffect.get?_remove hk]
      exact h.less hafter fun b => by simp [hchange, ReactionCall.change, hk]
    | find | upsert | erase | clear => exact hevent.elim
  · have hclear : c ≠ .clear := by
      rintro rfl
      exact hevent
    have hsame : balance message (calls ++ [c]) k = balance message calls k := by
      funext burst
      have hzero : c.change k burst = 0 := by
        cases c with
        | add emoji => exact if_neg fun h => hk h.1
        | remove emoji => exact if_neg fun h => hk h.1
        | find | upsert | erase | clear => rfl
      rw [hchange, hzero, Int.add_zero]
    rw [heffect.get?_of_ne hclear hk, hsame]
    exact h

/-- An identity is stored if and only if it is present. -/
theorem isPresent_iff {rs : List Reaction} {k : EmojiIdentity}
    (h : Reaction.Tallies (balance message calls k) (Reactions.get? k rs)) :
    IsPresent message calls k ↔ ¬Lacks Reaction.identity? k rs := by
  rw [← Keyed.find?_eq_none_iff, ← Reactions.get?]
  unfold IsPresent
  cases hr : Reactions.get? k rs with
  | none =>
    rw [hr] at h
    simp [h true, h false]
  | some r =>
    rw [hr] at h
    obtain ⟨hnumbers, hcount, hne⟩ := h
    rw [← hnumbers, ← hnumbers]
    have hsum := r.add_numbers true
    rw [Bool.not_true] at hsum
    simp only [reduceCtorEq, not_false_eq_true, iff_true]
    omega

theorem arrival_le (k : EmojiIdentity) (n : Nat) : arrival message calls k n ≤ n := by
  induction n with
  | zero => exact Nat.le_refl 0
  | succ n ih =>
    rw [arrival]
    split <;> omega

/-- One identity turned up before another: with an earlier event, or both have been there from the
start, in this order. -/
def ArrivedBefore (message : Record) (calls : List ReactionCall) (n : Nat)
    (k k' : EmojiIdentity) : Prop :=
  arrival message calls k n < arrival message calls k' n ∨
    arrival message calls k n = 0 ∧ arrival message calls k' n = 0 ∧
      [k, k'].Sublist ((reactions message).filterMap Reaction.identity?)

/-- The order of arrival at one event and the next, for identities that are there in between. -/
theorem ArrivedBefore.succ {n : Nat} {k k' : EmojiIdentity}
    (hk : IsPresent message (calls.take n) k) (hk' : IsPresent message (calls.take n) k')
    (h : ArrivedBefore message calls n k k') : ArrivedBefore message calls (n + 1) k k' := by
  rw [ArrivedBefore, arrival, if_pos hk, arrival, if_pos hk']
  exact h

/-- The identities stay in the order of their arrival. -/
theorem pairwise_after {n : Nat} {rs rs' : List Reaction} {c : ReactionCall}
    {result : Except Fault (Option Reaction)} (heffect : c.Effect rs result rs')
    (hevent : c.IsEvent)
    (hpresent : ∀ k, IsPresent message (calls.take n) k ↔ ¬Lacks Reaction.identity? k rs)
    (h : (rs.filterMap Reaction.identity?).Pairwise (ArrivedBefore message calls n)) :
    (rs'.filterMap Reaction.identity?).Pairwise (ArrivedBefore message calls (n + 1)) := by
  have hstored {k : EmojiIdentity} (hk : k ∈ rs.filterMap Reaction.identity?) :
      IsPresent message (calls.take n) k := by
    rw [hpresent, Keyed.lacks_iff, not_not]
    exact hk
  have hold : (rs.filterMap Reaction.identity?).Pairwise (ArrivedBefore message calls (n + 1)) :=
    h.imp_of_mem fun hk hk' harrived => harrived.succ (hstored hk) (hstored hk')
  rcases heffect.identities hevent with hsub | ⟨k, hlacks, hids⟩
  · exact hold.sublist hsub
  · rw [hids, List.pairwise_append]
    refine ⟨hold, List.pairwise_singleton _ _, fun k' hk' k'' hk'' => ?_⟩
    obtain rfl := List.mem_singleton.1 hk''
    -- the new identity was absent, so that it arrives with this event
    left
    have habsent : ¬IsPresent message (calls.take n) k'' := by
      rw [hpresent, not_not]
      exact hlacks
    rw [arrival, if_pos (hstored hk'), arrival, if_neg habsent]
    exact Nat.lt_succ_of_le (arrival_le k' n)

/-- What is the case after some events: counts are balances, and identities stand in the order of
their arrival. -/
structure Tallied (message : Record) (calls : List ReactionCall) (n : Nat) (rs : List Reaction) :
    Prop where
  tallies : ∀ k, Reaction.Tallies (balance message (calls.take n) k) (Reactions.get? k rs)
  pairwise : (rs.filterMap Reaction.identity?).Pairwise (ArrivedBefore message calls n)

theorem tallied_run (h : HasReactions message)
    (hdistinct : Distinct Reaction.identity? (reactions message))
    (hstart : ∀ r ∈ reactions message, r.identity?.isSome → r.IsBalanced)
    (hevents : ∀ c ∈ calls, c.IsEvent)
    (hremovals : ∀ n k burst, 0 ≤ balance message (calls.take n) k burst)
    {n : Nat} (hn : n ≤ calls.length) :
    Tallied message calls n (reactions (run (calls.take n) message)) := by
  induction n with
  | zero =>
    refine ⟨fun k => tallies_start hdistinct hstart k, ?_⟩
    rw [List.pairwise_iff_forall_sublist]
    exact fun hsub => .inr ⟨rfl, rfl, hsub⟩
  | succ n ih =>
    have hbefore := ih (Nat.le_of_succ_le hn)
    have hlt : n < calls.length := hn
    let c := calls[n]
    have htake : calls.take (n + 1) = calls.take n ++ [c] := List.take_succ_eq_append_getElem hlt
    have hevent : c.IsEvent := hevents c (List.getElem_mem hlt)
    have hrun : run (calls.take (n + 1)) message = c.after (run (calls.take n) message) := by
      rw [htake, run_append]
      rfl
    have heffect := ReactionCall.effect_perform (hasReactions_run h (calls.take n))
      (distinct_run h hdistinct (calls.take n)) c
    rw [hrun]
    refine ⟨fun k => ?_, ?_⟩
    · have hafter := hremovals (n + 1) k
      rw [htake] at hafter ⊢
      exact tallies_after heffect hevent k (hremovals n k) hafter (hbefore.tallies k)
    · exact pairwise_after heffect hevent (fun k => isPresent_iff (hbefore.tallies k))
        hbefore.pairwise

/-- Start from a message whose reactions have distinct identities and counts that add up. After any
events that take back no more reactions than there are, an identity is stored if and only if its
balances are not both zero, its counts are its balances and their sum, and the identities stand in
the order in which they last went from absent to present. -/
theorem balances_of_run (h : HasReactions message)
    (hdistinct : Distinct Reaction.identity? (reactions message))
    (hstart : ∀ r ∈ reactions message, r.identity?.isSome → r.IsBalanced)
    (hevents : ∀ c ∈ calls, c.IsEvent)
    (hremovals : ∀ n k burst, 0 ≤ balance message (calls.take n) k burst)
    (n : Nat) (hn : n ≤ calls.length) :
    let now := reactions (run (calls.take n) message)
    (∀ k, (∃ r ∈ now, r.identity? = some k) ↔
      balance message (calls.take n) k true ≠ 0 ∨ balance message (calls.take n) k false ≠ 0) ∧
    (∀ r ∈ now, ∀ k, r.identity? = some k →
      r.burst = balance message (calls.take n) k true ∧
      r.normal = balance message (calls.take n) k false ∧
      r.count = balance message (calls.take n) k true + balance message (calls.take n) k false) ∧
    Distinct Reaction.identity? now ∧
    (now.filterMap Reaction.identity?).Pairwise (ArrivedBefore message calls n) := by
  intro now
  have htallied := tallied_run h hdistinct hstart hevents hremovals hn
  have hkeys : Distinct Reaction.identity? now := distinct_run h hdistinct (calls.take n)
  refine ⟨fun k => ?_, fun r hr k hk => ?_, hkeys, htallied.pairwise⟩
  · have hpresent := isPresent_iff (htallied.tallies k)
    rw [Keyed.lacks_iff, not_not, List.mem_filterMap] at hpresent
    exact hpresent.symm
  · rcases hkeys.slot_or_lacks k with ⟨before, r', rest, hslot⟩ | hlacks
    · obtain rfl := hslot.eq_of_mem hr hk
      have hfound : Reactions.get? k now = some r := hslot.find?_eq
      have htallies := htallied.tallies k
      rw [hfound] at htallies
      obtain ⟨hnumbers, hcount, -⟩ := htallies
      have hburst : r.burst = _ := hnumbers true
      have hnormal : r.normal = _ := hnumbers false
      exact ⟨hburst, hnormal, by rw [hcount, hburst, hnormal]⟩
    · exact absurd hk (hlacks r hr)

/-- A reaction with a name is taken back and comes again, after one with an identifier, so that it
is the last. -/
theorem balances_of_run_of_return :
    let named : Record := ⟨.emoji, [("name", .text "a")]⟩
    let custom : Record := ⟨.emoji, [("id", .id ⟨7, by decide⟩), ("name", .text "a")]⟩
    let message := withReactions (Record.make .message [])
      [(Reaction.start named []).more false false]
    let calls : List ReactionCall := [.remove named false false, .add custom true true [],
      .add named false false []]
    let now := reactions (run calls message)
    now.filterMap Reaction.identity? = [.id ⟨7, by decide⟩, .name "a"] ∧
      (∀ r ∈ now, r.identity? = some (.name "a") → r.burst = 0 ∧ r.normal = 1 ∧ r.count = 1) ∧
      ArrivedBefore message calls 3 (.id ⟨7, by decide⟩) (.name "a") := by
  intro named custom message calls now
  have hreactions : HasReactions message := by unfold HasReactions; decide +kernel
  have hlist : reactions message = [(Reaction.start named []).more false false] :=
    reactions_withReactions (by unfold HasReactions; decide +kernel) _
  have hdistinct : Distinct Reaction.identity? (reactions message) := by
    rw [hlist]
    exact List.nodup_singleton _
  have hstart : ∀ r ∈ reactions message, r.identity?.isSome → r.IsBalanced := by
    intro r hr _
    rw [hlist, List.mem_singleton] at hr
    rw [hr]
    exact ⟨rfl, by decide, by decide, by decide⟩
  have hevents : ∀ c ∈ calls, c.IsEvent := by simp [calls, ReactionCall.IsEvent]
  have hremovals : ∀ n k burst, 0 ≤ balance message (calls.take n) k burst := by
    intro n k burst
    have hnamed : Emoji.identity? named = some (.name "a") := rfl
    have hcustom : Emoji.identity? custom = some (.id ⟨7, by decide⟩) := rfl
    have hstored (b : Bool) : ((Reaction.start named []).more false false).number b =
        if b then 0 else 1 := by cases b <;> rfl
    rw [balance, hlist]
    obtain rfl | rfl | rfl | ⟨m, rfl⟩ : n = 0 ∨ n = 1 ∨ n = 2 ∨ ∃ m, n = m + 3 := by
      rcases n with _ | _ | _ | m <;> simp
    all_goals
      by_cases hname : EmojiIdentity.name "a" = k <;>
        by_cases hid : EmojiIdentity.id ⟨7, by decide⟩ = k <;> cases burst <;>
        simp [calls, ReactionCall.change, hnamed, hcustom, hstored, hname, hid, Reactions.get?,
          Keyed.find?, Keyed.HasKey]
  have htake : calls.take 3 = calls := rfl
  obtain ⟨-, hcounts, -, horder⟩ :=
    balances_of_run hreactions hdistinct hstart hevents hremovals 3 (by decide)
  rw [htake] at hcounts horder
  have hids : now.filterMap Reaction.identity? = [.id ⟨7, by decide⟩, .name "a"] := by
    decide +kernel
  rw [hids] at horder
  refine ⟨hids, fun r hr hk => ?_, (List.pairwise_cons.1 horder).1 _ (by simp)⟩
  obtain ⟨hburst, hnormal, hcount⟩ := hcounts r hr _ hk
  exact ⟨hburst.trans (by decide +kernel), hnormal.trans (by decide +kernel),
    hcount.trans (by decide +kernel)⟩

end Message
end ChatRecords
