import ChatRecords.Proofs.Keyed.OrderedMap
import ChatRecords.Proofs.Message.Balances

/-!
# Reactions of one identity

What becomes of the reaction of an identity, and what the events with that identity return, depends
on these events alone. Events with other identities may come in between in any order: they only
decide where in the list the reaction stands.

## Main definitions

* `ReactionCall.tell`: what an event makes of the reaction of its identity.
* `Message.eventsOf`: the events with an identity.
* `Message.replies`: what the events with an identity return.

## Main results

* `Keyed.Distinct.perm_of_find?_eq`: lists of distinct keys that differ at most in their order.
* `Message.get?_run_and_replies`: the reaction of an identity and what its events return, from its
  events.
* `Message.alike_of_runs`: two streams of events with the same events of every identity.
-/

namespace ChatRecords

namespace Keyed

variable {α κ : Type} [DecidableEq κ] {key : α → Option κ} {items items' : List α}

omit [DecidableEq κ] in
theorem map_snd_toMap (key : α → Option κ) (items : List α) :
    (toMap key items).map Prod.snd = items.filter fun a => (key a).isSome := by
  rw [toMap, List.map_filterMap, ← List.filterMap_eq_filter]
  congr 1
  funext a
  cases h : key a <;> simp [Option.guard, h]

open scoped List in
/-- Two lists of distinct keys with the same item under every key and the same items without a key
differ at most in their order. -/
theorem Distinct.perm_of_find?_eq (h : Distinct key items) (h' : Distinct key items')
    (hfind : ∀ k, find? key k items = find? key k items')
    (hkeyless : keyless key items = keyless key items') : items.Perm items' := by
  have hnodup {items : List α} (h : Distinct key items) : (toMap key items).Nodup := by
    refine List.Nodup.of_map Prod.fst ?_
    rw [keys_toMap]
    exact h
  have hmap : (toMap key items).Perm (toMap key items') := by
    rw [List.perm_ext_iff_of_nodup (hnodup h) (hnodup h')]
    rintro ⟨k, a⟩
    rw [mem_toMap_iff, mem_toMap_iff, ← h.find?_eq_some_iff, ← h'.find?_eq_some_iff, hfind]
  have hsplit (items : List α) :
      ((toMap key items).map Prod.snd ++ keyless key items).Perm items := by
    have hnone : keyless key items = items.filter fun a => !(key a).isSome := by
      simp only [keyless, Option.not_isSome]
    rw [map_snd_toMap, hnone]
    exact List.filter_append_perm _ _
  calc items
    _ ~ (toMap key items).map Prod.snd ++ keyless key items := (hsplit items).symm
    _ ~ (toMap key items').map Prod.snd ++ keyless key items' := by
      rw [hkeyless]
      exact (hmap.map Prod.snd).append_right _
    _ ~ items' := hsplit items'

end Keyed

namespace ReactionCall

open Keyed (Distinct Slot Lacks)

/-- What an event makes of the reaction of its identity, if there is one. -/
def tell : ReactionCall → Option Reaction → Option Reaction
  | .add emoji burst me burstColors, o =>
    some ((o.getD (Reaction.start emoji burstColors)).more burst me)
  | .remove _ burst me, o =>
    o.bind fun r => if (r.less burst me).count = 0 then none else some (r.less burst me)
  | _, o => o

variable {message : Record} {rs rs' : List Reaction} {c : ReactionCall} {k : EmojiIdentity}
  {result : Except Fault (Option Reaction)}

/-- An event tells what becomes of the reaction of its identity. -/
theorem Effect.get?_eq_tell (h : c.Effect rs result rs') (hevent : c.IsEvent)
    (hk : c.identity? = some k) : Reactions.get? k rs' = c.tell (Reactions.get? k rs) := by
  cases c with
  | add => exact h.get?_add hk
  | remove => exact h.get?_remove hk
  | find | upsert | erase | clear => exact hevent.elim

/-- An event returns the reaction of its identity as it then is. -/
theorem Effect.result_eq_tell (h : c.Effect rs result rs') (hevent : c.IsEvent)
    (hk : c.identity? = some k) : result = .ok (c.tell (Reactions.get? k rs)) := by
  cases h with
  | refused hc hnone => simp [identity?, hc, hnone] at hk
  | found | notFound | replaced | appended | erased | notErased | cleared => exact hevent.elim
  | counted hk' hslot =>
    obtain rfl := Option.some.inj (hk.symm.trans hk')
    rw [tell, Reactions.get?, hslot.find?_eq, Option.getD_some]
  | started hk' hlacks =>
    obtain rfl := Option.some.inj (hk.symm.trans hk')
    rw [tell, Reactions.get?, hlacks.find?_eq, Option.getD_none]
  | reduced hk' hslot hcount =>
    obtain rfl := Option.some.inj (hk.symm.trans hk')
    rw [tell, Reactions.get?, hslot.find?_eq, Option.bind_some, if_neg hcount]
  | emptied hk' hslot hcount =>
    obtain rfl := Option.some.inj (hk.symm.trans hk')
    rw [tell, Reactions.get?, hslot.find?_eq, Option.bind_some, if_pos hcount]
  | untracked hk' hlacks =>
    obtain rfl := Option.some.inj (hk.symm.trans hk')
    rw [tell, Reactions.get?, hlacks.find?_eq, Option.bind_none]

/-- An event with an emoji that has no identity is refused and changes nothing. -/
theorem refused_of_identity?_eq_none (message : Record) (hevent : c.IsEvent)
    (hk : c.identity? = none) :
    c.perform message = .error .invalidEmoji ∧ c.after message = message := by
  obtain ⟨emoji, hc, hnone⟩ : ∃ emoji, c.emoji? = some emoji ∧ Emoji.identity? emoji = none := by
    cases c with
    | add emoji | remove emoji => exact ⟨emoji, rfl, hk⟩
    | find | upsert | erase | clear => exact hevent.elim
  have hrefused : c.perform message = .error .invalidEmoji := perform_refused hc hnone
  exact ⟨hrefused, by rw [after, hrefused]⟩

theorem IsEvent.ne_clear (hevent : c.IsEvent) : c ≠ .clear := by
  rintro rfl
  exact hevent

/-- An event spares the reactions of other identities. -/
theorem IsEvent.spares (hevent : c.IsEvent) (hk : c.identity? = some k) :
    c.Spares fun o => o ≠ some k := by
  refine ⟨hevent.ne_clear, fun k' hk' => ?_⟩
  rw [hk] at hk'
  simpa using hk'.symm

/-- Nothing but the reactions of a message is changed. -/
theorem exists_after_eq (c : ReactionCall) (message : Record) :
    c.after message = message ∨ ∃ rs, c.after message = Message.withReactions message rs := by
  cases c with
  | find emoji =>
    left
    simp only [after, perform]
    cases Reactions.find emoji (Message.reactions message) <;> rfl
  | upsert new =>
    simp only [after, perform]
    cases Reactions.upsert new (Message.reactions message) with
    | ok rs => exact .inr ⟨rs, rfl⟩
    | error => exact .inl rfl
  | erase emoji =>
    simp only [after, perform]
    cases Reactions.erase emoji (Message.reactions message) with
    | ok rs => exact .inr ⟨rs, rfl⟩
    | error => exact .inl rfl
  | add emoji burst me burstColors =>
    simp only [after, perform, Message.reactionAdded]
    cases Reactions.recordAdd emoji burst me burstColors (Message.reactions message) with
    | ok r => exact .inr ⟨r.2, rfl⟩
    | error => exact .inl rfl
  | remove emoji burst me =>
    simp only [after, perform, Message.reactionRemoved]
    cases Reactions.recordRemove emoji burst me (Message.reactions message) with
    | ok r => exact .inr ⟨r.2, rfl⟩
    | error => exact .inl rfl
  | clear => exact .inr ⟨[], rfl⟩

end ReactionCall

namespace Message

open Keyed (Distinct)

/-- The message with other reactions is the same, whatever reactions it had. -/
theorem withReactions_withReactions (message : Record) (rs rs' : List Reaction) :
    withReactions (withReactions message rs) rs' = withReactions message rs' := by
  simp only [withReactions, Record.set, List.map_map]
  congr 1
  refine List.map_congr_left fun f _ => ?_
  by_cases hf : f.1 = "reactions" <;> simp [hf]

variable {message : Record} {calls calls' : List ReactionCall} {k : EmojiIdentity}

theorem withReactions_run (calls : List ReactionCall) (message : Record) (rs : List Reaction) :
    withReactions (run calls message) rs = withReactions message rs := by
  induction calls generalizing message with
  | nil => rfl
  | cons c rest ih =>
    rw [run_cons, ih]
    rcases c.exists_after_eq message with hsame | ⟨rs', hrs⟩
    · rw [hsame]
    · rw [hrs, withReactions_withReactions]

/-- The events with an identity. -/
def eventsOf (k : EmojiIdentity) (calls : List ReactionCall) : List ReactionCall :=
  calls.filter fun c => c.identity? = some k

/-- What the events with an identity return, in order. -/
def replies (k : EmojiIdentity) : List ReactionCall → Record → List (Except Fault (Option Reaction))
  | [], _ => []
  | c :: rest, message =>
    let later := replies k rest (c.after message)
    if c.identity? = some k then (c.perform message).map Prod.fst :: later else later

/-- What events with one identity return, when the reaction of that identity is as given. -/
def repliesOf : List ReactionCall → Option Reaction → List (Except Fault (Option Reaction))
  | [], _ => []
  | c :: rest, o => .ok (c.tell o) :: repliesOf rest (c.tell o)

theorem eventsOf_cons_self {c : ReactionCall} (hk : c.identity? = some k) :
    eventsOf k (c :: calls) = c :: eventsOf k calls :=
  List.filter_cons_of_pos (by simpa using hk)

theorem eventsOf_cons_of_ne {c : ReactionCall} (hk : c.identity? ≠ some k) :
    eventsOf k (c :: calls) = eventsOf k calls :=
  List.filter_cons_of_neg (by simpa using hk)

section

variable (h : HasReactions message) (hdistinct : Distinct Reaction.identity? (reactions message))
  (hevents : ∀ c ∈ calls, c.IsEvent)

include h hdistinct hevents

/-- The reaction of an identity comes from its events alone, and so does what they return. -/
theorem get?_run_and_replies (k : EmojiIdentity) :
    Reactions.get? k (reactions (run calls message)) =
      (eventsOf k calls).foldl (fun o c => c.tell o) (Reactions.get? k (reactions message)) ∧
    replies k calls message =
      repliesOf (eventsOf k calls) (Reactions.get? k (reactions message)) := by
  induction calls generalizing message with
  | nil => exact ⟨rfl, rfl⟩
  | cons c rest ih =>
    rw [List.forall_mem_cons] at hevents
    obtain ⟨hevent, hrest⟩ := hevents
    have heffect := ReactionCall.effect_perform h hdistinct c
    obtain ⟨hget, hreplies⟩ := ih (ReactionCall.hasReactions_after h c)
      (heffect.distinct hdistinct) hrest
    by_cases hk : c.identity? = some k
    · rw [heffect.get?_eq_tell hevent hk] at hget hreplies
      rw [run_cons, replies, if_pos hk, eventsOf_cons_self hk, List.foldl_cons, repliesOf, hget,
        hreplies, heffect.result_eq_tell hevent hk]
      exact ⟨rfl, rfl⟩
    · rw [heffect.get?_of_ne hevent.ne_clear hk] at hget hreplies
      rw [run_cons, replies, if_neg hk, eventsOf_cons_of_ne hk]
      exact ⟨hget, hreplies⟩

/-- The reactions without identity are never touched. -/
theorem keyless_run : Keyed.keyless Reaction.identity? (reactions (run calls message)) =
    Keyed.keyless Reaction.identity? (reactions message) := by
  exact filter_run h hdistinct fun c hc => ⟨(hevents c hc).ne_clear, fun _ _ => rfl⟩

end

/-- Start from a message whose reactions have distinct identities. An event changes no reaction of
another identity and not the order of these; one with an emoji that has no identity is refused and
changes nothing. So two streams of events that have the same events of every identity, in their
order, lead to messages with the same reaction of every identity. These messages are equal but for
the order of their reactions, and the events of every identity return the same in both streams. -/
theorem alike_of_runs (h : HasReactions message)
    (hdistinct : Distinct Reaction.identity? (reactions message))
    (hevents : ∀ c ∈ calls, c.IsEvent) (hevents' : ∀ c ∈ calls', c.IsEvent)
    (hsame : ∀ k, eventsOf k calls = eventsOf k calls') :
    let now := run calls message
    let now' := run calls' message
    (∀ c : ReactionCall, c.IsEvent → ∀ k, c.identity? = some k →
      (reactions (c.after now)).filter (fun r => r.identity? ≠ some k) =
        (reactions now).filter fun r => r.identity? ≠ some k) ∧
    (∀ c : ReactionCall, c.IsEvent → c.identity? = none →
      c.perform now = .error .invalidEmoji ∧ c.after now = now) ∧
    (∀ k, Reactions.get? k (reactions now) = Reactions.get? k (reactions now')) ∧
    (reactions now).Perm (reactions now') ∧
    (∀ rs, withReactions now rs = withReactions now' rs) ∧
    ∀ k, replies k calls message = replies k calls' message := by
  intro now now'
  have hget (k : EmojiIdentity) :
      Reactions.get? k (reactions now) = Reactions.get? k (reactions now') := by
    rw [(get?_run_and_replies h hdistinct hevents k).1,
      (get?_run_and_replies h hdistinct hevents' k).1, hsame]
  refine ⟨fun c hevent k hk => ?_, fun c hevent hk => ?_, hget, ?_, fun rs => ?_, fun k => ?_⟩
  · have heffect := ReactionCall.effect_perform (hasReactions_run h calls)
      (distinct_run h hdistinct calls) c
    exact heffect.filter_eq (hevent.spares hk)
  · exact ReactionCall.refused_of_identity?_eq_none now hevent hk
  · exact (distinct_run h hdistinct calls).perm_of_find?_eq (distinct_run h hdistinct calls') hget
      ((keyless_run h hdistinct hevents).trans (keyless_run h hdistinct hevents').symm)
  · rw [withReactions_run, withReactions_run]
  · rw [(get?_run_and_replies h hdistinct hevents k).2,
      (get?_run_and_replies h hdistinct hevents' k).2, hsame]

/-- A reaction with a name is taken back and comes again, once before and once after another one of
the same name with an identifier. The two lists differ in their order. -/
theorem alike_of_runs_of_swap :
    let named : Record := ⟨.emoji, [("name", .text "a")]⟩
    let custom : Record := ⟨.emoji, [("id", .id ⟨7, by decide⟩), ("name", .text "a")]⟩
    let message := withReactions (Record.make .message [])
      [(Reaction.start named []).more false true]
    let calls : List ReactionCall := [.remove named false false, .add custom true true ["red"],
      .add named false false []]
    let calls' : List ReactionCall := [.remove named false false, .add named false false [],
      .add custom true true ["red"]]
    (reactions (run calls message)).filterMap Reaction.identity? =
        [.id ⟨7, by decide⟩, .name "a"] ∧
      (reactions (run calls' message)).filterMap Reaction.identity? =
        [.name "a", .id ⟨7, by decide⟩] ∧
      (reactions (run calls message)).Perm (reactions (run calls' message)) ∧
      replies (.name "a") calls message = replies (.name "a") calls' message := by
  intro named custom message calls calls'
  have hreactions : HasReactions message := by unfold HasReactions; decide +kernel
  have hdistinct : Distinct Reaction.identity? (reactions message) := by
    unfold Distinct; decide +kernel
  have hevents : ∀ c ∈ calls, c.IsEvent := by simp [calls, ReactionCall.IsEvent]
  have hevents' : ∀ c ∈ calls', c.IsEvent := by simp [calls', ReactionCall.IsEvent]
  have hremove : (ReactionCall.remove named false false).identity? = some (.name "a") := rfl
  have hadd : (ReactionCall.add named false false []).identity? = some (.name "a") := rfl
  have hsame (k : EmojiIdentity) : eventsOf k calls = eventsOf k calls' := by
    by_cases hname : EmojiIdentity.name "a" = k
    · subst hname
      rfl
    · simp [calls, calls', eventsOf, List.filter_cons, hremove, hadd, hname]
  obtain ⟨-, -, -, hperm, -, hreplies⟩ :=
    alike_of_runs hreactions hdistinct hevents hevents' hsame
  exact ⟨by decide +kernel, by decide +kernel, hperm, hreplies _⟩

end Message
end ChatRecords
