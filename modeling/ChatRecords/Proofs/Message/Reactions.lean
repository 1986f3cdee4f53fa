import ChatRecords.Message.Events
import ChatRecords.Proofs.Keyed.Slot
import ChatRecords.Proofs.Record.Inversion
import ChatRecords.Proofs.Record.Parts

/-!
# Reactions of a message under its operations

However the operations on the reactions of a message are mixed, its reactions keep distinct
identities, and each operation does to the one reaction that it addresses, and to its place, what
`ReactionCall.Effect` says.

## Main definitions

* `ReactionCall`: the operations, with `ReactionCall.perform` and `Message.run`.
* `ReactionCall.Effect`: what an operation returns and leaves, in terms of places.

## Main results

* `ReactionCall.effect_perform`: every operation has its effect.
* `Message.reactions_of_run`: what holds after any operations in a row.
-/

namespace ChatRecords

/-- An operation on the reactions of a message. -/
inductive ReactionCall where
  | find (emoji : Record)
  | upsert (new : Reaction)
  | erase (emoji : Record)
  /-- A user reacted. -/
  | add (emoji : Record) (burst me : Bool) (burstColors : List String)
  /-- A user took a reaction back. -/
  | remove (emoji : Record) (burst me : Bool)
  | clear

namespace Reaction

@[simp] theorem identity?_more (r : Reaction) (burst me : Bool) :
    (r.more burst me).identity? = r.identity? := by
  cases burst <;> rfl

@[simp] theorem identity?_less (r : Reaction) (burst me : Bool) :
    (r.less burst me).identity? = r.identity? := by
  cases burst <;> rfl

@[simp] theorem identity?_start (emoji : Record) (burstColors : List String) :
    (start emoji burstColors).identity? = Emoji.identity? emoji := rfl

/-- A reaction is read from its record as it was. -/
@[simp] theorem ofRecord_toRecord (r : Reaction) : ofRecord r.toRecord = r := by
  have hcolors : (r.burstColors.map Value.text).filterMap Value.text? = r.burstColors := by
    rw [List.filterMap_map]
    exact List.filterMap_some
  obtain ⟨emoji, count, burst, normal, me, meBurst, colors⟩ := r
  change Reaction.mk emoji count burst normal me meBurst
    ((colors.map Value.text).filterMap Value.text?) = _
  rw [hcolors]

end Reaction

namespace ReactionCall

/-- The emoji that an operation addresses. -/
def emoji? : ReactionCall → Option Record
  | .find emoji | .erase emoji | .add emoji .. | .remove emoji .. => some emoji
  | .upsert new => some new.emoji
  | .clear => none

/-- The identity that an operation addresses. -/
def identity? (c : ReactionCall) : Option EmojiIdentity := c.emoji?.bind Emoji.identity?

/-- What an operation returns, and the message after it. -/
def perform (message : Record) : ReactionCall → Except Fault (Option Reaction × Record)
  | .find emoji => (Reactions.find emoji (Message.reactions message)).map fun r => (r, message)
  | .upsert new => (Reactions.upsert new (Message.reactions message)).map fun rs =>
      (none, Message.withReactions message rs)
  | .erase emoji => (Reactions.erase emoji (Message.reactions message)).map fun rs =>
      (none, Message.withReactions message rs)
  | .add emoji burst me burstColors =>
    (Message.reactionAdded message emoji burst me burstColors).map fun r => (some r.1, r.2)
  | .remove emoji burst me => Message.reactionRemoved message emoji burst me
  | .clear => .ok (none, Message.withReactions message [])

/-- The message after an operation; one that is refused leaves it as it was. -/
def after (message : Record) (c : ReactionCall) : Record :=
  match c.perform message with
  | .ok r => r.2
  | .error _ => message

end ReactionCall

/-- The message after operations in a row. -/
def Message.run (calls : List ReactionCall) (message : Record) : Record :=
  calls.foldl ReactionCall.after message

namespace ReactionCall

open Keyed (Distinct Slot Lacks)

/-- What an operation on a list of reactions returns and leaves. -/
inductive Effect (rs : List Reaction) :
    ReactionCall → Except Fault (Option Reaction) → List Reaction → Prop
  /-- The emoji has no identity. -/
  | refused {c : ReactionCall} {emoji : Record} (hc : c.emoji? = some emoji)
      (hnone : Emoji.identity? emoji = none) : Effect rs c (.error .invalidEmoji) rs
  | found {emoji : Record} {k : EmojiIdentity} {before after : List Reaction} {r : Reaction}
      (hk : Emoji.identity? emoji = some k) (hslot : Slot Reaction.identity? k rs before r after) :
      Effect rs (.find emoji) (.ok (some r)) rs
  | notFound {emoji : Record} {k : EmojiIdentity} (hk : Emoji.identity? emoji = some k)
      (hlacks : Lacks Reaction.identity? k rs) : Effect rs (.find emoji) (.ok none) rs
  | replaced {new : Reaction} {k : EmojiIdentity} {before after : List Reaction} {r : Reaction}
      (hk : new.identity? = some k) (hslot : Slot Reaction.identity? k rs before r after) :
      Effect rs (.upsert new) (.ok none) (before ++ new :: after)
  | appended {new : Reaction} {k : EmojiIdentity} (hk : new.identity? = some k)
      (hlacks : Lacks Reaction.identity? k rs) : Effect rs (.upsert new) (.ok none) (rs ++ [new])
  | erased {emoji : Record} {k : EmojiIdentity} {before after : List Reaction} {r : Reaction}
      (hk : Emoji.identity? emoji = some k) (hslot : Slot Reaction.identity? k rs before r after) :
      Effect rs (.erase emoji) (.ok none) (before ++ after)
  | notErased {emoji : Record} {k : EmojiIdentity} (hk : Emoji.identity? emoji = some k)
      (hlacks : Lacks Reaction.identity? k rs) : Effect rs (.erase emoji) (.ok none) rs
  | counted {emoji : Record} {burst me : Bool} {burstColors : List String} {k : EmojiIdentity}
      {before after : List Reaction} {r : Reaction} (hk : Emoji.identity? emoji = some k)
      (hslot : Slot Reaction.identity? k rs before r after) :
      Effect rs (.add emoji burst me burstColors) (.ok (some (r.more burst me)))
        (before ++ r.more burst me :: after)
  /-- The first reaction with an emoji comes last. -/
  | started {emoji : Record} {burst me : Bool} {burstColors : List String} {k : EmojiIdentity}
      (hk : Emoji.identity? emoji = some k) (hlacks : Lacks Reaction.identity? k rs) :
      Effect rs (.add emoji burst me burstColors)
        (.ok (some ((Reaction.start emoji burstColors).more burst me)))
        (rs ++ [(Reaction.start emoji burstColors).more burst me])
  | reduced {emoji : Record} {burst me : Bool} {k : EmojiIdentity}
      {before after : List Reaction} {r : Reaction} (hk : Emoji.identity? emoji = some k)
      (hslot : Slot Reaction.identity? k rs before r after)
      (hcount : (r.less burst me).count ≠ 0) :
      Effect rs (.remove emoji burst me) (.ok (some (r.less burst me)))
        (before ++ r.less burst me :: after)
  /-- The last reaction with an emoji was taken back. -/
  | emptied {emoji : Record} {burst me : Bool} {k : EmojiIdentity}
      {before after : List Reaction} {r : Reaction} (hk : Emoji.identity? emoji = some k)
      (hslot : Slot Reaction.identity? k rs before r after)
      (hcount : (r.less burst me).count = 0) :
      Effect rs (.remove emoji burst me) (.ok none) (before ++ after)
  | untracked {emoji : Record} {burst me : Bool} {k : EmojiIdentity}
      (hk : Emoji.identity? emoji = some k) (hlacks : Lacks Reaction.identity? k rs) :
      Effect rs (.remove emoji burst me) (.ok none) rs
  | cleared : Effect rs .clear (.ok none) []

end ReactionCall

/-! ## Messages as lists of reactions -/

namespace Message

/-- A record has a list of reactions, as every message does. -/
def HasReactions (message : Record) : Prop := "reactions" ∈ message.fields.map Prod.fst

theorem reactions_withReactions {message : Record} (h : HasReactions message)
    (rs : List Reaction) : reactions (withReactions message rs) = rs := by
  have hrecord (r : Reaction) : Reaction.ofRecord <$> r.toRecord.toValue.record? = some r :=
    congrArg some (Reaction.ofRecord_toRecord r)
  rw [reactions, withReactions, Record.get_set_self _ _ _ h, Value.records, Value.items,
    List.filterMap_map, List.map_filterMap]
  exact (List.filterMap_congr fun r _ => hrecord r).trans List.filterMap_some

theorem hasReactions_withReactions {message : Record} (h : HasReactions message)
    (rs : List Reaction) : HasReactions (withReactions message rs) := by
  have hnames : (withReactions message rs).fields.map Prod.fst = message.fields.map Prod.fst := by
    rw [withReactions, Record.set, List.map_map]
    apply List.map_congr_left
    intro f _
    by_cases hf : f.1 = "reactions" <;> simp [hf]
  rwa [HasReactions, hnames]

/-- A message that is decoded has its list of reactions, if only an empty one. -/
theorem hasReactions_of_decode {form : PayloadForm} {p : Payload} {message : Record}
    (h : (Record.decode form .message p).outcome = .ok message) : HasReactions message := by
  obtain ⟨hvalue, hkind⟩ := Decoding.decode_ok h
  obtain ⟨_, _, _, fields, -, -, -, hmessage, hfields⟩ := Decoding.record_ok hvalue
  obtain ⟨-, hown⟩ := Value.record.inj hmessage
  have hnames : message.fields.map Prod.fst = RecordKind.message.fields.map Field.name := by
    rw [hown, Decoding.ownFields_eq, List.map_map]
    exact map_eq_map_iff_forall₂.2 (hfields.imp fun _ _ hf => hf.1).flip
  rw [HasReactions, hnames]
  decide

end Message

namespace ReactionCall

open Keyed (Distinct Slot Lacks)
open Message (HasReactions reactions withReactions)

variable {message : Record}

theorem address_eq {emoji : Record} {k : EmojiIdentity} (hk : Emoji.identity? emoji = some k) :
    Reactions.address emoji = .ok k := by
  rw [Reactions.address, hk]

theorem address_refused {emoji : Record} (hnone : Emoji.identity? emoji = none) :
    Reactions.address emoji = .error .invalidEmoji := by
  rw [Reactions.address, hnone]

theorem after_eq_of_perform {c : ReactionCall} {r : Option Reaction × Record}
    (h : c.perform message = .ok r) : c.after message = r.2 := by
  rw [after, h]

theorem perform_find_of_lacks {emoji : Record} {k : EmojiIdentity}
    (hk : Emoji.identity? emoji = some k)
    (hlacks : Lacks Reaction.identity? k (reactions message)) :
    (ReactionCall.find emoji).perform message = .ok (none, message) := by
  simp only [perform, Reactions.find, address_eq hk, Except.map, Reactions.get?, hlacks.find?_eq]

/-- An operation with an emoji that has no identity is refused. -/
theorem perform_refused {c : ReactionCall} {emoji : Record} (hc : c.emoji? = some emoji)
    (hnone : Emoji.identity? emoji = none) : c.perform message = .error .invalidEmoji := by
  have haddress := address_refused hnone
  cases c <;> cases hc
  all_goals simp only [perform, Reactions.find, Reactions.upsert, Reactions.erase,
    Message.reactionAdded, Reactions.recordAdd, Message.reactionRemoved, Reactions.recordRemove,
    haddress]
  all_goals rfl

theorem exists_perform_erase {emoji : Record} {k : EmojiIdentity}
    (hk : Emoji.identity? emoji = some k) :
    ∃ after, (ReactionCall.erase emoji).perform message = .ok (none, after) := by
  rw [perform, Reactions.erase, address_eq hk]
  exact ⟨_, rfl⟩

theorem hasReactions_after (h : HasReactions message) (c : ReactionCall) :
    HasReactions (c.after message) := by
  have hset (rs : List Reaction) := Message.hasReactions_withReactions h rs
  cases c with
  | find emoji =>
    simp only [after, perform]
    cases Reactions.find emoji (reactions message) <;> exact h
  | upsert new =>
    simp only [after, perform]
    cases Reactions.upsert new (reactions message) with
    | ok rs => exact hset rs
    | error => exact h
  | erase emoji =>
    simp only [after, perform]
    cases Reactions.erase emoji (reactions message) with
    | ok rs => exact hset rs
    | error => exact h
  | add emoji burst me burstColors =>
    simp only [after, perform, Message.reactionAdded]
    cases Reactions.recordAdd emoji burst me burstColors (reactions message) with
    | ok r => exact hset r.2
    | error => exact h
  | remove emoji burst me =>
    simp only [after, perform, Message.reactionRemoved]
    cases Reactions.recordRemove emoji burst me (reactions message) with
    | ok r => exact hset r.2
    | error => exact h
  | clear => exact hset []

/-- Every operation has its effect. -/
theorem effect_perform (h : HasReactions message)
    (hdistinct : Distinct Reaction.identity? (reactions message)) (c : ReactionCall) :
    c.Effect (reactions message) ((c.perform message).map Prod.fst)
      (reactions (c.after message)) := by
  by_cases hrefused : ∃ emoji, c.emoji? = some emoji ∧ Emoji.identity? emoji = none
  · obtain ⟨emoji, hc, hnone⟩ := hrefused
    rw [after, perform_refused hc hnone]
    exact .refused hc hnone
  · have haddressed {emoji : Record} (hc : c.emoji? = some emoji) :
        ∃ k, Emoji.identity? emoji = some k := by
      rw [← Option.ne_none_iff_exists']
      exact fun hnone => hrefused ⟨emoji, hc, hnone⟩
    cases c with
    | find emoji =>
      obtain ⟨k, hk⟩ := haddressed rfl
      simp only [after, perform, Reactions.find, address_eq hk, Except.map]
      rcases hdistinct.slot_or_lacks k with ⟨before, r, rest, hslot⟩ | hlacks
      · rw [Reactions.get?, hslot.find?_eq]
        exact .found hk hslot
      · rw [Reactions.get?, hlacks.find?_eq]
        exact .notFound hk hlacks
    | upsert new =>
      obtain ⟨k, hk⟩ := haddressed rfl
      simp only [after, perform, Reactions.upsert, address_eq hk, Except.map,
        Message.reactions_withReactions h]
      rcases hdistinct.slot_or_lacks k with ⟨before, r, rest, hslot⟩ | hlacks
      · rw [hslot.upsert_eq]
        exact .replaced hk hslot
      · rw [hlacks.upsert_eq]
        exact .appended hk hlacks
    | erase emoji =>
      obtain ⟨k, hk⟩ := haddressed rfl
      simp only [after, perform, Reactions.erase, address_eq hk, Except.map,
        Message.reactions_withReactions h]
      rcases hdistinct.slot_or_lacks k with ⟨before, r, rest, hslot⟩ | hlacks
      · rw [hslot.erase_eq]
        exact .erased hk hslot
      · rw [hlacks.erase_eq]
        exact .notErased hk hlacks
    | add emoji burst me burstColors =>
      obtain ⟨k, hk⟩ := haddressed rfl
      simp only [after, perform, Message.reactionAdded, Reactions.recordAdd, address_eq hk,
        Except.map, Message.reactions_withReactions h]
      rcases hdistinct.slot_or_lacks k with ⟨before, r, rest, hslot⟩ | hlacks
      · simp only [Reactions.get?, hslot.find?_eq, hslot.replace_eq]
        exact .counted hk hslot
      · simp only [Reactions.get?, hlacks.find?_eq]
        exact .started hk hlacks
    | remove emoji burst me =>
      obtain ⟨k, hk⟩ := haddressed rfl
      simp only [after, perform, Message.reactionRemoved, Reactions.recordRemove, address_eq hk,
        Except.map, Message.reactions_withReactions h]
      rcases hdistinct.slot_or_lacks k with ⟨before, r, rest, hslot⟩ | hlacks
      · simp only [Reactions.get?, hslot.find?_eq]
        by_cases hcount : (r.less burst me).count = 0
        · simp only [hcount, if_true, hslot.erase_eq]
          exact .emptied hk hslot hcount
        · simp only [hcount, if_false, hslot.replace_eq]
          exact .reduced hk hslot hcount
      · simp only [Reactions.get?, hlacks.find?_eq]
        exact .untracked hk hlacks
    | clear =>
      simp only [after, perform, Message.reactions_withReactions h]
      exact .cleared

/-! ## What an effect is -/

variable {rs rs' : List Reaction} {c : ReactionCall} {result : Except Fault (Option Reaction)}

theorem Effect.distinct (h : c.Effect rs result rs') (hdistinct : Distinct Reaction.identity? rs) :
    Distinct Reaction.identity? rs' := by
  cases h with
  | refused | found | notFound | notErased | untracked => exact hdistinct
  | replaced hk hslot => exact hslot.distinct_replaced hdistinct hk
  | appended hk hlacks => exact hlacks.distinct_appended hdistinct hk
  | erased _ hslot | emptied _ hslot => exact hslot.distinct_erased hdistinct
  | counted _ hslot | reduced _ hslot =>
    exact hslot.distinct_replaced hdistinct (by simpa using hslot.key_eq)
  | started hk hlacks =>
    exact hlacks.distinct_appended hdistinct (by simpa using hk)
  | cleared => exact List.nodup_nil

/-- What an operation returns is the reaction that it addresses. -/
theorem Effect.identity?_eq {r : Reaction} (h : c.Effect rs (.ok (some r)) rs') :
    ∃ k, c.identity? = some k ∧ r.identity? = some k := by
  cases h with
  | found hk hslot => exact ⟨_, hk, hslot.key_eq⟩
  | counted hk hslot => exact ⟨_, hk, by simpa using hslot.key_eq⟩
  | started hk => exact ⟨_, hk, by simpa using hk⟩
  | reduced hk hslot => exact ⟨_, hk, by simpa using hslot.key_eq⟩

/-- A reaction that was taken out is not there any more. -/
theorem Effect.lacks {k : EmojiIdentity} (h : c.Effect rs (.ok none) rs')
    (hk : c.identity? = some k)
    (hout : (∃ emoji, c = .erase emoji) ∨ ∃ emoji burst me, c = .remove emoji burst me) :
    Lacks Reaction.identity? k rs' := by
  rcases hout with ⟨emoji, rfl⟩ | ⟨emoji, burst, me, rfl⟩
  · cases h with
    | erased hk' hslot =>
      obtain rfl := Option.some.inj (hk.symm.trans hk')
      exact hslot.lacks_erased
    | notErased hk' hlacks =>
      obtain rfl := Option.some.inj (hk.symm.trans hk')
      exact hlacks
  · cases h with
    | emptied hk' hslot =>
      obtain rfl := Option.some.inj (hk.symm.trans hk')
      exact hslot.lacks_erased
    | untracked hk' hlacks =>
      obtain rfl := Option.some.inj (hk.symm.trans hk')
      exact hlacks

/-- The operation addresses no reaction of a kind that is told by identities. -/
def Spares (p : Option EmojiIdentity → Bool) (c : ReactionCall) : Prop :=
  c ≠ .clear ∧ ∀ k, c.identity? = some k → p (some k) = false

/-- The reactions that an operation does not address stay as they are, in their order. -/
theorem Effect.filter_eq {p : Option EmojiIdentity → Bool} (hspares : c.Spares p)
    (h : c.Effect rs result rs') :
    rs'.filter (fun r => p r.identity?) = rs.filter fun r => p r.identity? := by
  have hout {k : EmojiIdentity} {before after : List Reaction} {r : Reaction}
      (hk : c.identity? = some k) (hr : r.identity? = some k) :
      (before ++ r :: after).filter (fun r => p r.identity?) =
        (before ++ after).filter fun r => p r.identity? := by
    simp [hr, hspares.2 k hk]
  cases h with
  | refused | found | notFound | notErased | untracked => rfl
  | replaced hk hslot => rw [hout hk hk, hslot.split, hout hk hslot.key_eq]
  | appended hk => rw [hout hk hk, List.append_nil]
  | erased hk hslot | emptied hk hslot => rw [hslot.split, hout hk hslot.key_eq]
  | counted hk hslot | reduced hk hslot =>
    rw [hout hk (by simpa using hslot.key_eq), hslot.split, hout hk hslot.key_eq]
  | started hk => rw [hout hk (by simpa using hk), List.append_nil]
  | cleared => exact absurd rfl hspares.1

end ReactionCall

/-! ## Operations in a row -/

namespace Message

open Keyed (Distinct)

variable {message : Record}

@[simp] theorem run_cons (c : ReactionCall) (rest : List ReactionCall) :
    run (c :: rest) message = run rest (c.after message) := rfl

theorem run_append (calls more : List ReactionCall) :
    run (calls ++ more) message = run more (run calls message) :=
  List.foldl_append ..

theorem hasReactions_run (h : HasReactions message) (calls : List ReactionCall) :
    HasReactions (run calls message) := by
  induction calls generalizing message with
  | nil => exact h
  | cons c rest ih => exact ih (ReactionCall.hasReactions_after h c)

theorem distinct_run (h : HasReactions message)
    (hdistinct : Distinct Reaction.identity? (reactions message)) (calls : List ReactionCall) :
    Distinct Reaction.identity? (reactions (run calls message)) := by
  induction calls generalizing message with
  | nil => exact hdistinct
  | cons c rest ih =>
    have heffect := ReactionCall.effect_perform h hdistinct c
    exact ih (ReactionCall.hasReactions_after h c) (heffect.distinct hdistinct)

/-- The reactions that no operation addresses stay as they are, in their order. -/
theorem filter_run (h : HasReactions message)
    (hdistinct : Distinct Reaction.identity? (reactions message))
    {p : Option EmojiIdentity → Bool} {calls : List ReactionCall}
    (hspares : ∀ c ∈ calls, c.Spares p) :
    (reactions (run calls message)).filter (fun r => p r.identity?) =
      (reactions message).filter fun r => p r.identity? := by
  induction calls generalizing message with
  | nil => rfl
  | cons c rest ih =>
    have heffect := ReactionCall.effect_perform h hdistinct c
    rw [run_cons, ih (ReactionCall.hasReactions_after h c) (heffect.distinct hdistinct)
      fun d hd => hspares d (List.mem_cons_of_mem _ hd),
      heffect.filter_eq (hspares c List.mem_cons_self)]

/-- Start from a message whose reactions have distinct identities, where those whose emoji has none
do not matter. After any operations in a row the identities are still distinct, and the next
operation has its effect on the one reaction that it addresses, if there is one: a query returns it,
an update replaces it in its place or comes last, and a removal takes it out and nothing else, so
that it is not found any more. An emoji without identity is refused, and nothing happens. Reactions
without identity are never returned, and they and all others that no operation addresses stay as
they are, in their order, until all are cleared. -/
theorem reactions_of_run (h : HasReactions message)
    (hdistinct : Distinct Reaction.identity? (reactions message)) (calls : List ReactionCall) :
    let now := run calls message
    Distinct Reaction.identity? (reactions now) ∧
    (∀ c : ReactionCall,
      c.Effect (reactions now) ((c.perform now).map Prod.fst) (reactions (c.after now))) ∧
    (∀ (c : ReactionCall) (emoji : Record), c.emoji? = some emoji →
      Emoji.identity? emoji = none →
      c.perform now = .error .invalidEmoji ∧ c.after now = now) ∧
    (∀ (emoji : Record) (k : EmojiIdentity), Emoji.identity? emoji = some k →
      (ReactionCall.find emoji).perform ((ReactionCall.erase emoji).after now) =
        .ok (none, (ReactionCall.erase emoji).after now)) ∧
    (∀ (emoji : Record) (burst me : Bool) (after : Record),
      (ReactionCall.remove emoji burst me).perform now = .ok (none, after) →
      (ReactionCall.find emoji).perform after = .ok (none, after)) ∧
    (∀ (c : ReactionCall) (r : Reaction) (after : Record),
      c.perform now = .ok (some r, after) → ∃ k, c.identity? = some k ∧ r.identity? = some k) ∧
    (∀ p : Option EmojiIdentity → Bool, ReactionCall.clear ∉ calls →
      (∀ c ∈ calls, ∀ k, c.identity? = some k → p (some k) = false) →
      (reactions now).filter (fun r => p r.identity?) =
        (reactions message).filter fun r => p r.identity?) := by
  intro now
  have hnow := hasReactions_run h calls
  have hkeys := distinct_run h hdistinct calls
  have heffect (c : ReactionCall) := ReactionCall.effect_perform hnow hkeys c
  have hresult {c : ReactionCall} {r : Option Reaction} {after : Record}
      (hc : c.perform now = .ok (r, after)) :
      c.Effect (reactions now) (.ok r) (reactions after) := by
    have hthis := heffect c
    rw [hc, ReactionCall.after_eq_of_perform hc] at hthis
    exact hthis
  refine ⟨hkeys, heffect, ?_, ?_, ?_, ?_, ?_⟩
  · intro c emoji hc hnone
    have hrefused : c.perform now = .error .invalidEmoji := ReactionCall.perform_refused hc hnone
    exact ⟨hrefused, by rw [ReactionCall.after, hrefused]⟩
  · intro emoji k hk
    apply ReactionCall.perform_find_of_lacks hk
    obtain ⟨after, hafter⟩ : ∃ after, (ReactionCall.erase emoji).perform now = .ok (none, after) :=
      ReactionCall.exists_perform_erase hk
    rw [ReactionCall.after_eq_of_perform hafter]
    exact (hresult hafter).lacks hk (.inl ⟨emoji, rfl⟩)
  · intro emoji burst me after hremove
    have hlast := hresult hremove
    cases hk : Emoji.identity? emoji with
    | none =>
      have hrefused : (ReactionCall.remove emoji burst me).perform now = .error .invalidEmoji :=
        ReactionCall.perform_refused rfl hk
      rw [hrefused] at hremove
      cases hremove
    | some k =>
      exact ReactionCall.perform_find_of_lacks hk (hlast.lacks hk (.inr ⟨emoji, burst, me, rfl⟩))
  · intro c r after hc
    exact (hresult hc).identity?_eq
  · intro p hclear hspares
    refine filter_run h hdistinct fun c hc => ⟨?_, hspares c hc⟩
    rintro rfl
    exact hclear hc

/-- One reaction has no identity and one a name. A reaction of the same name with an identifier is
another one, so that it stays when the named one is taken back. -/
theorem reactions_of_run_of_names :
    let named : Record := ⟨.emoji, [("name", .text "a")]⟩
    let custom : Record := ⟨.emoji, [("id", .id ⟨7, by decide⟩), ("name", .text "a")]⟩
    let nameless := Reaction.start ⟨.emoji, []⟩ []
    let message := withReactions (Record.make .message [])
      [nameless, (Reaction.start named []).more false false]
    let now := run [.add custom true true []] message
    HasReactions message ∧ Distinct Reaction.identity? (reactions message) ∧
      Distinct Reaction.identity? (reactions now) ∧
      ∃ after, (ReactionCall.remove named false false).perform now = .ok (none, after) ∧
        (ReactionCall.find named).perform after = .ok (none, after) ∧
        (reactions now).filter (fun r => r.identity?.isNone) =
          (reactions message).filter fun r => r.identity?.isNone := by
  intro named custom nameless message now
  have hreactions : HasReactions message := by unfold HasReactions; decide
  have hdistinct : Distinct Reaction.identity? (reactions message) := by unfold Distinct; decide
  obtain ⟨hkeys, -, -, -, hremoved, -, hframe⟩ :=
    reactions_of_run hreactions hdistinct [.add custom true true []]
  obtain ⟨after, hafter⟩ : ∃ after, (ReactionCall.remove named false false).perform now =
      .ok (none, after) := ⟨_, rfl⟩
  exact ⟨hreactions, hdistinct, hkeys, after, hafter, hremoved _ _ _ _ hafter,
    hframe Option.isNone (by simp) fun _ _ _ _ => rfl⟩

end Message
end ChatRecords
