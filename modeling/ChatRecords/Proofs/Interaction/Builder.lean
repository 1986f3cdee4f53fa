import ChatRecords.Interaction.Builder
import ChatRecords.Proofs.Interaction.Settings
import ChatRecords.Proofs.Record.Writable

/-!
# What is built

Seen as values, an answer under construction is its start with what was set, one after the other.
The lists and flag sets that it holds are its own, so whatever the caller does with those that it
has passed is not seen in the answer. A setter that raises has changed nothing.

## Main definitions

* `ResponseCall.setting`: what a call sets.
* `Builder.IsSound`: the answer has all fields, and has what they hold to itself.
* `Builder.Keeps`: the answer still has its fields and its objects as they were.
* `Builder.settings`: what was set in a run.
* `Response.IsStart`: the answers that a builder starts from.

## Main results

* `Builder.Keeps.response_eq`: an answer is the same if it has its fields and objects as they were.
* `Builder.run_setter_error_iff`, `Builder.gives_setter`: what a setter does.
* `Builder.IsSound.run`: what a run leaves.
* `Builder.response_of_run`: what holds at every moment.
-/

namespace ChatRecords

namespace Objects

variable {α : Type} [Inhabited α] {objects objects' : Objects α}

/-- An object of the answer holds what it held if the answer has got more objects. -/
theorem get_own_of_prefix (h : objects.own <+: objects'.own) {i : Nat}
    (hi : i < objects.own.length) : objects'.get (.own i) = objects.get (.own i) := by
  obtain ⟨more, hmore⟩ := h
  simp only [get]
  rw [← hmore, List.getD_append _ _ _ _ hi]

@[simp] theorem get_keep_length (a : α) (objects : Objects α) :
    (objects.keep a).get (.own objects.own.length) = a := by
  simp [get, keep]

end Objects

/-- What a call sets, with what the object that it is given holds at the time. -/
def ResponseCall.setting (b : Builder) : ResponseCall → ResponseSetting
  | .type code => .type code
  | .tts value => .tts value
  | .content text => .content text
  | .embeds place => .embeds (b.lists.get place)
  | .allowedMentions record => .allowedMentions record
  | .flags place => .flags (b.flagSets.get place)
  | .components place => .components (b.lists.get place)
  | .attachments place => .attachments (b.lists.get place)
  | .poll record => .poll record

/-- What a field holds is no object of the caller, and there are so many objects of the answer that
it is one of them. -/
def Held.IsOwn (lists flagSets : Nat) : Held → Prop
  | .value _ => True
  | .records (.own i) => i < lists
  | .flags (.own i) => i < flagSets
  | _ => False

theorem Held.IsOwn.mono {lists lists' flagSets flagSets' : Nat} {held : Held}
    (h : held.IsOwn lists flagSets) (hlists : lists ≤ lists') (hflagSets : flagSets ≤ flagSets') :
    held.IsOwn lists' flagSets' := by
  cases held with
  | value v => trivial
  | records place =>
    cases place with
    | passed i => exact h.elim
    | own i => exact Nat.lt_of_lt_of_le h hlists
  | flags place =>
    cases place with
    | passed i => exact h.elim
    | own i => exact Nat.lt_of_lt_of_le h hflagSets

namespace Builder

variable {b b' : Builder}

/-- The answer has what a field holds to itself. -/
def Owns (b : Builder) (held : Held) : Prop := held.IsOwn b.lists.own.length b.flagSets.own.length

/-- The data has all fields of its kind, and the answer has what they hold to itself. -/
structure IsSound (b : Builder) : Prop where
  names : ∀ fields ∈ b.data, fields.map Prod.fst = Response.fieldNames
  owns : ∀ fields ∈ b.data, ∀ f ∈ fields, b.Owns f.2

/-- The answer still has its fields and its objects, which hold what they held. -/
structure Keeps (b b' : Builder) : Prop where
  lists : b.lists.own <+: b'.lists.own
  flagSets : b.flagSets.own <+: b'.flagSets.own
  type : b'.type = b.type
  data : b'.data = b.data

theorem Keeps.owns (h : b.Keeps b') {held : Held} (howns : b.Owns held) : b'.Owns held :=
  howns.mono h.lists.length_le h.flagSets.length_le

/-- What the answer has to itself still holds what it held. -/
theorem Keeps.read_eq (h : b.Keeps b') {held : Held} (howns : b.Owns held) :
    b'.read held = b.read held := by
  cases held with
  | value v => rfl
  | records place =>
    cases place with
    | passed i => exact howns.elim
    | own i => rw [read, read, Objects.get_own_of_prefix h.lists howns]
  | flags place =>
    cases place with
    | passed i => exact howns.elim
    | own i => rw [read, read, Objects.get_own_of_prefix h.flagSets howns]

theorem Keeps.isSound (h : b.Keeps b') (hb : b.IsSound) : b'.IsSound :=
  ⟨h.data ▸ hb.names, fun fields hfields f hf =>
    h.owns (hb.owns fields (h.data ▸ hfields) f hf)⟩

/-- An answer that has its fields and its objects as they were is the same. -/
theorem Keeps.response_eq (h : b.Keeps b') (hb : b.IsSound) : b'.response = b.response := by
  rw [response, response, h.type, h.data]
  refine congrArg (Response.mk b.type) (Option.map_congr fun fields hfields => ?_)
  refine congrArg (Record.mk _) (List.map_congr_left fun f hf => ?_)
  rw [h.read_eq (hb.owns fields hfields f hf)]

/-! ## Values that are held -/

theorem names_hold (fields : List (String × Value)) :
    (hold fields).map Prod.fst = fields.map Prod.fst := by
  rw [hold, List.map_map]
  rfl

theorem owns_hold (b : Builder) (fields : List (String × Value)) :
    ∀ f ∈ hold fields, b.Owns f.2 := by
  rw [hold, List.forall_mem_map]
  exact fun _ _ => trivial

theorem read_hold (b : Builder) (fields : List (String × Value)) :
    (hold fields).map (fun f => (f.1, b.read f.2)) = fields := by
  rw [hold, List.map_map]
  exact List.map_id _

/-! ## Setters -/

theorem IsSound.names_fields (hb : b.IsSound) : b.fields.map Prod.fst = Response.fieldNames := by
  rw [fields]
  cases hdata : b.data with
  | none => exact names_hold _
  | some fields => exact hb.names fields hdata

theorem IsSound.owns_fields (hb : b.IsSound) : ∀ f ∈ b.fields, b.Owns f.2 := by
  rw [fields]
  cases hdata : b.data with
  | none => exact b.owns_hold _
  | some fields => exact hb.owns fields hdata

theorem data_response_getD (b : Builder) : b.response.data.getD Response.noData =
    ⟨.interactionResponseData, b.fields.map fun f => (f.1, b.read f.2)⟩ := by
  rw [response, fields]
  cases b.data <;> rfl

/-- A setter makes the answer `r` and leaves what the caller has. -/
def Gives (setter : Setter) (b : Builder) (r : Response) : Prop :=
  ∃ b', setter.run b = .ok () b' ∧ b'.response = r ∧ b'.IsSound ∧
    b'.lists.passed = b.lists.passed ∧ b'.flagSets.passed = b.flagSets.passed

/-- Setting a field to something that the answer has to itself. -/
theorem gives_setField (hb : b.IsSound) (name : String) {held : Held} (howns : b.Owns held) :
    Gives (setField name held) b (b.response.setData name (b.read held)) := by
  let put (f : String × Held) := if f.1 = name then (name, held) else f
  let b' : Builder := { b with data := some (b.fields.map put) }
  refine ⟨b', rfl, ?_, ⟨?_, ?_⟩, rfl, rfl⟩
  · have hread : (b.fields.map put).map (fun f => (f.1, b.read f.2)) =
        (b.fields.map fun f => (f.1, b.read f.2)).map fun f =>
          if f.1 = name then (name, b.read held) else f := by
      rw [List.map_map, List.map_map]
      refine List.map_congr_left fun f _ => ?_
      by_cases hname : f.1 = name <;> simp [put, hname]
    rw [Response.setData, data_response_getD, Record.set, ← hread]
    rfl
  · rintro _ ⟨⟩
    rw [List.map_map, ← hb.names_fields]
    refine List.map_congr_left fun f _ => ?_
    by_cases hname : f.1 = name <;> simp [put, hname]
  · rintro _ ⟨⟩
    rw [List.forall_mem_map]
    intro f hf
    change b.Owns (put f).2
    by_cases hname : f.1 = name
    · simpa [put, hname] using howns
    · simpa [put, hname] using hb.owns_fields f hf

/-- Setting a field to an object that the answer has just got. -/
theorem Keeps.gives {kept : Builder} (h : b.Keeps kept) (hb : b.IsSound)
    (hlists : kept.lists.passed = b.lists.passed)
    (hflagSets : kept.flagSets.passed = b.flagSets.passed) (name : String) {held : Held}
    (howns : kept.Owns held) {setter : Setter}
    (hrun : setter.run b = (setField name held).run kept) :
    Gives setter b (b.response.setData name (kept.read held)) := by
  obtain ⟨b', hset, hresponse, hsound, hlists', hflagSets'⟩ :=
    gives_setField (h.isSound hb) name howns
  refine ⟨b', hrun.trans hset, ?_, hsound, hlists'.trans hlists, hflagSets'.trans hflagSets⟩
  rw [hresponse, h.response_eq hb]

/-- Setting a field to a copy of a list. -/
theorem gives_setRecords (hb : b.IsSound) (name : String) (place : Place) :
    Gives (setRecords name place) b
      (b.response.setData name (.list ((b.lists.get place).map Record.toValue))) := by
  let kept : Builder := { b with lists := b.lists.keep (b.lists.get place) }
  have hkeeps : b.Keeps kept := ⟨List.prefix_append _ _, List.prefix_rfl, rfl, rfl⟩
  have howns : kept.Owns (.records (.own b.lists.own.length)) := by
    simp [Owns, Held.IsOwn, kept, Objects.keep]
  have hread : kept.read (.records (.own b.lists.own.length)) =
      .list ((b.lists.get place).map Record.toValue) := by
    rw [read, Objects.get_keep_length]
  rw [← hread]
  exact hkeeps.gives hb rfl rfl name howns rfl

/-- Setting the flags to a copy of a flag set without unknown bits. -/
theorem gives_copyFlags (hb : b.IsSound) {place : Place}
    (h : (b.flagSets.get place).unknown = 0) :
    Gives (copyFlags place) b (b.response.setData "flags" (.flags (b.flagSets.get place))) := by
  let kept : Builder := { b with flagSets := b.flagSets.keep (b.flagSets.get place).copy }
  have hkeeps : b.Keeps kept := ⟨List.prefix_rfl, List.prefix_append _ _, rfl, rfl⟩
  have howns : kept.Owns (.flags (.own b.flagSets.own.length)) := by
    simp [Owns, Held.IsOwn, kept, Objects.keep]
  have hread : kept.read (.flags (.own b.flagSets.own.length)) =
      .flags (b.flagSets.get place) := by
    rw [read, Objects.get_keep_length, FlagSet.copy_eq_of_unknown h]
  rw [← hread]
  exact hkeeps.gives hb rfl rfl "flags" howns rfl

theorem run_setEmbeds (b : Builder) (place : Place) : (setEmbeds place).run b =
    (unlessRefused (ResponseSetting.embeds (b.lists.get place)).refusal?
      (setRecords "embeds" place)).run b := rfl

theorem run_setFlags (b : Builder) (place : Place) : (setFlags place).run b =
    (unlessRefused (ResponseSetting.flags (b.flagSets.get place)).refusal?
      (copyFlags place)).run b := rfl

/-- A setter raises before it changes anything if what it is given is refused. -/
theorem run_setter_of_refusal {c : ResponseCall} {fault : ResponseFault}
    (h : (c.setting b).refusal? = some fault) : c.setter.run b = .error fault b := by
  cases c with
  | embeds place =>
    rw [ResponseCall.setting] at h
    rw [ResponseCall.setter, run_setEmbeds, h]
    rfl
  | flags place =>
    rw [ResponseCall.setting] at h
    rw [ResponseCall.setter, run_setFlags, h]
    rfl
  | _ => cases h

/-- A setter sets its field to what it is given, as that is at the time of the call, if that is not
refused. -/
theorem gives_setter_of_refusal (hb : b.IsSound) {c : ResponseCall}
    (h : (c.setting b).refusal? = none) : Gives c.setter b (b.response.put (c.setting b)) := by
  cases c with
  | type code => exact ⟨{ b with type := code }, rfl, rfl, ⟨hb.names, hb.owns⟩, rfl, rfl⟩
  | tts | content | allowedMentions | poll => exact gives_setField hb _ trivial
  | embeds place =>
    rw [ResponseCall.setting] at h
    rw [Gives, ResponseCall.setter, run_setEmbeds, h]
    exact gives_setRecords hb "embeds" place
  | flags place =>
    rw [ResponseCall.setting] at h
    rw [Gives, ResponseCall.setter, run_setFlags, h]
    exact gives_copyFlags hb (ResponseSetting.refusal?_eq_none_iff.1 h).1
  | components place | attachments place => exact gives_setRecords hb _ place

/-- A setter does with objects what its setting does with values. -/
theorem gives_setter (hb : b.IsSound) {c : ResponseCall} {r : Response}
    (h : b.response.apply (c.setting b) = .ok r) : Gives c.setter b r := by
  obtain ⟨htaken, rfl⟩ := Response.apply_ok_iff.1 h
  exact gives_setter_of_refusal hb (ResponseSetting.refusal?_eq_none_iff.2 htaken)

/-- A setter raises if and only if its setting is refused, and then everything is as it was. -/
theorem run_setter_error_iff (hb : b.IsSound) {c : ResponseCall} {fault : ResponseFault} :
    c.setter.run b = .error fault b' ↔
      b.response.apply (c.setting b) = .error fault ∧ b' = b := by
  cases happly : b.response.apply (c.setting b) with
  | error fault' =>
    rw [run_setter_of_refusal (Response.apply_error_iff.1 happly), EStateM.Result.error.injEq,
      Except.error.injEq]
    exact and_congr_right fun _ => eq_comm
  | ok r =>
    obtain ⟨b'', hrun, -⟩ := gives_setter hb happly
    simp [hrun]

/-! ## Runs -/

/-- What a step sets: what a call that does not raise is given. -/
def set? (b : Builder) : BuilderStep → Option ResponseSetting
  | .call c => if (b.step (.call c)).2.isNone then some (c.setting b) else none
  | _ => none

/-- What the calls of a run that do not raise are given, each as it is at the time of the call. -/
def settings (b : Builder) : List BuilderStep → List ResponseSetting
  | [] => []
  | s :: rest => (b.set? s).toList ++ settings (b.step s).1 rest

/-- Nothing that the caller does with its own lists and flag sets is seen in the answer. -/
theorem keeps_step (b : Builder) {s : BuilderStep} (h : ∀ c, s ≠ .call c) :
    b.Keeps (b.step s).1 := by
  cases s with
  | call c => exact absurd rfl (h c)
  | _ => exact ⟨List.prefix_rfl, List.prefix_rfl, rfl, rfl⟩

/-- What a step leaves: an answer with what was set, if something was. -/
theorem IsSound.step (hb : b.IsSound) (s : BuilderStep) :
    (b.step s).1.IsSound ∧
    (b.step s).1.response = (b.set? s).toList.foldl Response.put b.response ∧
    ∀ setting ∈ b.set? s, setting.IsTaken := by
  cases s with
  | call c =>
    cases happly : b.response.apply (c.setting b) with
    | error fault =>
      have hstep : b.step (.call c) = (b, some fault) := by
        rw [Builder.step, (run_setter_error_iff hb).2 ⟨happly, rfl⟩]
      rw [set?, hstep]
      exact ⟨hb, rfl, by simp⟩
    | ok r =>
      obtain ⟨b', hrun, hresponse, hsound, -⟩ := gives_setter hb happly
      obtain ⟨htaken, rfl⟩ := Response.apply_ok_iff.1 happly
      have hstep : b.step (.call c) = (b', none) := by rw [Builder.step, hrun]
      rw [set?, hstep]
      refine ⟨hsound, hresponse, ?_⟩
      rintro _ ⟨⟩
      exact htaken
  | _ =>
    refine ⟨(b.keeps_step ?_).isSound hb, (b.keeps_step ?_).response_eq hb, by simp [set?]⟩ <;>
      simp

/-- What a run leaves: an answer with what was set, one after the other. -/
theorem IsSound.run (hb : b.IsSound) (steps : List BuilderStep) :
    (b.run steps).IsSound ∧
    (b.run steps).response = (b.settings steps).foldl Response.put b.response ∧
    ∀ setting ∈ b.settings steps, setting.IsTaken := by
  induction steps generalizing b with
  | nil => exact ⟨hb, rfl, by simp [settings]⟩
  | cons s rest ih =>
    obtain ⟨hsound, hresponse, htaken⟩ := hb.step s
    obtain ⟨hsound', hresponse', htaken'⟩ := ih hsound
    refine ⟨hsound', ?_, ?_⟩
    · rw [settings, List.foldl_append, ← hresponse, ← hresponse']
      rfl
    · rw [settings, List.forall_mem_append]
      exact ⟨by simpa using htaken, htaken'⟩

/-! ## Starts -/

end Builder

/-- An answer that a builder starts from: a new one, or one that was decoded. -/
def Response.IsStart (r : Response) : Prop :=
  r = .start ∨ ∃ form p record,
    (Record.decode form .interactionResponse p).outcome = .ok record ∧ r = .ofRecord record

theorem Response.IsStart.isWhole {r : Response} (h : r.IsStart) : r.IsWhole := by
  rcases h with rfl | ⟨form, p, record, hdecode, rfl⟩
  · exact isWhole_start
  · obtain ⟨-, hkind⟩ := Decoding.decode_ok hdecode
    have hfits := Decoding.fits_of_decode Ready.closed_true p.allReady_true hdecode
    obtain ⟨kind, fields⟩ := record
    obtain rfl : kind = .interactionResponse := hkind
    obtain ⟨v, hlookup, hv⟩ := hfits.exists_lookup
      (f := .optional "data" (.record .interactionResponseData)) (.tail _ (.head _))
    intro data hdata
    have hget : Record.get ⟨.interactionResponse, fields⟩ "data" = v := by
      rw [Record.get]
      exact congrArg (Option.getD · Value.null) hlookup
    rw [ofRecord, hget] at hdata
    cases hv with
    | nothing => cases hdata
    | nullable hv =>
      cases hv with
      | record hnames _ _ =>
        obtain rfl := Option.some.inj hdata
        rw [fieldNames_eq]
        exact ⟨rfl, map_eq_map_iff_forall₂.2 hnames.flip⟩

namespace Builder

/-- A builder starts with the answer that it is made from. -/
theorem isSound_ofResponse {r : Response} (h : r.IsWhole) :
    (ofResponse r).IsSound ∧ (ofResponse r).response = r := by
  obtain ⟨type, data⟩ := r
  cases data with
  | none => exact ⟨⟨by rintro _ ⟨⟩, by rintro _ ⟨⟩⟩, rfl⟩
  | some data =>
    obtain ⟨hkind, hnames⟩ := h data rfl
    refine ⟨⟨?_, ?_⟩, ?_⟩
    · rintro _ ⟨⟩
      exact (names_hold _).trans hnames
    · rintro _ ⟨⟩
      exact owns_hold _ _
    · obtain ⟨kind, fields⟩ := data
      obtain rfl : kind = .interactionResponseData := hkind
      rw [response, ofResponse, Option.map_some, Option.map_some, read_hold]

/-- What holds at every moment of building an answer, with any calls and any changes by the caller
before. A setter that raises changes nothing; setters raise only for embeds and flags that the
answer does not take. A field of the data holds what the last call for it that did not raise was
given, or what it held at the start, and there is data only if there was some at the start or some
was set. A new answer never holds more embeds or other flags than it takes. -/
theorem response_of_run {start : Response} (hstart : start.IsStart) (steps : List BuilderStep) :
    let b := (ofResponse start).run steps
    let settings := (ofResponse start).settings steps
    (∀ (c : ResponseCall) fault b', c.setter.run b = .error fault b' → b' = b) ∧
    (∀ c : ResponseCall, (∃ fault b', c.setter.run b = .error fault b') ↔
      ¬(c.setting b).IsTaken) ∧
    (∀ name, b.response.field name =
      (Entries.get? name (settings.filterMap ResponseSetting.written?)).getD (start.field name)) ∧
    (b.response.data.isSome ↔ start.data.isSome ∨ ∃ s ∈ settings, s.written?.isSome) ∧
    (start = .start → b.response.IsBounded) := by
  intro b settings
  obtain ⟨hsound, hfirst⟩ := isSound_ofResponse hstart.isWhole
  obtain ⟨hb, hresponse, htaken⟩ := hsound.run steps
  rw [hfirst] at hresponse
  refine ⟨fun c fault b' h => ((run_setter_error_iff hb).1 h).2, fun c => ?_, fun name => ?_,
    ?_, ?_⟩
  · rw [← ResponseSetting.refusal?_eq_none_iff]
    simp [b, run_setter_error_iff hb, Response.apply_error_iff, Option.ne_none_iff_exists']
  · rw [hresponse]
    exact Response.field_foldl_put hstart.isWhole settings name
  · rw [hresponse, Response.isSome_data_foldl_put, Bool.or_eq_true, List.any_eq_true]
  · rintro rfl
    rw [hresponse]
    exact Response.isBounded_start.foldl_put Response.isWhole_start htaken

/-- A caller that adds a flag to a set which it has passed changes nothing, and then cannot pass the
set again. -/
theorem response_of_run_of_change :
    let ephemeral : FlagSet := ⟨.messageFlag, 64, 0⟩
    let b := (ofResponse .start).run [.makeFlags ephemeral, .call (.flags (.passed 0)),
      .changeFlags 0 (ephemeral.add 1), .call (.content (some "pong"))]
    (b.response.field "flags").flags? = some ephemeral ∧ b.response.IsBounded ∧
      ∃ fault, (setFlags (.passed 0)).run b = .error fault b := by
  intro ephemeral b
  obtain ⟨hsame, hfails, hfields, -, hbounded⟩ := response_of_run (.inl rfl)
    [.makeFlags ephemeral, .call (.flags (.passed 0)), .changeFlags 0 (ephemeral.add 1),
      .call (.content (some "pong"))]
  refine ⟨?_, hbounded rfl, ?_⟩
  · rw [hfields "flags"]
    decide +kernel
  have htaken : ¬((ResponseCall.flags (.passed 0)).setting b).IsTaken := by
    rw [← ResponseSetting.refusal?_eq_none_iff]
    decide
  obtain ⟨fault, b', hrun⟩ := (hfails (.flags (.passed 0))).2 htaken
  obtain rfl := hsame _ _ _ hrun
  exact ⟨fault, hrun⟩

end Builder
end ChatRecords
