import ChatRecords.Proofs.Record.Ways

/-!
# Records that can be written

A decoded record can be written unless some reaction in it has an emoji that cannot be told from
others, or its parts lie too deep within one another. Both forms of writing, as text and as a JSON
value, fail for the same records. Emoji in other places may lack an identity.

## Main definitions

* `Value.IsUnwritable`: a value that cannot be written, whatever its parts are.
* `Record.HasNamelessReaction`: some reaction has an emoji with neither an identifier nor a name.
* `Record.HasLooseFlags`: some flag set is in a value of any type.

## Main results

* `Value.exists_encode_iff`: a value can be written if no part of it is unwritable.
* `Value.Fits.lacksIdentity_iff`: which records are unwritable, in terms of their fields.
* `Record.encodeText_fails_iff`: which decoded records cannot be written.
-/

namespace ChatRecords

theorem exists_forall₂_iff {α β : Type} {R : α → β → Prop} {xs : List α} :
    (∃ ys, List.Forall₂ R xs ys) ↔ ∀ x ∈ xs, ∃ y, R x y := by
  induction xs with
  | nil => exact iff_of_true ⟨[], .nil⟩ (by simp)
  | cons x xs ih =>
    rw [List.forall_mem_cons, ← ih]
    constructor
    · rintro ⟨_, _ | ⟨hx, hxs⟩⟩
      exact ⟨⟨_, hx⟩, _, hxs⟩
    · rintro ⟨⟨y, hy⟩, ys, hys⟩
      exact ⟨y :: ys, .cons hy hys⟩

theorem exists_entry_iff {k : String} {P : Json → Prop} :
    (∃ e : String × Json, e.1 = k ∧ P e.2) ↔ ∃ j, P j :=
  ⟨fun ⟨e, _, he⟩ => ⟨e.2, he⟩, fun ⟨j, hj⟩ => ⟨(k, j), rfl, hj⟩⟩

/-- Where no key comes twice, a key is found with the value that it has in any entry. -/
theorem lookup_eq_some_iff_mem {β : Type} {entries : List (String × β)}
    (hnodup : (entries.map Prod.fst).Nodup) {k : String} {v : β} :
    entries.lookup k = some v ↔ (k, v) ∈ entries := by
  rw [List.lookup_eq_some_iff]
  constructor
  · rintro ⟨before, after, rfl, -⟩
    simp
  · intro hmem
    obtain ⟨before, after, rfl⟩ := List.append_of_mem hmem
    refine ⟨before, after, rfl, fun e he => ?_⟩
    rw [List.map_append, List.nodup_append] at hnodup
    have hne := hnodup.2.2 e.1 (List.mem_map_of_mem he) k (by simp)
    simpa using hne.symm

namespace Value

/-! ## Parts that cannot be written -/

/-- A value that cannot be written, whatever its parts are: a reaction whose emoji cannot be told
from others, or a value of any type with a flag set in it. -/
def IsUnwritable : Value → Prop
  | .record kind fields => lacksIdentity kind fields = true
  | .any p => ∃ s, p.Holds (.flags s)
  | _ => False

theorem exists_encode_leaf_iff {v : Value} (hleaf : v.hasParts = false) :
    (∃ j, v.encode = .ok j) ↔ ¬v.IsUnwritable := by
  cases v with
  | list _ | map _ | record _ _ => cases hleaf
  | any p =>
    have hwritten : (∃ j, (Value.any p).encode = .ok j) ↔ p.wire? ≠ none :=
      (exists_congr fun j => encodeAny_eq_ok_iff).trans Option.ne_none_iff_exists'.symm
    rw [hwritten, ne_eq, Payload.wire?_eq_none_iff]
    exact Iff.rfl
  | choice c => cases c <;> exact iff_of_true ⟨_, rfl⟩ (fun h => h)
  | code c => cases c <;> exact iff_of_true ⟨_, rfl⟩ (fun h => h)
  | _ => exact iff_of_true ⟨_, rfl⟩ (fun h => h)

theorem exists_encode_list_iff {items : List Value} :
    (∃ j, (Value.list items).encode = .ok j) ↔ ∀ v ∈ items, ∃ j, v.encode = .ok j := by
  rw [← exists_forall₂_iff, encode]
  simp only [Conversion.except_map_ok_iff, encodeItems_ok_iff, exists_comm, exists_and_left,
    exists_eq', and_true]

theorem exists_encode_map_iff {entries : List (MapKey × Value)} :
    (∃ j, (Value.map entries).encode = .ok j) ↔ ∀ e ∈ entries, ∃ j, e.2.encode = .ok j := by
  have hentry (e : MapKey × Value) : (∃ j, e.2.encode = .ok j) ↔
      ∃ j : String × Json, j.1 = e.1.wire ∧ e.2.encode = .ok j.2 := exists_entry_iff.symm
  simp only [hentry]
  rw [← exists_forall₂_iff, encode]
  simp only [Conversion.except_map_ok_iff, encodeEntries_ok_iff, exists_comm, exists_and_left,
    exists_eq', and_true]

/-- A record can be written if its fields can and it is no reaction without an identity. -/
theorem exists_encode_record_iff {kind : RecordKind} {fields : List (String × Value)} :
    (∃ j, (Value.record kind fields).encode = .ok j) ↔
      lacksIdentity kind fields = false ∧ ∀ f ∈ fields, ∃ j, f.2.encode = .ok j := by
  have hfield (f : String × Value) : (∃ j, f.2.encode = .ok j) ↔
      ∃ j : String × Json, j.1 = f.1 ∧ f.2.encode = .ok j.2 := exists_entry_iff.symm
  -- fields that hold nothing are left out, but could be written as well
  have hkept : (∀ f ∈ fields, ∃ j, f.2.encode = .ok j) ↔
      ∀ f ∈ fields.filter fun f => !f.2.isNull, ∃ j, f.2.encode = .ok j := by
    refine ⟨fun h f hf => h f (List.mem_of_mem_filter hf), fun h f hf => ?_⟩
    by_cases hnull : f.2 = .null
    · exact ⟨.null, by rw [hnull]; rfl⟩
    · have hkeep : (!f.2.isNull) = true := by
        cases hv : f.2 <;> first | rfl | exact absurd hv hnull
      exact h f (List.mem_filter.2 ⟨hf, hkeep⟩)
  rw [hkept, encode]
  cases lacksIdentity kind fields with
  | true => simp
  | false =>
    simp only [hfield]
    rw [← exists_forall₂_iff]
    simp only [Bool.false_eq_true, if_false, true_and, Conversion.except_map_ok_iff,
      encodeFields_ok_iff, exists_comm, exists_and_left, exists_eq', and_true]

/-- A value can be written if and only if no part of it is unwritable. -/
theorem exists_encode_iff (v : Value) :
    (∃ j, v.encode = .ok j) ↔ ∀ w, Within w v → ¬w.IsUnwritable := by
  induction v using Value.induction with
  | leaf v hleaf =>
    rw [exists_encode_leaf_iff hleaf]
    refine ⟨fun h w hw => ?_, fun h => h v (.refl v)⟩
    rw [hw.eq_of_leaf hleaf]
    exact h
  | list items ih =>
    rw [exists_encode_list_iff]
    refine ⟨fun h w hw => ?_, fun h v hv => (ih v hv).2 fun w hw => h w (.item hv hw)⟩
    cases hw with
    | refl => exact fun h => h
    | item hv hw => exact (ih _ hv).1 (h _ hv) w hw
  | map entries ih =>
    rw [exists_encode_map_iff]
    refine ⟨fun h w hw => ?_, fun h e he => (ih e he).2 fun w hw => h w (.entry he hw)⟩
    cases hw with
    | refl => exact fun h => h
    | entry he hw => exact (ih _ he).1 (h _ he) w hw
  | record kind fields ih =>
    rw [exists_encode_record_iff]
    constructor
    · rintro ⟨hself, hfields⟩ w hw
      cases hw with
      | refl =>
        rw [IsUnwritable, hself]
        exact Bool.false_ne_true
      | field hf hw => exact (ih _ hf).1 (hfields _ hf) w hw
    · intro h
      refine ⟨?_, fun f hf => (ih f hf).2 fun w hw => h w (.field hf hw)⟩
      simpa [IsUnwritable] using h _ (.refl _)

/-! ## Reactions without an identity -/

variable {good : Ready → Prop}

theorem Fits.nodup_keys {kind : RecordKind} {fields : List (String × Value)}
    (h : Fits good (.record kind) (.record kind fields)) : (fields.map Prod.fst).Nodup := by
  cases h with
  | record hnames _ _ => exact Decoding.nodup_keys_of_names hnames

/-- Every field of a kind is in its records, with a value of its type. -/
theorem Fits.exists_lookup {kind : RecordKind} {fields : List (String × Value)}
    (h : Fits good (.record kind) (.record kind fields)) {f : Field} (hf : f ∈ kind.fields) :
    ∃ v, fields.lookup f.name = some v ∧ Fits good f.type v := by
  have hnodup := h.nodup_keys
  cases h with
  | record hnames h _ =>
    have hboth : List.Forall₂ (fun f e => e.1 = f.name ∧ Fits good f.type e.2) kind.fields fields :=
      List.forall₂_iff_zip.2 ⟨hnames.length_eq, fun hmem =>
        ⟨(List.forall₂_iff_zip.1 hnames).2 hmem, h _ hmem⟩⟩
    obtain ⟨⟨name, v⟩, he, rfl, hfits⟩ := exists_right_of_forall₂ hboth hf
    exact ⟨v, (lookup_eq_some_iff_mem hnodup).2 he, hfits⟩

/-- An emoji cannot be told from others if and only if it has neither an identifier nor a name. -/
theorem Fits.identity?_eq_none_iff {emoji : List (String × Value)}
    (h : Fits good (.record .emoji) (.record .emoji emoji)) :
    Emoji.identity? ⟨.emoji, emoji⟩ = none ↔ ("id", .null) ∈ emoji ∧ ("name", .null) ∈ emoji := by
  have hfields : RecordKind.emoji.fields = Catalog.emoji := rfl
  obtain ⟨x, hid, hx⟩ := h.exists_lookup (f := .optional "id" .id) (by simp [hfields, Catalog.emoji])
  obtain ⟨s, hname, hs⟩ := h.exists_lookup (f := .optional "name" .text)
    (by simp [hfields, Catalog.emoji])
  have hx : x = .null ∨ ∃ y, x = .id y := by
    cases hx with
    | nothing => exact .inl rfl
    | nullable hx =>
      cases hx with
      | id y => exact .inr ⟨y, rfl⟩
  have hs : s = .null ∨ ∃ y, s = .text y := by
    cases hs with
    | nothing => exact .inl rfl
    | nullable hs =>
      cases hs with
      | scalar hs => cases s <;> first | exact .inr ⟨_, rfl⟩ | exact hs.elim
  rw [← lookup_eq_some_iff_mem h.nodup_keys, ← lookup_eq_some_iff_mem h.nodup_keys]
  simp only [Field.optional] at hid hname
  simp only [Emoji.identity?, Record.get, hid, hname, Option.getD_some, Option.some.injEq]
  rcases hx with rfl | ⟨y, rfl⟩ <;> rcases hs with rfl | ⟨z, rfl⟩ <;> simp [id?, text?]

/-- A record is unwritable if and only if it is a reaction whose emoji has neither an identifier nor
a name. -/
theorem Fits.lacksIdentity_iff {kind : RecordKind} {fields : List (String × Value)}
    (h : Fits good (.record kind) (.record kind fields)) :
    lacksIdentity kind fields = true ↔ kind = .reaction ∧ ∃ emoji,
      ("emoji", Value.record .emoji emoji) ∈ fields ∧ ("id", .null) ∈ emoji ∧
        ("name", .null) ∈ emoji := by
  by_cases hkind : kind = .reaction
  · subst hkind
    have hfields : RecordKind.reaction.fields = Catalog.reaction := rfl
    obtain ⟨v, hlookup, hv⟩ := h.exists_lookup (f := .required "emoji" (.record .emoji))
      (by simp [hfields, Catalog.reaction])
    simp only [Field.required] at hlookup hv
    have hnodup := h.nodup_keys
    obtain ⟨emoji, rfl⟩ : ∃ emoji, v = .record .emoji emoji := by
      cases hv with
      | record _ _ _ => exact ⟨_, rfl⟩
    simp only [lacksIdentity, hlookup, true_and]
    rw [Option.isNone_iff_eq_none, hv.identity?_eq_none_iff]
    constructor
    · intro hnothing
      exact ⟨emoji, (lookup_eq_some_iff_mem hnodup).1 hlookup, hnothing⟩
    · rintro ⟨other, hmem, hnothing⟩
      rw [← lookup_eq_some_iff_mem hnodup, hlookup] at hmem
      cases hmem
      exact hnothing
  · refine iff_of_false ?_ fun h => hkind h.1
    unfold lacksIdentity
    split
    · exact absurd rfl hkind
    · exact Bool.false_ne_true

end Value

namespace Record

/-! ## Records -/

/-- In some reaction of the record, at any depth, the emoji has neither an identifier nor a name. -/
def HasNamelessReaction (r : Record) : Prop :=
  ∃ reaction emoji, Value.Within (.record .reaction reaction) r.toValue ∧
    ("emoji", Value.record .emoji emoji) ∈ reaction ∧ ("id", .null) ∈ emoji ∧
      ("name", .null) ∈ emoji

/-- Some flag set is in a value of any type of the record, at any depth of that value. -/
def HasLooseFlags (r : Record) : Prop :=
  ∃ p s, Value.Within (.any p) r.toValue ∧ p.Holds (.flags s)

/-- Why a record of its kind cannot be written. -/
theorem exists_encode_error_iff {good : Ready → Prop} {r : Record}
    (h : Value.Fits good (.record r.kind) r.toValue) : (∃ e, r.encode = .error e) ↔
      r.isTooDeep = true ∨ r.HasNamelessReaction ∨ r.HasLooseFlags := by
  have hparts : (∃ e, r.toValue.encode = .error e) ↔ r.HasNamelessReaction ∨ r.HasLooseFlags := by
    have hfails : (∃ e, r.toValue.encode = .error e) ↔ ¬∃ j, r.toValue.encode = .ok j := by
      cases r.toValue.encode <;> simp
    rw [hfails, Value.exists_encode_iff]
    simp only [not_forall, not_not, exists_prop]
    constructor
    · rintro ⟨w, hw, hunwritable⟩
      cases w with
      | record kind fields =>
        obtain ⟨rfl, emoji, hemoji⟩ := (h.of_within hw).lacksIdentity_iff.1 hunwritable
        exact .inl ⟨fields, emoji, hw, hemoji⟩
      | any p =>
        obtain ⟨s, hs⟩ := hunwritable
        exact .inr ⟨p, s, hw, hs⟩
      | _ => exact hunwritable.elim
    · rintro (⟨fields, emoji, hw, hemoji⟩ | ⟨p, s, hw, hs⟩)
      · exact ⟨_, hw, (h.of_within hw).lacksIdentity_iff.2 ⟨rfl, emoji, hemoji⟩⟩
      · exact ⟨_, hw, s, hs⟩
  rw [encode, ← hparts]
  cases r.isTooDeep <;> simp

/-- The text of a record fails where its JSON value does, however it is indented. -/
theorem exists_encodeText_error_iff (indent : Option Nat) (r : Record) :
    (∃ e, r.encodeText indent = .error e) ↔ ∃ e, r.encode = .error e := by
  rw [encodeText_eq]
  cases r.encode <;> simp [Except.map]

/-- A record with few levels is not too deep, whichever kinds count. -/
theorem isTooDeep_eq_false {n : Nat} {r : Record} (h : Value.Reaches n r.toValue)
    (hn : n ≤ Nesting.limit) : r.isTooDeep = false := by
  rw [isTooDeep, decide_eq_false (Nat.not_lt.2 ((h.levels_le _).trans hn)), Bool.false_and]

/-- A text is decoded as the JSON value that it spells, which is not deep. -/
theorem exists_decode_of_decodeText {kind : RecordKind} {text : String} {r : Record}
    (h : (decodeText kind text).outcome = .ok r) : ∃ v : Json,
      (decode .text kind (.ofJson v)).outcome = .ok r ∧
        (Payload.ofJson v).depth ≤ Json.depthLimit + 1 := by
  rw [decodeText] at h
  split at h
  · next v hread =>
    refine ⟨v, h, (Payload.depth_ofJson_le v).trans (Nat.succ_le_succ ?_)⟩
    have hreadable : v.isReadable Json.depthLimit = true := by
      have hagain := Json.readWithin_of_readWithin hread Json.depthLimit
      rw [← Json.read, hread] at hagain
      by_contra hunreadable
      rw [if_neg hunreadable] at hagain
      cases hagain
    exact Json.nesting_le_of_isReadable hreadable
  · cases h

/-- A decoded record cannot be written, as text with any indentation or as a JSON value, if and only
if it has too many levels, the emoji of some reaction in it has neither an identifier nor a name, or
a flag set is in a value of any type, alone or within lists and mappings there. Emoji elsewhere do
not matter. Nothing but the reactions does in records that come from text. In those from a mapping
the levels do as well, but only if the mapping is nearly as deep as there may be levels. Flag sets in
values of any type come only from payloads that hold flag sets already. -/
theorem encodeText_fails_iff (kind : RecordKind) (r : Record) :
    (∀ text, (decodeText kind text).outcome = .ok r →
      (∀ indent, (∃ e, r.encodeText indent = .error e) ↔ r.HasNamelessReaction) ∧
      ((∃ e, r.encode = .error e) ↔ r.HasNamelessReaction)) ∧
    (∀ v, (decodeMapping kind v).outcome = .ok r →
      (∀ indent, (∃ e, r.encodeText indent = .error e) ↔
        r.isTooDeep = true ∨ r.HasNamelessReaction) ∧
      ((∃ e, r.encode = .error e) ↔ r.isTooDeep = true ∨ r.HasNamelessReaction) ∧
      ((Payload.ofJson v.settle).depth + 2 ≤ Nesting.limit → r.isTooDeep = false)) ∧
    ∀ form p, (decode form kind p).outcome = .ok r →
      (∀ indent, (∃ e, r.encodeText indent = .error e) ↔
        r.isTooDeep = true ∨ r.HasNamelessReaction ∨ r.HasLooseFlags) ∧
      ((∃ e, r.encode = .error e) ↔
        r.isTooDeep = true ∨ r.HasNamelessReaction ∨ r.HasLooseFlags) := by
  have hall {form : PayloadForm} {p : Payload} (h : (decode form kind p).outcome = .ok r) :
      (∃ e, r.encode = .error e) ↔
        r.isTooDeep = true ∨ r.HasNamelessReaction ∨ r.HasLooseFlags := by
    obtain ⟨-, rfl⟩ := Decoding.decode_ok h
    exact exists_encode_error_iff (Decoding.fits_of_decode Ready.closed_true p.allReady_true h)
  have hloose {n : Nat} (h : Value.Reaches n r.toValue) : ¬r.HasLooseFlags :=
    fun ⟨_, _, hp, hs⟩ => (h.isPlain hp).of_holds hs
  refine ⟨fun text h => ?_, fun v h => ?_, fun form p h => ?_⟩
  · obtain ⟨v, hdecode, hdepth⟩ := exists_decode_of_decodeText h
    have hreaches := Decoding.reaches_of_decode (Payload.isPlain_ofJson v) hdecode
    have hlimits : Json.depthLimit + 1 + 2 ≤ Nesting.limit := by decide
    have hshallow := isTooDeep_eq_false hreaches ((Nat.add_le_add_right hdepth 2).trans hlimits)
    have hfails := hall hdecode
    simp only [hshallow, hloose hreaches, Bool.false_eq_true, false_or, or_false] at hfails
    exact ⟨fun indent => (exists_encodeText_error_iff indent r).trans hfails, hfails⟩
  · have hreaches := Decoding.reaches_of_decode (Payload.isPlain_ofJson v.settle) h
    have hfails := hall h
    simp only [hloose hreaches, or_false] at hfails
    exact ⟨fun indent => (exists_encodeText_error_iff indent r).trans hfails, hfails,
      isTooDeep_eq_false hreaches⟩
  · exact ⟨fun indent => (exists_encodeText_error_iff indent r).trans (hall h), hall h⟩

/-- What is decoded, with whether it can be written. -/
theorem exists_of_isSome_encode {d : Decoding Record} {written : Bool}
    (h : (d.outcome.toOption.map fun r => r.encode.toOption.isSome) = some written) :
    ∃ r, d.outcome = .ok r ∧ r.encode.toOption.isSome = written := by
  obtain ⟨warnings, outcome⟩ := d
  cases outcome with
  | ok r => exact ⟨r, rfl, Option.some.inj h⟩
  | error _ => cases h

/-- A message in reply to one with a reaction to nothing cannot be written, and one with a button
that shows an emoji without an identity can. -/
theorem encodeText_fails_iff_of_messages :
    let author := Json.object [("id", .string "3"), ("username", .string "u")]
    let message (entry : String × Json) := Json.object [("id", .string "1"),
      ("channel_id", .string "2"), ("author", author),
      ("timestamp", .string "2020-01-01T00:00:00Z"), entry]
    let reaction := Json.object [("emoji", .object [])]
    let button := Json.object [("type", .integer 2), ("emoji", .object [])]
    let reply := message ("referenced_message", message ("reactions", .array [reaction]))
    let menu := message ("components", .array [button])
    (∃ r, (decodeText .message (Json.write none reply)).outcome = .ok r ∧ r.HasNamelessReaction ∧
      ∀ indent, ∃ e, r.encodeText indent = .error e) ∧
    (∃ r, (decodeMapping .message menu).outcome = .ok r ∧
      r.isTooDeep = false ∧ ¬r.HasNamelessReaction ∧
      ∀ indent, ∃ text, r.encodeText indent = .ok text) := by
  intro author message reaction button reply menu
  constructor
  · have hfails : ((decodeText .message (Json.write none reply)).outcome.toOption.map
        fun r => r.encode.toOption.isSome) = some false := by decide +kernel
    obtain ⟨r, hr, hencode⟩ := exists_of_isSome_encode hfails
    obtain ⟨htexts, hvalue⟩ := (encodeText_fails_iff .message r).1 _ hr
    have hnameless : r.HasNamelessReaction := by
      refine hvalue.1 ?_
      cases hj : r.encode with
      | ok j => simp [hj, Except.toOption] at hencode
      | error e => exact ⟨e, rfl⟩
    exact ⟨r, hr, hnameless, fun indent => (htexts indent).2 hnameless⟩
  · have hwritten : ((decodeMapping .message menu).outcome.toOption.map
        fun r => r.encode.toOption.isSome) = some true := by decide +kernel
    obtain ⟨r, hr, hencode⟩ := exists_of_isSome_encode hwritten
    obtain ⟨-, hvalue, hshallow⟩ := (encodeText_fails_iff .message r).2.1 _ hr
    obtain ⟨j, hj⟩ : ∃ j, r.encode = .ok j := by
      cases hj : r.encode with
      | ok j => exact ⟨j, rfl⟩
      | error e => simp [hj, Except.toOption] at hencode
    refine ⟨r, hr, hshallow (by decide +kernel), fun hnameless => ?_, fun indent => ?_⟩
    · obtain ⟨e, he⟩ := hvalue.2 (.inr hnameless)
      rw [hj] at he
      cases he
    · exact ⟨Json.write indent j, by rw [encodeText_eq, hj]; rfl⟩

set_option maxRecDepth 20000 in
/-- A mapping may be deeper than any record that can be written. This one has no reaction. -/
theorem encodeText_fails_deep :
    let mapping := Json.object [("key", .string "x"), ("new_value", .wrap 255 (.integer 0))]
    ∃ r, (decodeMapping .auditLogChange mapping).outcome = .ok r ∧ ¬r.HasNamelessReaction ∧
      (∀ indent, r.encodeText indent = .error .tooDeep) ∧ r.encode = .error .tooDeep := by
  intro mapping
  let r : Record := ⟨.auditLogChange, [("key", .text "x"),
    ("new_value", .any (.ofJson (.wrap 255 (.integer 0)))), ("old_value", .null)]⟩
  have hdeep : r.isTooDeep = true := by decide +kernel
  have hencode : r.encode = .error .tooDeep := if_pos hdeep
  have hleaves : ∀ f ∈ r.fields, f.2.hasParts = false := by decide
  refine ⟨r, rfl, ?_, fun indent => ?_, hencode⟩
  · rintro ⟨reaction, emoji, hwithin, -⟩
    cases hwithin with
    | field hf hwithin =>
      have hleaf := hleaves _ hf
      rw [← hwithin.eq_of_leaf hleaf] at hleaf
      cases hleaf
  · rw [encodeText_eq, hencode]
    rfl

end Record
end ChatRecords
