import ChatRecords.Proofs.Json.Written
import ChatRecords.Proofs.Record.Writable
import Mathlib.Data.Set.List

/-!
# Choices of an option

The record of a choice has a name, names in other languages and the value itself: a text, an integer
or a real number. The JSON value alone tells which of the three it is, on the way in and on the way
out, so the record is decoded from its own text again. The exception are numbers that are not
finite, which literals beyond the range of doubles are read as: they have no text, and `null` in
their place is no choice value.

## Main definitions

* `OptionChoice`: what the record of a choice holds, with `OptionChoice.record` and its entries.

## Main results

* `Conversion.choice_ofJson_iff`: the JSON values that are read as a choice value.
* `OptionChoice.exists_of_decode`: what the records of choices are decoded from.
* `OptionChoice.decode_entriesWith`: what the entries of a choice are decoded as, with any JSON
  value in the place of the choice value.
* `OptionChoice.decodeText_again`: what a decoded choice is written as, and what that is decoded as.
-/

namespace ChatRecords
namespace Choice

/-- Whether a choice value is anything but an infinite number or "not a number". -/
def isFinite : Choice → Bool
  | .number x => x.isFinite
  | _ => true

theorem encode_eq (c : Choice) : (Value.choice c).encode = .ok c.wire := by cases c <;> rfl

theorem shown_wire (c : Choice) : c.wire.shown = if c.isFinite then c.wire else .null := by
  cases c <;> rfl

theorem isReadable_wire {c : Choice} (h : c.InRange) (depth : Nat) :
    c.wire.isReadable depth = true := by
  cases c with
  | integer n =>
    simpa [wire, Json.isReadable, Json.nesting, Json.leaves, Json.isShort] using
      length_toDigits_of_fitsInteger h
  | _ => simp [wire, Json.isReadable, Json.nesting, Json.leaves, Json.isShort]

end Choice

/-- A choice value is read from the JSON value that it is written as, and from no other. -/
theorem Conversion.choice_ofJson_iff {j : Json} {c : Choice} :
    choice (.ofJson j) = .ok c ↔ c.InRange ∧ j = c.wire := by
  constructor
  · intro h
    have hrange : c.InRange := (choice_ok h).resolve_left (by cases j <;> simp [Payload.ofJson])
    refine ⟨hrange, ?_⟩
    cases j with
    | integer n =>
      simp only [Payload.ofJson, choice, Payload.integer?] at h
      split at h
      · obtain rfl := Except.ok.inj h
        rfl
      · cases h
    | string s | real x =>
      obtain rfl := Except.ok.inj h
      rfl
    | _ => cases h
  · rintro ⟨hrange, rfl⟩
    exact choice_wire hrange c.encode_eq

/-- One of the values offered for an option of a command. -/
structure OptionChoice where
  name : String
  /-- The names in other languages, by language. -/
  localizations : Option (List (String × String))
  value : Choice

namespace OptionChoice

open Decoding (field recordField FieldHolds)
open Value (Fits)

/-- The names in other languages as the record holds them. -/
def localizedNames : Option (List (String × String)) → Value
  | none => .null
  | some names => .map (names.map fun e => (.text e.1, .text e.2))

def record (x : OptionChoice) : Record :=
  ⟨.applicationCommandOptionChoice, [("name", .text x.name),
    ("name_localizations", localizedNames x.localizations), ("value", .choice x.value)]⟩

/-- The entries that a choice is written as, with a JSON value in the place of its value. -/
def entriesWith (x : OptionChoice) (j : Json) : List (String × Json) :=
  match x.localizations with
  | none => [("name", .string x.name), ("value", j)]
  | some names => [("name", .string x.name),
    ("name_localizations", .object (names.map fun e => (e.1, .string e.2))), ("value", j)]

/-- The entries that a choice is written as. -/
def entries (x : OptionChoice) : List (String × Json) := x.entriesWith x.value.wire

/-- Whether a choice is one that decoding can give: there is one name for each language, and its
value is in range. -/
structure IsSound (x : OptionChoice) : Prop where
  distinct : ∀ names ∈ x.localizations, (names.map Prod.fst).Nodup
  inRange : x.value.InRange

variable {x : OptionChoice}

/-! ## Decoding -/

theorem fields_eq : RecordKind.applicationCommandOptionChoice.fields =
    [.required "name" .text, .optional "name_localizations" (.map .text .text),
      .required "value" .choice] := rfl

section

variable {decode : RecordKind → Payload → Decoding Value} {name : String} {v : Value}

theorem field_text_ok {j : Json} (h : (field .text decode name .text (.ofJson j)).outcome = .ok v) :
    ∃ s, j = .string s ∧ v = .text s := by
  rw [field, Decoding.ofConversion_ok_iff] at h
  cases j with
  | string s => exact ⟨s, rfl, (Except.ok.inj h).symm⟩
  | _ => cases h

theorem field_choice_ok {j : Json}
    (h : (field .text decode name .choice (.ofJson j)).outcome = .ok v) :
    ∃ c : Choice, c.InRange ∧ j = c.wire ∧ v = .choice c := by
  rw [field, Decoding.ofConversion_ok_iff] at h
  obtain ⟨c, hc, rfl⟩ := Conversion.except_map_ok_iff.1 h
  obtain ⟨hrange, rfl⟩ := Conversion.choice_ofJson_iff.1 hc
  exact ⟨c, hrange, rfl, rfl⟩

/-- What a required field holds is in the payload. -/
theorem exists_of_required {es : List (String × Json)} {t : FieldType}
    (h : FieldHolds .text decode (Payload.ofEntries es) (.required name t) v) :
    ∃ j, Entries.get? name es = some j ∧
      (field .text decode name t (.ofJson j)).outcome = .ok v := by
  rcases h with ⟨q, hget, hv⟩ | ⟨-, ⟨⟩⟩
  rw [Payload.get?_ofEntries] at hget
  obtain ⟨j, hj, rfl⟩ := Option.map_eq_some_iff.1 hget
  exact ⟨j, hj, hv⟩

end

/-- A value that may be a map of texts is that of some names in other languages. -/
theorem exists_localizedNames {good : Ready → Prop} {v : Value}
    (h : Fits good (.nullable (.map .text .text)) v) :
    ∃ localizations : Option (List (String × String)),
      (∀ names ∈ localizations, (names.map Prod.fst).Nodup) ∧ v = localizedNames localizations := by
  cases h with
  | nothing => exact ⟨none, by simp, rfl⟩
  | nullable h =>
    cases h with
    | @map _ _ entries hnodup hkeys hvalues =>
      have htexts : ∀ e ∈ entries, e ∈ Set.range fun n : String × String =>
          (MapKey.text n.1, Value.text n.2) := by
        rintro ⟨k, w⟩ he
        obtain ⟨s, rfl⟩ : ∃ s, k = .text s := by
          have hkey := hkeys _ he
          cases k <;> first | exact ⟨_, rfl⟩ | exact hkey.elim
        obtain ⟨s', rfl⟩ : ∃ s', w = .text s' := by
          cases hvalues _ he with
          | scalar hw => cases w <;> first | exact ⟨_, rfl⟩ | exact hw.elim
        exact ⟨(s, s'), rfl⟩
      obtain ⟨names, rfl⟩ := (Set.range_list_map _).ge htexts
      refine ⟨some names, ?_, rfl⟩
      rintro _ ⟨⟩
      rw [List.map_map] at hnodup
      exact List.Nodup.of_map MapKey.text (by rwa [List.map_map])

/-- What is decoded as a choice is an object whose entry for the value is the JSON of the value, and
what it is decoded as is a sound choice. -/
theorem exists_of_decode {j : Json} {r : Record}
    (h : (Record.decode .text .applicationCommandOptionChoice (.ofJson j)).outcome = .ok r) :
    ∃ es, ∃ x : OptionChoice, j = .object es ∧ Entries.get? "name" es = some (.string x.name) ∧
      Entries.get? "value" es = some x.value.wire ∧ x.IsSound ∧ r = x.record := by
  obtain ⟨hrecord, hkind⟩ := Decoding.decode_ok h
  obtain ⟨_, _, es', fields, -, -, hentries, hr, hholds⟩ := Decoding.record_ok hrecord
  obtain ⟨es, rfl, rfl⟩ : ∃ es, j = .object es ∧ es' = Payload.ofEntries es := by
    cases j with
    | object es => exact ⟨es, rfl, (Option.some.inj hentries).symm⟩
    | _ => cases hentries
  rw [fields_eq] at hholds
  obtain _ | @⟨_, ⟨_, v⟩, _, _, ⟨rfl, hname⟩, _ |
    @⟨_, ⟨_, v'⟩, _, _, ⟨rfl, hnames⟩, _ | @⟨_, ⟨_, v''⟩, _, _, ⟨rfl, hvalue⟩, ⟨⟩⟩⟩⟩ := hholds
  obtain ⟨_, hgetname, hname⟩ := exists_of_required hname
  obtain ⟨name, rfl, rfl⟩ := field_text_ok hname
  obtain ⟨_, hgetvalue, hvalue⟩ := exists_of_required hvalue
  obtain ⟨c, hrange, rfl, rfl⟩ := field_choice_ok hvalue
  obtain ⟨localizations, hdistinct, rfl⟩ : ∃ localizations : Option (List (String × String)),
      (∀ names ∈ localizations, (names.map Prod.fst).Nodup) ∧
        v' = localizedNames localizations := by
    rcases hnames with ⟨q, hget, hv⟩ | ⟨-, hv⟩
    · rw [Payload.get?_ofEntries] at hget
      obtain ⟨j, -, rfl⟩ := Option.map_eq_some_iff.1 hget
      exact exists_localizedNames (Decoding.fits_of_field Ready.closed_true
        (fun hp h => Decoding.fits_of_record Ready.closed_true hp h) (Payload.allReady_true _) hv)
    · exact ⟨none, by simp, (Option.some.inj hv).symm⟩
  refine ⟨es, ⟨name, localizations, c⟩, rfl, hgetname, hgetvalue, ⟨hdistinct, hrange⟩, ?_⟩
  obtain ⟨kind, fields⟩ := r
  obtain ⟨rfl, rfl⟩ := Value.record.inj hr
  cases localizations <;> rfl

/-- The names in other languages are decoded from what they are written as. -/
theorem field_localizedNames (decode : RecordKind → Payload → Decoding Value) (name : String)
    {names : List (String × String)} (hdistinct : (names.map Prod.fst).Nodup) :
    field .text decode name (.nullable (.map .text .text))
        (.ofJson (.object (names.map fun e => (e.1, .string e.2)))) =
      .ok (localizedNames (some names)) := by
  let entries := names.map fun e => (MapKey.text e.1, Value.text e.2)
  have hkeys : (entries.map Prod.fst).Nodup := by
    have hall := hdistinct.map (f := MapKey.text) fun _ _ => MapKey.text.inj
    rw [List.map_map] at hall ⊢
    exact hall
  have hentries : List.Forall₂ (fun j e => j.1 = e.1.wire ∧ KeyType.text.Holds e.1 ∧
      field .text decode name .text (.ofJson j.2) = ⟨e.2.warnings name, .ok e.2⟩)
      (names.map fun e => (e.1, Json.string e.2)) entries :=
    forall₂_map_map fun e _ => ⟨rfl, trivial, rfl⟩
  have hquiet : (Value.map entries).warnings name = [] := by
    rw [Value.warnings_map, List.flatMap_map]
    exact List.flatMap_eq_nil_iff.2 fun _ _ => rfl
  rw [Decoding.field_nullable_of_ne (by simp [Payload.ofJson]),
    Decoding.field_map_wire hkeys hentries, hquiet]
  rfl

theorem get?_entriesWith (x : OptionChoice) (j : Json) :
    Entries.get? "name" (x.entriesWith j) = some (.string x.name) ∧
    Entries.get? "name_localizations" (x.entriesWith j) =
      x.localizations.map (fun names => .object (names.map fun e => (e.1, .string e.2))) ∧
    Entries.get? "value" (x.entriesWith j) = some j := by
  unfold entriesWith
  cases x.localizations <;> exact ⟨rfl, rfl, rfl⟩

section

variable (decode : RecordKind → Payload → Decoding Value) (j : Json)

theorem recordField_name (x : OptionChoice) :
    recordField .text decode (Payload.ofEntries (x.entriesWith j)) (.required "name" .text) =
      .ok ("name", .text x.name) := by
  rw [recordField, Field.required, Payload.get?_ofEntries, (get?_entriesWith x j).1]
  rfl

theorem recordField_localizedNames
    (hdistinct : ∀ names ∈ x.localizations, (names.map Prod.fst).Nodup) :
    recordField .text decode (Payload.ofEntries (x.entriesWith j))
      (.optional "name_localizations" (.map .text .text)) =
      .ok ("name_localizations", localizedNames x.localizations) := by
  rw [recordField, Field.optional, Payload.get?_ofEntries, (get?_entriesWith x j).2.1]
  cases hlocalizations : x.localizations with
  | none => rfl
  | some names =>
    dsimp only [Option.map_some]
    rw [field_localizedNames decode _ (hdistinct names hlocalizations)]
    rfl

theorem recordField_value (x : OptionChoice) :
    recordField .text decode (Payload.ofEntries (x.entriesWith j)) (.required "value" .choice) =
      ⟨[], match Conversion.choice (.ofJson j) with
        | .ok c => .ok ("value", .choice c)
        | .error fault => .error ⟨fault, [.key "value"]⟩⟩ := by
  rw [recordField, Field.required, Payload.get?_ofEntries, (get?_entriesWith x j).2.2]
  dsimp only [Option.map_some]
  rw [field]
  cases Conversion.choice (.ofJson j) <;> rfl

end

/-- The entries of a choice are decoded as the choice with whatever value the JSON value in the
place of its value is read as, and refused if that is none. -/
theorem decode_entriesWith (hdistinct : ∀ names ∈ x.localizations, (names.map Prod.fst).Nodup)
    (j : Json) :
    Record.decode .text .applicationCommandOptionChoice (.ofJson (.object (x.entriesWith j))) =
      ⟨[], match Conversion.choice (.ofJson j) with
        | .ok c => .ok (record { x with value := c })
        | .error fault => .error ⟨fault, [.key "value"]⟩⟩ := by
  rw [Record.decode, Decoding.counted, if_neg (by simp), Payload.ofJson, Payload.depth,
    Decoding.record, Nesting.enter_nil, Decoding.recordEntries?, fields_eq]
  simp only [List.map, recordField_name, recordField_localizedNames _ _ hdistinct,
    recordField_value]
  cases Conversion.choice (.ofJson j) with
  | ok c => cases x.localizations <;> rfl
  | error fault => rfl

/-! ## Encoding -/

theorem encode_localizedNames (names : List (String × String)) :
    (localizedNames (some names)).encode =
      .ok (.object (names.map fun e => (e.1, .string e.2))) := by
  have hentries : Value.encodeEntries (names.map fun e => (.text e.1, .text e.2)) =
      .ok (names.map fun e => (e.1, .string e.2)) :=
    Value.encodeEntries_ok_iff.2 (forall₂_map_map fun e _ => ⟨rfl, rfl⟩)
  rw [localizedNames, Value.encode, hentries]
  rfl

theorem reaches_record (x : OptionChoice) : Value.Reaches 3 x.record.toValue := by
  refine .record ?_
  simp only [record, List.forall_mem_cons]
  refine ⟨.simple rfl, ?_, .simple rfl, by simp⟩
  cases x.localizations with
  | none => exact .nothing _
  | some names =>
    refine .map ?_
    rw [List.forall_mem_map]
    exact fun _ _ => .simple rfl

/-- A choice is written as its entries. -/
theorem encode_record (x : OptionChoice) : x.record.encode = .ok (.object x.entries) := by
  have hfields : Value.encodeFields x.record.fields = .ok x.entries := by
    refine Value.encodeFields_ok_iff.2 ?_
    rw [record, entries, entriesWith]
    cases x.localizations with
    | none => exact .cons ⟨rfl, rfl⟩ (.cons ⟨rfl, x.value.encode_eq⟩ .nil)
    | some names =>
      exact .cons ⟨rfl, rfl⟩ (.cons ⟨rfl, encode_localizedNames names⟩
        (.cons ⟨rfl, x.value.encode_eq⟩ .nil))
  rw [Record.encode, Record.isTooDeep_eq_false x.reaches_record (by decide), if_neg (by simp),
    Record.toValue, Value.encode, hfields]
  rfl

/-- What is shown of the entries of a choice is what is shown of its value. -/
theorem shown_entriesWith (x : OptionChoice) (j : Json) :
    (Json.object (x.entriesWith j)).shown = .object (x.entriesWith j.shown) := by
  have hnames (names : List (String × String)) :
      Json.shownEntries (names.map fun e => (e.1, .string e.2)) =
        names.map fun e => (e.1, .string e.2) := by
    rw [Json.shownEntries_eq, List.map_map]
    rfl
  unfold entriesWith
  cases x.localizations with
  | none => rfl
  | some names => simp only [Json.shown, Json.shownEntries, hnames]

theorem isReadable_entriesWith (x : OptionChoice) {j : Json}
    (hj : ∀ depth, j.isReadable depth = true) :
    (Json.object (x.entriesWith j)).isReadable Json.depthLimit = true := by
  have htext (s : String) (depth : Nat) : (Json.string s).isReadable depth = true := by
    simp [Json.isReadable, Json.nesting, Json.leaves, Json.isShort]
  have hnames (names : List (String × String)) :
      (Json.object (names.map fun e => (e.1, .string e.2))).isReadable
        (Json.depthLimit - 1) = true := by
    cases names with
    | nil => rfl
    | cons e rest =>
      rw [List.map_cons, Json.isReadable_object]
      simp [htext, Json.depthLimit]
  unfold entriesWith
  cases x.localizations with
  | none =>
    rw [Json.isReadable_object]
    simp [htext, hj, Json.depthLimit]
  | some names =>
    rw [Json.isReadable_object]
    simp [htext, hj, hnames]
    decide

/-- The text of a choice is read as its entries, with nothing in the place of a number that is not
finite. -/
theorem read_write_entries (hrange : x.value.InRange) (indent : Option Nat) :
    Json.read (Json.write indent (.object x.entries)) =
      some (.object (x.entriesWith (if x.value.isFinite then x.value.wire else .null))) := by
  rw [Json.read, Json.readWithin_write_shown, entries,
    if_pos (x.isReadable_entriesWith (Choice.isReadable_wire hrange)), shown_entriesWith,
    Choice.shown_wire]

/-! ## Decoding what was encoded -/

/-- A text that is decoded as a choice is that of an object with the name of the choice and with the
JSON of its value, so a text gives a text, an integer of 64 bits an integer and a real a real. The
choice has a text again, compact or indented, with the same name and value. Decoding it gives the
same record, unless its value is a number that is not finite: that is written as `null`, which is
refused. -/
theorem decodeText_again {text : String} {r : Record}
    (h : (Record.decodeText .applicationCommandOptionChoice text).outcome = .ok r) :
    ∃ es, ∃ x : OptionChoice, Json.read text = some (.object es) ∧
      Entries.get? "name" es = some (.string x.name) ∧
      Entries.get? "value" es = some x.value.wire ∧ x.value.InRange ∧ r = x.record ∧
      ∀ indent, ∃ again, r.encodeText indent = .ok again ∧
        (x.value.isFinite = true → Json.read again = some (.object x.entries) ∧
          Record.decodeText .applicationCommandOptionChoice again = ⟨[], .ok r⟩) ∧
        (x.value.isFinite = false →
          Record.decodeText .applicationCommandOptionChoice again =
            ⟨[], .error ⟨.malformedChoice .null, [.key "value"]⟩⟩) := by
  obtain ⟨v, hread, hdecode⟩ : ∃ v, Json.read text = some v ∧
      (Record.decode .text .applicationCommandOptionChoice (.ofJson v)).outcome = .ok r := by
    rw [Record.decodeText] at h
    split at h
    · next v hread => exact ⟨v, hread, h⟩
    · cases h
  obtain ⟨es, x, rfl, hname, hvalue, hsound, rfl⟩ := exists_of_decode hdecode
  refine ⟨es, x, hread, hname, hvalue, hsound.inRange, rfl, fun indent => ?_⟩
  have hwritten := read_write_entries hsound.inRange indent
  refine ⟨Json.write indent (.object x.entries), ?_, fun hfinite => ?_, fun hinfinite => ?_⟩
  · rw [Record.encodeText_eq, encode_record]
    rfl
  · rw [hfinite, if_pos rfl] at hwritten
    refine ⟨hwritten, ?_⟩
    rw [Record.decodeText, hwritten]
    dsimp only
    rw [decode_entriesWith hsound.distinct, Conversion.choice_ofJson_iff.2 ⟨hsound.inRange, rfl⟩]
  · rw [hinfinite, if_neg Bool.false_ne_true] at hwritten
    rw [Record.decodeText, hwritten]
    dsimp only
    rw [decode_entriesWith hsound.distinct]
    rfl

/-- What is decoded, with the text that it is written as. -/
theorem exists_of_encodeText {d : Decoding Record} {text : String}
    (h : (d.outcome.toOption.bind fun r => (r.encodeText none).toOption) = some text) :
    ∃ r, d.outcome = .ok r ∧ r.encodeText none = .ok text := by
  obtain ⟨warnings, outcome⟩ := d
  cases outcome with
  | error _ => cases h
  | ok r =>
    refine ⟨r, rfl, ?_⟩
    cases hencode : r.encodeText none with
    | error e => simp [Except.toOption, hencode] at h
    | ok again => simpa [Except.toOption, hencode] using h

/-- A whole number that is written as a real one stays a real number. -/
theorem decodeText_again_of_real :
    let text := "\x7b\"value\":3e0,\"name\":\"n\"\x7d"
    let again := "\x7b\"name\":\"n\",\"value\":3.0\x7d"
    ∃ r, (Record.decodeText .applicationCommandOptionChoice text).outcome = .ok r ∧
      r.encodeText none = .ok again ∧
      Record.decodeText .applicationCommandOptionChoice again = ⟨[], .ok r⟩ := by
  intro text again
  have hwritten : ((Record.decodeText .applicationCommandOptionChoice text).outcome.toOption.bind
      fun r => (r.encodeText none).toOption) = some again := by decide +kernel
  have hok : (Record.decodeText .applicationCommandOptionChoice again).outcome.isOk = true := by
    decide +kernel
  obtain ⟨r, hdecode, hencode⟩ := exists_of_encodeText hwritten
  obtain ⟨_, x, -, -, -, -, -, hagain⟩ := decodeText_again hdecode
  obtain ⟨_, hencode', hfinite, hinfinite⟩ := hagain none
  obtain rfl := Except.ok.inj (hencode'.symm.trans hencode)
  refine ⟨r, hdecode, hencode, ?_⟩
  cases hvalue : x.value.isFinite with
  | true => exact (hfinite hvalue).2
  | false =>
    rw [hinfinite hvalue] at hok
    cases hok

/-- A literal beyond the range of doubles is read as an infinite number, so the record that it
gives has a text that is no longer decoded. -/
theorem decodeText_again_failed :
    let text := "\x7b\"name\":\"n\",\"value\":1e400\x7d"
    ∃ r again, (Record.decodeText .applicationCommandOptionChoice text).outcome = .ok r ∧
      r.encodeText none = .ok again ∧
      (Record.decodeText .applicationCommandOptionChoice again).outcome =
        .error ⟨.malformedChoice .null, [.key "value"]⟩ := by
  intro text
  let shown := Json.object [("name", .string "n"), ("value", .null)]
  have hwritten : ((Record.decodeText .applicationCommandOptionChoice text).outcome.toOption.bind
      fun r => (r.encodeText none).toOption) = some (Json.write none shown) := by decide +kernel
  obtain ⟨r, hdecode, hencode⟩ := exists_of_encodeText hwritten
  refine ⟨r, _, hdecode, hencode, ?_⟩
  rw [Record.decodeText, Json.read, Json.readWithin_write_shown, if_pos (by decide +kernel)]
  rfl

end OptionChoice
end ChatRecords
