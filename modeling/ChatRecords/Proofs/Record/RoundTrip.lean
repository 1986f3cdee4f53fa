import ChatRecords.Proofs.Record.Extent
import ChatRecords.Proofs.Record.Rereading
import ChatRecords.Proofs.Record.TextMode

/-!
# Records and their JSON text

The JSON value of a decoded record is decoded as the record itself: every value is written in one
form, and each lenient conversion takes that form for the value. The text differs from the JSON
value only in that it may lie beyond the limits of the reader.

## Main definitions

* `Value.warnings`, `Record.warnings`: the flag sets with unknown bits, as warnings.
* `Record.Warns`: a warning is about a flag set of a record that keeps unknown bits.

## Main results

* `Decoding.field_wire`: the JSON value of a value is decoded as the value.
* `Record.decodeText_encodeText`: the text of a decoded record is decoded as the record.
-/

namespace ChatRecords

/-- The warning that a flag set has unknown bits, if it has any. -/
def FlagSet.warnings (name : String) (s : FlagSet) : List LossyFlags :=
  if s.unknown = 0 then [] else [⟨s.flagClass.name, s.unknown, some name⟩]

namespace Value

mutual

/-- The warnings that decoding a value again gives: those of all its flag sets, each with the name
of the field that holds it. -/
def warnings (name : String) : Value → List LossyFlags
  | .flags s => s.warnings name
  | .list items => warningsOfItems name items
  | .map entries => warningsOfEntries name entries
  | .record _ fields => warningsOfFields fields
  | _ => []

def warningsOfItems (name : String) : List Value → List LossyFlags
  | [] => []
  | v :: rest => warnings name v ++ warningsOfItems name rest

/-- The warnings of the values of entries. -/
def warningsOfEntries (name : String) : List (MapKey × Value) → List LossyFlags
  | [] => []
  | (_, v) :: rest => warnings name v ++ warningsOfEntries name rest

def warningsOfFields : List (String × Value) → List LossyFlags
  | [] => []
  | (name, v) :: rest => warnings name v ++ warningsOfFields rest

end

theorem warnings_of_holds {t : ScalarType} {v : Value} (h : t.Holds v) (name : String) :
    v.warnings name = [] := by
  obtain ⟨hparts, hflags, -⟩ := hasParts_of_holds h
  cases v with
  | list _ | map _ | record _ _ => simp [hasParts] at hparts
  | flags _ => simp [ownFlags] at hflags
  | _ => rfl

theorem warnings_list (name : String) (items : List Value) :
    (Value.list items).warnings name = items.flatMap (warnings name) := by
  rw [warnings]
  induction items with
  | nil => rfl
  | cons v rest ih => rw [warningsOfItems, ih, List.flatMap_cons]

theorem warnings_map (name : String) (entries : List (MapKey × Value)) :
    (Value.map entries).warnings name = entries.flatMap fun e => e.2.warnings name := by
  rw [warnings]
  induction entries with
  | nil => rfl
  | cons e rest ih =>
    obtain ⟨k, v⟩ := e
    rw [warningsOfEntries, ih, List.flatMap_cons]

theorem warnings_record (name : String) (kind : RecordKind) (fields : List (String × Value)) :
    (Value.record kind fields).warnings name = fields.flatMap fun f => f.2.warnings f.1 := by
  rw [warnings]
  induction fields with
  | nil => rfl
  | cons f rest ih =>
    obtain ⟨k, v⟩ := f
    rw [warningsOfFields, ih, List.flatMap_cons]

/-- What is read back gives the warnings that the value gives. -/
theorem warnings_reread (v : Value) (name : String) : v.reread.warnings name = v.warnings name := by
  induction v using Value.induction generalizing name with
  | leaf v hleaf => cases v <;> first | rfl | cases hleaf
  | list items ih =>
    rw [reread, warnings_list, warnings_list, rereadItems_eq, List.flatMap_map]
    exact List.flatMap_congr fun v hv => ih v hv name
  | map entries ih =>
    rw [reread, warnings_map, warnings_map, rereadEntries_eq, List.flatMap_map]
    exact List.flatMap_congr fun e he => ih e he name
  | record kind fields ih =>
    rw [reread, warnings_record, warnings_record, rereadFields_eq, List.flatMap_map]
    exact List.flatMap_congr fun f hf => ih f hf f.1

end Value

/-- The warnings that decoding a record again gives. -/
def Record.warnings (r : Record) : List LossyFlags := Value.warningsOfFields r.fields

/-- A warning is about a flag set with unknown bits, in a field of a record within another. The
kind of the inner record keeps unknown bits. -/
def Record.Warns (r : Record) (w : LossyFlags) : Prop :=
  ∃ kind fields name s, Value.Within (.record kind fields) r.toValue ∧
    kind.keepsUnknownBits = true ∧ (name, Value.flags s) ∈ fields ∧
    s.unknown ≠ 0 ∧ w = ⟨s.flagClass.name, s.unknown, some name⟩

namespace Value

open Decoding (dropUnknownBits)

variable {good : Ready → Prop}

/-- A warning of a value is one of a record within it, or of the value itself. -/
theorem Fits.mem_warnings {t : FieldType} {v : Value} (h : Fits good t v) {name : String}
    {w : LossyFlags} (hw : w ∈ v.warnings name) :
    (∃ kind fields name s, Within (.record kind fields) v ∧ kind.keepsUnknownBits = true ∧
      (name, Value.flags s) ∈ fields ∧ w ∈ s.warnings name) ∨
    (t.holdsFlags = true ∧ (t.flagsOutside = true → ∃ s, v = .flags s ∧ w ∈ s.warnings name)) := by
  induction h generalizing name with
  | scalar h => simp [warnings_of_holds h] at hw
  | union h =>
    obtain ⟨_, -, hv⟩ := h
    simp [warnings_of_holds hv] at hw
  | flags h => exact .inr ⟨rfl, fun _ => ⟨_, rfl, hw⟩⟩
  | list _ ih =>
    rw [warnings_list] at hw
    obtain ⟨u, hu, hw⟩ := List.mem_flatMap.1 hw
    rcases ih u hu hw with ⟨kind, fields, name, s, hwithin, hrest⟩ | ⟨hitem, -⟩
    · exact .inl ⟨kind, fields, name, s, .item hu hwithin, hrest⟩
    · exact .inr ⟨hitem, by simp [FieldType.flagsOutside, hitem]⟩
  | map _ _ _ ih =>
    rw [warnings_map] at hw
    obtain ⟨e, he, hw⟩ := List.mem_flatMap.1 hw
    rcases ih e he hw with ⟨kind, fields, name, s, hwithin, hrest⟩ | ⟨hitem, -⟩
    · exact .inl ⟨kind, fields, name, s, .entry he hwithin, hrest⟩
    · exact .inr ⟨hitem, by simp [FieldType.flagsOutside, hitem]⟩
  | @record kind fields hnames h hown ih =>
    rw [warnings_record] at hw
    obtain ⟨e, he, hw⟩ := List.mem_flatMap.1 hw
    obtain ⟨f, hf, hmem⟩ := exists_mem_zip_of_mem hnames.length_eq he
    rcases ih _ hmem hw with ⟨kind', fields', name', s, hwithin, hrest⟩ | ⟨-, hself⟩
    · exact .inl ⟨kind', fields', name', s, .field he hwithin, hrest⟩
    · obtain ⟨s, hs, hw⟩ := hself (RecordKind.flagsOutside_of_mem hf)
      refine .inl ⟨kind, fields, e.1, s, .refl _, ?_, by rwa [← hs], hw⟩
      -- a set without unknown bits gives no warning
      by_contra hkeeps
      have hdropped := hown (by simpa using hkeeps) e he
      rw [hs, Decoding.dropUnknownBits, Value.flags.injEq] at hdropped
      rw [← hdropped] at hw
      simp [FlagSet.warnings, FlagSet.dropUnknown] at hw
  | nullable _ ih => exact ih hw
  | _ => simp [warnings] at hw

/-- The warnings of a record are about records that keep unknown bits. -/
theorem Fits.warns {r : Record} (h : Fits good (.record r.kind) r.toValue) {w : LossyFlags}
    (hw : w ∈ r.warnings) : r.Warns w := by
  have hvalue : w ∈ r.toValue.warnings "" := hw
  rcases h.mem_warnings hvalue with ⟨kind, fields, name, s, hwithin, hkeeps, hmem, hw⟩ | ⟨hflags, -⟩
  · refine ⟨kind, fields, name, s, hwithin, hkeeps, hmem, ?_⟩
    by_cases hzero : s.unknown = 0
    · simp [FlagSet.warnings, hzero] at hw
    · exact ⟨hzero, by simpa [FlagSet.warnings, hzero] using hw⟩
  · simp [FieldType.holdsFlags] at hflags

theorem Fits.any_ne_null {t : FieldType} {p : Payload} (h : Fits good t (.any p)) : p ≠ .null := by
  generalize hv : Value.any p = v at h
  induction h with
  | any _ hne =>
    obtain rfl := Value.any.inj hv
    exact hne
  | nullable _ ih => exact ih hv
  | @scalar t _ h => subst hv; cases t <;> exact False.elim h
  | union h =>
    obtain ⟨t, -, h⟩ := h
    subst hv
    cases t <;> exact False.elim h
  | _ => cases hv

theorem Fits.mayBeNothing {t : FieldType} (h : Fits good t .null) : t.mayBeNothing = true := by
  cases h with
  | @scalar t _ h => cases t <;> exact False.elim h
  | union h =>
    obtain ⟨t, -, h⟩ := h
    cases t <;> exact False.elim h
  | _ => rfl

theorem Fits.encode_ne_null {t : FieldType} {v : Value} (h : Fits good t v) (hv : v ≠ .null)
    {j : Json} (hj : v.encode = .ok j) : j ≠ .null := by
  rintro rfl
  rcases encode_eq_null hj with rfl | rfl
  · exact hv rfl
  · exact h.any_ne_null rfl

end Value

namespace Decoding

open Value (Fits)

variable {decode : RecordKind → Payload → Decoding Value} {name : String}

theorem field_any {form : PayloadForm} {p : Payload} (hsettled : p.IsSettled) (h : p ≠ .null) :
    field form decode name .any p = ok (.any p) := by
  unfold field
  split
  · exact absurd rfl h
  · rw [hsettled.settle_eq]

/-- A list is decoded from the wire forms of its items. -/
theorem field_list_wire {item : FieldType} {js : List Json} {items : List Value}
    (h : List.Forall₂ (fun j v =>
      field .text decode name item (.ofJson j) = ⟨v.warnings name, .ok v⟩) js items) :
    field .text decode name (.list item) (.ofJson (.array js)) =
      ⟨(Value.list items).warnings name, .ok (.list items)⟩ := by
  have hparts : List.Forall₂ (fun d v => d = ⟨v.warnings name, .ok (id v)⟩)
      ((js.map Payload.ofJson).mapIdx fun i q =>
        (field .text decode name item q).under (.index i)) items := by
    refine forall₂_mapIdx_of (List.forall₂_map_left_iff.2 (h.imp fun j v hv i => ?_))
    rw [hv, under_eq]
    rfl
  rw [Payload.ofJson, Payload.ofItems_eq, field]
  simp only [Payload.items?]
  rw [collect_eq hparts, List.map_id, Value.warnings_list]
  rfl

theorem mapKey_wire {type : KeyType} {k : MapKey} (h : type.Holds k) :
    mapKey type k.wire = ok k := by
  rw [mapKey, Conversion.mapKey_wire h]

/-- A map is decoded from the wire forms of its entries. -/
theorem field_map_wire {key : KeyType} {item : FieldType} {es : List (String × Json)}
    {entries : List (MapKey × Value)} (hnodup : (entries.map Prod.fst).Nodup)
    (h : List.Forall₂ (fun j e => j.1 = e.1.wire ∧ key.Holds e.1 ∧
      field .text decode name item (.ofJson j.2) = ⟨e.2.warnings name, .ok e.2⟩) es entries) :
    field .text decode name (.map key item) (.ofJson (.object es)) =
      ⟨(Value.map entries).warnings name, .ok (.map entries)⟩ := by
  have hparts : List.Forall₂ (fun d e => d = ⟨e.2.warnings name, .ok (id e)⟩)
      ((es.map fun e => (e.1, Payload.ofJson e.2)).map fun e => both Prod.mk (mapKey key e.1)
        ((field .text decode name item e.2).under (.key e.1))) entries := by
    rw [List.map_map, List.forall₂_map_left_iff]
    refine h.imp ?_
    rintro ⟨k, j⟩ ⟨k', v⟩ ⟨rfl, hkey, hvalue⟩
    simp only [Function.comp_apply, mapKey_wire hkey, hvalue, under_eq]
    rfl
  rw [Payload.ofJson, Payload.ofEntries_eq, field, collect_eq hparts, List.map_id,
    Value.warnings_map, Decoding.map, Except.map, Entries.settle_eq_self hnodup]

/-- A field of a record is decoded from the wire form of what it holds, and from nothing if it
holds nothing. -/
theorem recordField_wire {good : Ready → Prop} {kind : RecordKind}
    {fields : List (String × Value)} {es : List (String × Json)}
    (hnodup : (fields.map Prod.fst).Nodup)
    (hes : List.Forall₂ (fun f j => j.1 = f.1 ∧ f.2.encode = .ok j.2)
      (fields.filter fun f => !f.2.isNull) es)
    {f : Field} {e : String × Value} (hf : f ∈ kind.fields) (he : e ∈ fields) (hname : e.1 = f.name)
    (hfits : Fits good f.type e.2)
    (hwire : ∀ j, e.2.encode = .ok j → (e.1, j) ∈ es →
      field .text decode e.1 f.type (.ofJson j) = ⟨e.2.warnings e.1, .ok e.2⟩) :
    recordField .text decode (Payload.ofEntries es) f = ⟨e.2.warnings e.1, .ok e⟩ := by
  obtain ⟨name, v⟩ := e
  obtain rfl : name = f.name := hname
  rcases Value.get?_encoded hnodup hes he with ⟨rfl, hget⟩ | ⟨-, j, hj, hget⟩
  · rw [recordField, Payload.get?_ofEntries, hget,
      RecordKind.fallback_null hf hfits.mayBeNothing]
    rfl
  · rw [recordField, Payload.get?_ofEntries, hget]
    simp only [Option.map_some, hwire j hj (Entries.mem_of_get? hget), under_eq]
    rfl

/-- A record is decoded from the wire forms of its fields. -/
theorem record_wire {kind : RecordKind} {fields : List (String × Value)}
    {es : List (String × Json)} {depth : Nat} (left : Nat)
    (hown : kind.keepsUnknownBits = false → ∀ e ∈ fields, dropUnknownBits e.2 = e.2)
    (h : List.Forall₂ (fun f e => recordField .text (record .text [] depth left)
      (Payload.ofEntries es) f = ⟨e.2.warnings e.1, .ok e⟩) kind.fields fields) (name : String) :
    record .text [] (depth + 1) left kind (.ofJson (.object es)) =
      ⟨(Value.record kind fields).warnings name, .ok (.record kind fields)⟩ := by
  have hparts : List.Forall₂ (fun d e => d = ⟨e.2.warnings e.1, .ok (id e)⟩)
      (kind.fields.map (recordField .text (record .text [] depth left) (Payload.ofEntries es)))
      fields := List.forall₂_map_left_iff.2 h
  -- the sets that lose their unknown bits have none
  have hfields : ownFields kind fields = fields := by
    rw [ownFields]
    split
    · rfl
    · next hkeeps =>
      refine (List.map_congr_left fun e he => ?_).trans (List.map_id _)
      exact Prod.ext rfl (hown (by simpa using hkeeps) e he)
  rw [Payload.ofJson, record, Nesting.enter_nil, recordEntries?]
  dsimp only
  rw [collect_eq hparts, List.map_id, Value.warnings_record, Decoding.map, Except.map,
    ← ownFields, hfields]

/-- The JSON value of a value is decoded as the value, if that is one that is read back. -/
theorem field_wire {t : FieldType} {v : Value} (h : Fits Ready.Sound t v) (hself : v.reread = v)
    {j : Json} (hj : v.encode = .ok j) {depth : Nat} (hdepth : (Payload.ofJson j).depth < depth)
    (left : Nat) (name : String) : field .text (record .text [] depth left) name t (.ofJson j) =
      ⟨v.warnings name, .ok v⟩ := by
  -- on the derivation that the value is of the type: each part lies less deep than the whole
  induction h generalizing j depth name with
  | scalar h =>
    rw [field, Conversion.scalar_wire hj h, Value.warnings_of_holds h]
    rfl
  | union h =>
    obtain ⟨t, ht, hv⟩ := h
    rw [field, Conversion.union_wire hj ⟨t, ht, hv⟩, Value.warnings_of_holds hv]
  | id x =>
    obtain rfl := Except.ok.inj hj
    rw [Payload.ofJson, field, Conversion.id_wire]
    rfl
  | @flags s h =>
    obtain rfl := Except.ok.inj hj
    rw [Payload.ofJson, field, flags, Conversion.flags_wire h]
    by_cases hzero : s.unknown = 0 <;> simp [Value.warnings, FlagSet.warnings, hzero]
  | choice h =>
    rw [field, Conversion.choice_wire h hj]
    rfl
  | messageType t =>
    obtain rfl := Except.ok.inj hj
    rw [Payload.ofJson, field, Conversion.messageType_wire]
    rfl
  | code h =>
    rw [field, Conversion.code_wire h hj]
    rfl
  | moment h =>
    obtain rfl := Except.ok.inj hj
    rw [Payload.ofJson, field, Conversion.moment_wire h]
    rfl
  | list _ ih =>
    obtain ⟨js, rfl, hjs⟩ := Value.encode_list_ok hj
    refine field_list_wire ((forall₂_mem hjs).flip.imp ?_)
    rintro j v ⟨hv, hmem, hj⟩
    have hinner := (Payload.depth_ofJson_lt_of_mem_items hmem).trans hdepth
    exact ih v hv (Value.reread_of_mem_list hself hv) hj hinner name
  | map hnodup hkeys _ ih =>
    obtain ⟨es, rfl, hes⟩ := Value.encode_map_ok hj
    refine field_map_wire hnodup ((forall₂_mem hes).flip.imp ?_)
    rintro j e ⟨he, hmem, hkey, hj⟩
    have hlt := (Payload.depth_ofJson_lt_of_mem_entries hmem).trans hdepth
    exact ⟨hkey, hkeys e he, ih e he (Value.reread_of_mem_map hself he) hj hlt name⟩
  | @record kind fields hnames h hown ih =>
    obtain ⟨es, rfl, hes⟩ := Value.encode_record_ok hj
    cases depth with
    | zero => simp at hdepth
    | succ depth =>
      rw [field]
      refine record_wire left hown (List.forall₂_iff_zip.2 ⟨hnames.length_eq, ?_⟩) name
      intro f e hmem
      obtain ⟨hf, he⟩ := List.of_mem_zip hmem
      refine recordField_wire (nodup_keys_of_names hnames) hes hf he
        ((List.forall₂_iff_zip.1 hnames).2 hmem) (h _ hmem) fun j hj hentry => ?_
      have hlt : (Payload.ofJson j).depth < depth :=
        Nat.lt_of_lt_of_le (Payload.depth_ofJson_lt_of_mem_entries hentry)
          (Nat.le_of_lt_succ hdepth)
      exact ih _ hmem (Value.reread_of_mem_record hself he) hj hlt e.1
  | nothing inner =>
    obtain rfl := Except.ok.inj hj
    rfl
  | @nullable inner v h ih =>
    by_cases hv : v = .null
    · subst hv
      obtain rfl := Except.ok.inj hj
      rfl
    · have hne := mt Payload.ofJson_eq_null_iff.1 (h.encode_ne_null hv hj)
      rw [field_nullable_of_ne hne, ih hself hj hdepth name]
  | anyNothing =>
    obtain rfl := Except.ok.inj hj
    rfl
  | @any p hsettled hne =>
    have hwire := Value.encodeAny_eq_ok_iff.1 hj
    rw [Value.reread, Value.any.injEq, Payload.reread_of_wire? hwire] at hself
    rw [hself, field_any hsettled hne]
    rfl

end Decoding

namespace Record

open Value (Fits)

/-- The JSON value of a record is decoded as what is read back of the record. -/
theorem decode_wire {r : Record} (h : Fits Ready.Sound (.record r.kind) r.toValue) {j : Json}
    (hj : r.toValue.encode = .ok j) :
    decode .text r.kind (.ofJson j) = ⟨r.warnings, .ok r.reread⟩ := by
  have hencode : r.reread.toValue.encode = .ok j := by rw [toValue_reread, Value.encode_reread, hj]
  have hself : r.reread.toValue.reread = r.reread.toValue := Value.reread_reread r.toValue
  have hwire := Decoding.field_wire h.reread hself hencode (Nat.lt_succ_self _) Nesting.limit ""
  rw [Decoding.field] at hwire
  have hwarnings : r.reread.toValue.warnings "" = r.warnings := Value.warnings_reread r.toValue ""
  rw [decode, Decoding.counted, if_neg (by simp)]
  rw [hwire, ← toValue_reread, hwarnings]
  rfl

/-- What a payload is decoded as, whether it came as text or as a mapping, has a text that is
decoded as a record with the same text again. It is the same record, unless a value of any type in
it holds parts that were decoded already, as the payload must have held them: those are read back as
the JSON values that they are written as. The exception are texts beyond the limits of the reader,
which no record is decoded from: those of more than 200 containers within one another and those of
integers with more than 4300 digits. The warnings are those of the flag sets that still have unknown
bits; these lie in records whose kind keeps them. -/
theorem decodeText_encodeText {form : PayloadForm} {kind : RecordKind} {p : Payload}
    (hp : p.AllReady Ready.Sound) {r : Record} (hdecode : (decode form kind p).outcome = .ok r)
    (hfinite : r.toValue.AllFinite) {indent : Option Nat} {text : String}
    (hencode : r.encodeText indent = .ok text) :
    ∃ j, r.encode = .ok j ∧ text = Json.write indent j ∧
      (j.isReadable Json.depthLimit = true →
        decodeText kind text = ⟨r.warnings, .ok r.reread⟩ ∧ r.reread.encodeText indent = .ok text ∧
          (r.HasPlainValues → r.reread = r) ∧ (p.IsPlain → r.HasPlainValues) ∧
          ∀ w ∈ r.warnings, r.Warns w) ∧
      (j.isReadable Json.depthLimit = false →
        decodeText kind text = .failed (.invalidJson text.toUTF8.toList)) := by
  obtain ⟨-, rfl⟩ := Decoding.decode_ok hdecode
  have hfits := Decoding.fits_of_decode Ready.closed_sound hp hdecode
  rw [encodeText_eq] at hencode
  obtain ⟨j, hj, rfl⟩ := Conversion.except_map_ok_iff.1 hencode
  have hvalue := encode_ok hj
  have hread := Json.readWithin_write indent Json.depthLimit (hfinite.encode hvalue)
  have hplain (h : p.IsPlain) : r.HasPlainValues :=
    fun _ => (Decoding.reaches_of_decode h hdecode).isPlain
  refine ⟨j, hj, rfl, fun hreadable => ⟨?_, ?_, reread_eq_self, hplain, fun w hw => hfits.warns hw⟩,
    fun hreadable => ?_⟩
  · rw [decodeText, Json.read, hread, if_pos hreadable]
    exact decode_wire hfits hvalue
  · rw [encodeText_eq, encode_reread hj]
    rfl
  · rw [decodeText, Json.read, hread, hreadable]
    rfl

/-- An overwrite that denies a permission without a name, given as text, keeps it and warns of it
again. -/
theorem decodeText_encodeText_of_overwrite :
    let fields := [("id", Json.string "007"), ("type", .string "0"),
      ("deny", .string "-9223372036854775808")]
    let r : Record := ⟨.overwrite, [("id", .id ⟨7, by decide⟩), ("type", .code (.number 0)),
      ("allow", .flags (.empty .permission)),
      ("deny", .flags ⟨.permission, 0, 9223372036854775808⟩)]⟩
    (decode .mapping .overwrite (.ofJson (.object fields))).outcome = .ok r ∧
      ∃ text, r.encodeText none = .ok text ∧ decodeText .overwrite text =
        ⟨[⟨"Permission", 9223372036854775808, some "deny"⟩], .ok r⟩ := by
  intro fields r
  have hdecode : (decode .mapping .overwrite (.ofJson (.object fields))).outcome = .ok r := rfl
  have hfinite : r.toValue.AllFinite := by
    refine Value.allFinite_record ?_
    simp only [r, List.forall_mem_cons]
    refine ⟨?_, ?_, ?_, ?_, by simp⟩ <;> exact Value.allFinite_of_leaf rfl trivial
  have hencode : r.encode = .ok (.object [("id", .string "7"), ("type", .integer 0),
    ("allow", .integer 0), ("deny", .integer (-9223372036854775808))]) := rfl
  have htext : r.encodeText none = .ok (Json.write none (.object [("id", .string "7"),
      ("type", .integer 0), ("allow", .integer 0),
      ("deny", .integer (-9223372036854775808))])) := by
    rw [encodeText_eq, hencode]
    rfl
  obtain ⟨j, hj, -, hreadable, -⟩ := decodeText_encodeText (Payload.allReady_ofJson _ _) hdecode
    hfinite htext
  obtain rfl := Except.ok.inj (hj.symm.trans hencode)
  exact ⟨hdecode, _, htext, (hreadable (by decide +kernel)).1⟩

end Record

/-- The value as the only item of an array, that array as the only item of another, and so on. -/
def Json.wrap : Nat → Json → Json
  | 0, v => v
  | n + 1, v => .array [Json.wrap n v]

theorem Json.allFinite_wrap (n : Nat) {v : Json} (h : v.AllFinite) : (Json.wrap n v).AllFinite := by
  induction n with
  | zero => exact h
  | succ n ih =>
    rw [Json.wrap, Json.allFinite_array_iff]
    simpa using ih

set_option maxRecDepth 20000 in
/-- A mapping may lie deeper than a text. The arrays of this one are 201 containers with the record
around them, too many for the reader of texts and few enough for the writer. -/
theorem Record.decodeText_encodeText_failed :
    let mapping := Json.object [("key", .string "x"), ("new_value", .wrap 200 (.integer 0))]
    ∃ r text, (decodeMapping .auditLogChange mapping).outcome = .ok r ∧ r.toValue.AllFinite ∧
      r.encodeText none = .ok text ∧
      (decodeText .auditLogChange text).outcome = .error ⟨.invalidJson text.toUTF8.toList, []⟩ := by
  intro mapping
  have hfinite : mapping.AllFinite := by
    rw [Json.allFinite_object_iff]
    simp only [List.forall_mem_cons]
    refine ⟨?_, Json.allFinite_wrap 200 ?_, by simp⟩ <;> simp [Json.AllFinite, Json.leaves]
  refine ⟨⟨.auditLogChange, [("key", .text "x"),
    ("new_value", .any (.ofJson (.wrap 200 (.integer 0)))), ("old_value", .null)]⟩,
    Json.write none mapping, rfl, ?_, by rw [encodeText_eq]; rfl, ?_⟩
  · refine Value.allFinite_record ?_
    simp only [List.forall_mem_cons]
    refine ⟨Value.allFinite_of_leaf rfl trivial, Value.allFinite_any_ofJson ?_,
      Value.allFinite_of_leaf rfl trivial, by simp⟩
    exact Json.allFinite_wrap 200 (by simp [Json.AllFinite, Json.leaves])
  · have hunreadable : mapping.isReadable Json.depthLimit = false := by decide +kernel
    have hread := Json.readWithin_write none Json.depthLimit hfinite
    rw [hunreadable] at hread
    rw [decodeText, Json.read, hread]
    rfl

end ChatRecords
