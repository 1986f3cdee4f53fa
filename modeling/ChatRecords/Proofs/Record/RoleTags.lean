import ChatRecords.Proofs.Record.RoundTrip
import ChatRecords.Proofs.Record.Setting
import ChatRecords.Proofs.Record.Warnings
import ChatRecords.Proofs.Record.WrittenAlike

/-!
# The tags of roles

Three of the tags of a role are truth values. In a payload they may be absent, and are then false,
or be truth values. Set to `true` they become true, and nothing else changes. `null` is not a truth
value, so that a payload is refused in which one of them is set to it.

## Main definitions

* `RoleTags.truths`: the names of these tags.
* `Payload.SetIn`: some keys of an object are set to a value.
* `Record.withTrue`: some fields of a record are true.

## Main results

* `Decoding.record_set_true`, `Decoding.record_set_null`: the same for truth values in records of
  any kind.
* `Record.tags_of_decode`: what becomes of a payload in which tags of a role are set.
-/

namespace ChatRecords

/-- The tags of a role that are truth values, in the order in which they are read. -/
def RoleTags.truths : List String :=
  ["premium_subscriber", "available_for_purchase", "guild_connections"]

/-- In the second entries some keys have a value, and the other keys the values that they have in
the first. -/
structure Payload.SetIn (names : List String) (q : Payload)
    (entries entries' : List (String × Payload)) : Prop where
  set : ∀ name ∈ names, Entries.get? name entries' = some q
  kept : ∀ name ∉ names, Entries.get? name entries' = Entries.get? name entries

/-- The value of a field of which some are true. -/
def Value.orTrue (names : List String) (name : String) (v : Value) : Value :=
  if name ∈ names then .truth true else v

/-- The fields of a record with some of them true. -/
def Record.withTrue (names : List String) (fields : List (String × Value)) :
    List (String × Value) :=
  fields.map fun f => (f.1, f.2.orTrue names f.1)

namespace Decoding

variable {α β γ : Type}

/-! ## Results -/

/-- Where each of several results is changed, the values change in their result together. -/
theorem collect_map (f : α → β) (ds : List (Decoding α)) :
    collect (ds.map (Decoding.map f)) = (collect ds).map (List.map f) := by
  induction ds with
  | nil => rfl
  | cons d ds ih =>
    rw [List.map_cons, collect, collect, ih]
    obtain ⟨warnings, outcome⟩ := d
    obtain ⟨warnings', outcome'⟩ := collect ds
    cases outcome <;> cases outcome' <;> rfl

/-- The first refusal is that of all. -/
theorem collect_error_of {ds ds' : List (Decoding α)} {d : Decoding α} {r : Refusal}
    (hds : ∀ d ∈ ds, ∃ a, d.outcome = .ok a) (hd : d.outcome = .error r) :
    (collect (ds ++ d :: ds')).outcome = .error r := by
  induction ds with
  | nil =>
    rw [List.nil_append, collect, both, hd]
  | cons d₀ ds ih =>
    rw [List.forall_mem_cons] at hds
    obtain ⟨a, ha⟩ := hds.1
    rw [List.cons_append, collect, both, ha, ih hds.2]

/-! ## Truth values -/

variable {form : PayloadForm} {decode : RecordKind → Payload → Decoding Value}
  {counted : List RecordKind} {kind : RecordKind} {f : Field} {names : List String}
  {entries entries' : List (String × Payload)}

open Payload (SetIn)

theorem recordField_of_true (htype : f.type = .truth)
    (hget : Entries.get? f.name entries = some (.bool true)) :
    recordField form decode entries f = ok (f.name, .truth true) := by
  rw [recordField, hget, htype]
  rfl

theorem recordField_of_null (htype : f.type = .truth)
    (hget : Entries.get? f.name entries = some .null) :
    recordField form decode entries f = refused ⟨.mismatch .truth .null, [.key f.name]⟩ := by
  rw [recordField, hget, htype]
  rfl

theorem warnings_of_truth (htype : f.type = .truth) :
    (recordField form decode entries f).warnings = [] := by
  rw [recordField]
  split
  · rw [htype, field]
    exact warnings_ofConversion (Conversion.scalar form .truth _)
  · rfl
  · rfl

/-- A field whose key is not set is decoded as it was. -/
theorem recordField_of_kept {q : Payload} (h : SetIn names q entries entries')
    (hf : f.name ∉ names) :
    recordField form decode entries' f = recordField form decode entries f := by
  rw [recordField, recordField, h.kept _ hf]

/-- The fields of a record that is decoded are decoded each by itself. -/
theorem exists_recordField {fields : List (String × Value)}
    (h : (collect (kind.fields.map (recordField form decode entries))).outcome = .ok fields)
    (hf : f ∈ kind.fields) :
    ∃ e, (recordField form decode entries f).outcome = .ok e ∧ e.1 = f.name := by
  obtain ⟨e, -, he⟩ := exists_right_of_forall₂ (List.forall₂_map_left_iff.1 (collect_ok_iff.1 h)) hf
  exact ⟨e, he, (recordField_ok he).1⟩

/-- A truth value that is set to `true` is true, and another field is what it was. -/
theorem recordField_set_true (hset : SetIn names (.bool true) entries entries')
    (htype : f.name ∈ names → f.type = .truth) {e : String × Value}
    (hok : (recordField form decode entries f).outcome = .ok e) :
    recordField form decode entries' f =
      (recordField form decode entries f).map fun e => (e.1, e.2.orTrue names e.1) := by
  have hname := (recordField_ok hok).1
  by_cases hf : f.name ∈ names
  · rw [recordField_of_true (htype hf) (hset.set _ hf), map, hok,
      warnings_of_truth (htype hf), Except.map, hname, Value.orTrue, if_pos hf]
    rfl
  · rw [recordField_of_kept hset hf, map, hok, Except.map, hname, Value.orTrue, if_neg hf, ← hname,
      ← hok]

theorem ownFields_withTrue (kind : RecordKind) (names : List String)
    (fields : List (String × Value)) :
    ownFields kind (Record.withTrue names fields) =
      Record.withTrue names (ownFields kind fields) := by
  rw [ownFields_eq, ownFields_eq, Record.withTrue, Record.withTrue, List.map_map, List.map_map]
  refine List.map_congr_left fun f _ => Prod.ext rfl ?_
  simp only [Function.comp_apply, Value.orTrue]
  split
  · exact ownValue_of_dropUnknownBits rfl
  · rfl

/-- Where truth values are set to `true`, they are true in the record, and nothing else changes. -/
theorem record_set_true (hnames : ∀ f ∈ kind.fields, f.name ∈ names → f.type = .truth)
    (hset : SetIn names (.bool true) entries entries') {depth left : Nat}
    {fields : List (String × Value)} {warnings : List LossyFlags}
    (hok : record form counted depth left kind (.object entries) =
      ⟨warnings, .ok (.record kind fields)⟩) :
    record form counted depth left kind (.object entries') =
      ⟨warnings, .ok (.record kind (Record.withTrue names fields))⟩ := by
  have hvalue : (record form counted depth left kind (.object entries)).outcome =
      .ok (.record kind fields) := by rw [hok]
  obtain ⟨depth, left', _, _, rfl, henter, -, -, -⟩ := record_ok hvalue
  rw [record_object henter] at hok ⊢
  obtain ⟨es, hes, hfields⟩ := map_ok_iff.1 (congrArg Decoding.outcome hok)
  have hall : kind.fields.map (recordField form (record form counted depth left') entries') =
      (kind.fields.map (recordField form (record form counted depth left') entries)).map
        (Decoding.map fun e => (e.1, e.2.orTrue names e.1)) := by
    rw [List.map_map]
    refine List.map_congr_left fun f hf => ?_
    obtain ⟨e, he, -⟩ := exists_recordField hes hf
    exact recordField_set_true hset (hnames f hf) he
  rw [hall, collect_map]
  generalize
    collect (kind.fields.map (recordField form (record form counted depth left') entries)) = d
    at hok hes
  obtain ⟨_, outcome⟩ := d
  obtain rfl : outcome = .ok es := hes
  obtain ⟨rfl, -⟩ := Decoding.mk.inj hok
  obtain rfl : ownFields kind es = fields := (Value.record.inj hfields).2
  rw [← ownFields_withTrue]
  rfl

/-- Where truth values are set to `null`, the record is refused for the first of them. -/
theorem record_set_null (hnames : ∀ f ∈ kind.fields, f.name ∈ names → f.type = .truth)
    (hset : SetIn names .null entries entries') {depth left : Nat} {v : Value}
    (hok : (record form counted depth left kind (.object entries)).outcome = .ok v)
    (hfirst : kind.fields.find? (·.name ∈ names) = some f) :
    (record form counted depth left kind (.object entries')).outcome =
      .error ⟨.mismatch .truth .null, [.key f.name]⟩ := by
  obtain ⟨hf, fs, fs', hfields, hbefore⟩ := List.find?_eq_some_iff_append.1 hfirst
  have hmem : f ∈ kind.fields := List.mem_of_find?_eq_some hfirst
  have hname : f.name ∈ names := of_decide_eq_true hf
  obtain ⟨depth, left', _, _, rfl, henter, -, -, -⟩ := record_ok hok
  rw [record_object henter] at hok ⊢
  obtain ⟨es, hes, -⟩ := map_ok_iff.1 hok
  rw [map_error_iff, hfields, List.map_append, List.map_cons]
  refine collect_error_of (fun d hd => ?_) ?_
  · obtain ⟨g, hg, rfl⟩ := List.mem_map.1 hd
    have hgname : g.name ∉ names := by simpa using hbefore g hg
    rw [recordField_of_kept hset hgname]
    have hgmem : g ∈ kind.fields := hfields ▸ List.mem_append_left _ hg
    obtain ⟨e, he, -⟩ := exists_recordField hes hgmem
    exact ⟨e, he⟩
  · rw [recordField_of_null (hnames f hmem hname) (hset.set _ hname), outcome_refused]

end Decoding

/-! ## Records with some truth values true -/

namespace Record

variable {names : List String} {fields : List (String × Value)} {kind : RecordKind}

theorem get_withTrue {name : String} (hname : name ∈ names) (hmem : name ∈ fields.map Prod.fst) :
    Record.get ⟨kind, withTrue names fields⟩ name = .truth true := by
  have hlookup := mt lookup_eq_none_iff_notMem.1 (not_not_intro hmem)
  obtain ⟨v, hv⟩ := Option.ne_none_iff_exists'.1 hlookup
  rw [get, withTrue, lookup_map_values fun name v => v.orTrue names name, hv, Option.map_some,
    Value.orTrue, if_pos hname]
  rfl

/-- A record is written alike with some of its truth values true. -/
theorem writtenAlike_withTrue (h : ∀ f ∈ fields, f.1 ∈ names → ∃ b, f.2 = .truth b)
    (done : List (String × Value)) :
    Value.WrittenAlike (.record kind (done ++ fields))
      (.record kind (done ++ withTrue names fields)) := by
  induction fields generalizing done with
  | nil => exact .refl _
  | cons f rest ih =>
    rw [List.forall_mem_cons] at h
    have hfirst : Value.WrittenAlike f.2 (f.2.orTrue names f.1) := by
      rw [Value.orTrue]
      split
      · next hname =>
        obtain ⟨b, hb⟩ := h.1 hname
        rw [hb]
        exact Value.writtenAlike_truth b true
      · exact .refl _
    have hrest := ih h.2 (done ++ [(f.1, f.2.orTrue names f.1)])
    rw [List.append_assoc, List.append_assoc] at hrest
    exact (hfirst.frame (.field kind done rest f.1)).trans hrest

/-- The text of a record is decoded as what is read back of it, within the limits of the reader. -/
theorem decodeText_write {r : Record} (h : Value.Fits Ready.Sound (.record r.kind) r.toValue)
    {j : Json} (hj : r.encode = .ok j) (hfinite : j.AllFinite)
    (hreadable : j.isReadable Json.depthLimit = true) (indent : Option Nat) :
    r.encodeText indent = .ok (Json.write indent j) ∧
      decodeText r.kind (Json.write indent j) = ⟨r.warnings, .ok r.reread⟩ := by
  refine ⟨by rw [encodeText_eq, hj]; rfl, ?_⟩
  rw [decodeText, Json.read, Json.readWithin_write indent Json.depthLimit hfinite, if_pos hreadable]
  exact decode_wire h (encode_ok hj)

end Record

/-! ## Tags -/

namespace RoleTags

variable {names : List String} {f : Field}

theorem type_of_truths (hf : f ∈ RecordKind.roleTags.fields) (hname : f.name ∈ truths) :
    f.type = .truth := by
  simp only [RecordKind.fields, Catalog.roleTags, List.mem_cons, List.not_mem_nil, or_false] at hf
  obtain rfl | rfl | rfl | rfl | rfl | rfl := hf
  all_goals first | rfl | simp [truths, Field.optional] at hname

/-- The first field among some truth values is that of the first of their names. -/
theorem exists_first (hnames : ∀ name ∈ names, name ∈ truths) (hne : names ≠ []) :
    ∃ f, RecordKind.roleTags.fields.find? (·.name ∈ names) = some f ∧
      truths.find? (· ∈ names) = some f.name := by
  have hother {name : String} (h : name ∉ truths) : name ∉ names := mt (hnames name) h
  have hbot : "bot_id" ∉ names := hother (by decide)
  have hintegration : "integration_id" ∉ names := hother (by decide)
  have hlisting : "subscription_listing_id" ∉ names := hother (by decide)
  simp only [RecordKind.fields, Catalog.roleTags, Field.optional, Field.withDefault, truths,
    List.find?_cons, hbot, hintegration, hlisting, decide_false]
  by_cases hpremium : "premium_subscriber" ∈ names
  · simp [hpremium]
  · by_cases havailable : "available_for_purchase" ∈ names
    · simp [hpremium, havailable]
    · obtain ⟨name, hname⟩ := List.exists_mem_of_ne_nil names hne
      have htruth := hnames name hname
      simp only [truths, List.mem_cons, List.not_mem_nil, or_false] at htruth
      obtain rfl | rfl | rfl := htruth
      · exact absurd hname hpremium
      · exact absurd hname havailable
      · simp [hpremium, havailable, hname]

/-- The values of the tags that are truth values, and that there are such values. -/
theorem truth_of_record {form : PayloadForm} {counted : List RecordKind} {depth left : Nat}
    {p : Payload} {tags : List (String × Value)}
    (h : (Decoding.record form counted depth left .roleTags p).outcome =
      .ok (.record .roleTags tags)) :
    (∀ name ∈ truths, name ∈ tags.map Prod.fst) ∧
      ∀ f ∈ tags, f.1 ∈ truths → ∃ b, f.2 = .truth b := by
  cases Decoding.fits_of_record Ready.closed_true p.allReady_true h with
  | record hnames hfits _ =>
    refine ⟨fun name hname => ?_, fun f hf hname => ?_⟩
    · rw [(map_eq_map_iff_forall₂ (f := Field.name)).2 (hnames.imp fun _ _ h => h.symm) |>.symm]
      have hall : ∀ name ∈ truths, name ∈ RecordKind.roleTags.fields.map Field.name := by decide
      exact hall name hname
    · obtain ⟨g, hg, hzip⟩ := exists_mem_zip_of_mem hnames.length_eq hf
      have hgname : f.1 = g.name := (List.forall₂_iff_zip.1 hnames).2 hzip
      have htruth := hfits _ hzip
      rw [type_of_truths hg (hgname ▸ hname)] at htruth
      exact ⟨_, htruth.eq_truth⟩

end RoleTags

namespace Record

/-- What becomes of a payload in which truth values among the tags of a role are set, at any depth,
where the payload is decoded as it is. Set to `null`, the payload is refused for the first of them.
Set to `true`, and unless another role takes the place of the role in a map, they are true in the
record that the payload is then decoded as, which is otherwise the same and comes with the same
warnings. It can be written if the former record can, and within the limits of the reader its text
is decoded as the same record again, but for decoded parts that the payload held in values of any
type. -/
theorem tags_of_decode {form : PayloadForm} {kind : RecordKind}
    {c : Payload.Context .roleTags (.record kind)} {entries : List (String × Payload)}
    {warnings : List LossyFlags} {r : Record}
    (hok : decode form kind (c.plug entries) = ⟨warnings, .ok r⟩) {names : List String}
    (hnames : ∀ name ∈ names, name ∈ RoleTags.truths) (hne : names ≠ []) :
    (∀ entries', Payload.SetIn names .null entries entries' →
      ∃ first, RoleTags.truths.find? (· ∈ names) = some first ∧
        (decode form kind (c.plug entries')).outcome =
          .error ⟨.mismatch .truth .null, c.path ++ [.key first]⟩) ∧
    ∀ entries', Payload.SetIn names (.bool true) entries entries' → c.IsKept →
      ∃ (C : Value.Context) (tags : List (String × Value)) (r' : Record), C.path = c.place ∧
        r.toValue = C.plug (.record .roleTags tags) ∧
        r'.toValue = C.plug (.record .roleTags (withTrue names tags)) ∧
        (∀ name ∈ names, get ⟨.roleTags, withTrue names tags⟩ name = .truth true) ∧
        decode form kind (c.plug entries') = ⟨warnings, .ok r'⟩ ∧
        ((∃ j, r'.encode = .ok j) ↔ ∃ j, r.encode = .ok j) ∧
        ((c.plug entries').AllReady Ready.Sound → ∀ j, r'.encode = .ok j → j.AllFinite →
          j.isReadable Json.depthLimit = true → ∀ indent,
            r'.encodeText indent = .ok (Json.write indent j) ∧
            decodeText kind (Json.write indent j) = ⟨r'.warnings, .ok r'.reread⟩) ∧
        (r'.HasPlainValues → r'.reread = r') ∧
        ((c.plug entries').IsPlain → r'.HasPlainValues) := by
  have hvalue : (decode form kind (c.plug entries)).outcome = .ok r := by rw [hok]
  have htype (f : Field) (hf : f ∈ RecordKind.roleTags.fields) (hname : f.name ∈ names) :
      f.type = .truth := RoleTags.type_of_truths hf (hnames _ hname)
  refine ⟨fun entries' hset => ?_, fun entries' hset hkept => ?_⟩
  · obtain ⟨f, hfield, hfirst⟩ := RoleTags.exists_first hnames hne
    exact ⟨f.name, hfirst, decode_plug_error c hvalue fun _ _ _ _ h =>
      Decoding.record_set_null htype hset h hfield⟩
  · obtain ⟨C, _, _, _, tags, r', hplace, htags, hr, hr', hdecode⟩ := decode_plug_ok c hkept hok
      fun _ _ _ _ _ h => Decoding.record_set_true htype hset h
    obtain ⟨hthere, htruth⟩ := RoleTags.truth_of_record htags
    have hvalue' : (decode form kind (c.plug entries')).outcome = .ok r' := by rw [hdecode]
    have hkind : r'.kind = r.kind :=
      (Decoding.decode_ok hvalue').2.trans (Decoding.decode_ok hvalue).2.symm
    have halike : Value.WrittenAlike r.toValue r'.toValue := by
      rw [hr, hr']
      exact (writtenAlike_withTrue (fun f hf hname => htruth f hf (hnames _ hname)) []).plug C
    refine ⟨C, tags, r', hplace, hr, hr', fun name hname => ?_, hdecode, ?_, ?_, reread_eq_self,
      fun hplain _ => (Decoding.reaches_of_decode hplain hvalue').isPlain⟩
    · exact get_withTrue hname (hthere name (hnames name hname))
    · exact exists_encode_iff_of_writtenAlike hkind halike
    · intro hready j hj hfinite hreadable indent
      have hfits := Decoding.fits_of_decode Ready.closed_sound hready hvalue'
      obtain rfl : r'.kind = kind := (Decoding.decode_ok hvalue').2
      exact decodeText_write hfits hj hfinite hreadable indent

/-- Two tags of a role that is found under its identifier with a zero before it. -/
theorem tags_of_decode_of_resolvedData :
    let payload (tags : List (String × Json)) := Payload.ofJson (.object [("roles", .object [("03",
      .object [("id", .string "3"), ("name", .string "r"), ("tags", .object tags)])])])
    let set (q : Json) := [("guild_connections", q), ("bot_id", .string "5"),
      ("premium_subscriber", q)]
    let written := Json.object [("roles", .object [("3", .object [("id", .string "3"),
      ("name", .string "r"), ("color", .integer 0), ("hoist", .bool false),
      ("position", .integer 0), ("permissions", .integer 0), ("managed", .bool false),
      ("mentionable", .bool false), ("tags", .object [("bot_id", .string "5"),
        ("premium_subscriber", .bool true), ("available_for_purchase", .bool false),
        ("guild_connections", .bool true)]), ("flags", .integer 0)])])]
    (decode .mapping .resolvedData (payload (set .null))).outcome =
        .error ⟨.mismatch .truth .null,
          [.key "roles", .key "03", .key "tags", .key "premium_subscriber"]⟩ ∧
      ∃ r, decode .mapping .resolvedData (payload (set (.bool true))) = ⟨[], .ok r⟩ ∧
        r.encode = .ok written ∧
        decodeText .resolvedData (Json.write none written) = ⟨r.warnings, .ok r⟩ := by
  intro payload set written
  let names := ["premium_subscriber", "guild_connections"]
  have hroles :
      Field.optional "roles" (.map .id (.record .role)) ∈ RecordKind.resolvedData.fields := by
    simp [RecordKind.fields, Catalog.resolvedData]
  have htags : Field.optional "tags" (.record .roleTags) ∈ RecordKind.role.fields := by
    simp [RecordKind.fields, Catalog.role]
  let role : Payload.Context .roleTags (.record .role) :=
    .field [("id", .string "3"), ("name", .string "r")] [] _ htags (by simp) (.nullable .here)
  let c : Payload.Context .roleTags (.record .resolvedData) :=
    .field [] [] _ hroles (by simp) (.nullable (.entry [] [] "03" role))
  have hset (q : Json) : Payload.SetIn names (.ofJson q) [("bot_id", .string "5")]
      (Payload.ofEntries (set q)) := by
    refine ⟨fun name hname => ?_, fun name hname => ?_⟩
    · obtain rfl | rfl : name = "premium_subscriber" ∨ name = "guild_connections" := by
        simpa [names] using hname
      · rfl
      · rfl
    · obtain ⟨hpremium, hconnections⟩ :
          name ≠ "premium_subscriber" ∧ name ≠ "guild_connections" := by
        simpa [names] using hname
      simp only [set, Payload.ofEntries, Payload.ofJson, Entries.get?, if_neg hpremium.symm,
        if_neg hconnections.symm]
      by_cases hbot : "bot_id" = name <;> simp [hbot]
  have hplug (tags : List (String × Json)) : c.plug (Payload.ofEntries tags) = payload tags := rfl
  obtain ⟨r, hr⟩ : ∃ r, decode .mapping .resolvedData (payload [("bot_id", .string "5")]) =
      ⟨[], .ok r⟩ := ⟨_, rfl⟩
  have hnames : ∀ name ∈ names, name ∈ RoleTags.truths := by decide
  rw [← hplug] at hr
  obtain ⟨hnull, htrue⟩ := tags_of_decode hr hnames (by decide)
  refine ⟨?_, ?_⟩
  · obtain ⟨first, hfirst, hrefused⟩ := hnull _ (hset .null)
    obtain rfl : first = "premium_subscriber" := (Option.some.inj hfirst).symm
    exact hrefused
  · obtain ⟨C, tags, r', -, -, -, -, hdecode, -, hagain, hsame, hplain⟩ :=
      htrue _ (hset (.bool true)) ⟨by simp, trivial⟩
    rw [hplug] at hdecode hagain hplain
    rw [hsame (hplain (Payload.isPlain_ofJson _))] at hagain
    have hwritten : r'.encode = .ok written := by
      have hencode :
          (decode .mapping .resolvedData (payload (set (.bool true)))).outcome.map encode =
            .ok (.ok written) := by
        simp only [payload, set, written]
        rfl
      rw [hdecode] at hencode
      exact Except.ok.inj hencode
    refine ⟨r', hdecode, hwritten, (hagain (Payload.allReady_ofJson _ _) _ hwritten ?_ ?_ none).2⟩
    · simp [written, Json.AllFinite, Json.leaves, Json.leavesOfEntries]
    · decide +kernel

/-- If `null` stood for true, the second of these roles would be decoded. -/
theorem tags_of_decode_failed :
    let role (tags : List (String × Json)) := Json.object [("id", .string "1"),
      ("name", .string "r"), ("tags", .object tags)]
    (∃ r, (decodeMapping .role (role [])).outcome = .ok r) ∧
      (decodeMapping .role (role [("premium_subscriber", .null)])).outcome =
        .error ⟨.mismatch .truth .null, [.key "tags", .key "premium_subscriber"]⟩ :=
  ⟨⟨_, rfl⟩, rfl⟩

end Record
end ChatRecords
