import ChatRecords.Proofs.Json.Indentation
import ChatRecords.Proofs.Record.TextMode
import ChatRecords.Proofs.Record.Ways

/-!
# What the text of a record denotes

The text of a record is JSON text by the grammar of the standard, and denotes the JSON value of the
record and nothing else. In that value no object has a key twice, so that a reader that keeps one
entry for a key keeps them all. Indentation is white space outside strings.

## Main results

* `Value.Fits.isSettled_encode`: no object in the JSON value of a value has a key twice.
* `Record.denotes_encodeText`: what the text of a decoded record denotes.
-/

namespace ChatRecords

namespace Value

variable {good : Ready → Prop}

/-- The keys of the JSON value of a map are those of the map, which differ as texts too. -/
theorem nodup_keys_of_map {key : KeyType} {entries : List (MapKey × Value)}
    {es : List (String × Json)} (hnodup : (entries.map Prod.fst).Nodup)
    (hkeys : ∀ e ∈ entries, key.Holds e.1)
    (hes : List.Forall₂ (fun e j => j.1 = e.1.wire ∧ e.2.encode = .ok j.2) entries es) :
    (es.map Prod.fst).Nodup := by
  have hwires : es.map Prod.fst = (entries.map Prod.fst).map MapKey.wire := by
    rw [List.map_map]
    exact map_eq_map_iff_forall₂.2 (hes.imp fun _ _ hj => hj.1).flip
  rw [hwires]
  refine List.Nodup.map_on (fun k hk k' hk' hwire => ?_) hnodup
  obtain ⟨e, he, rfl⟩ := List.mem_map.1 hk
  obtain ⟨e', he', rfl⟩ := List.mem_map.1 hk'
  exact Conversion.wire_injective (hkeys e he) (hkeys e' he') hwire

/-- The JSON value of a value without parts has no keys, unless it is one of any type. -/
theorem isSettled_leaf {v : Value} (hleaf : v.hasParts = false) {j : Json} (hj : v.encode = .ok j)
    (hany : ∀ p, v = .any p → p.IsSettled) : (Payload.ofJson j).IsSettled := by
  cases v with
  | list _ | map _ | record _ _ => cases hleaf
  | any p => exact (hany p rfl).ofJson (encodeAny_eq_ok_iff.1 hj)
  | choice c => cases c <;> obtain rfl := Except.ok.inj hj <;> constructor
  | code c => cases c <;> obtain rfl := Except.ok.inj hj <;> constructor
  | _ =>
    obtain rfl := Except.ok.inj hj
    constructor

/-- No object in the JSON value of a value has a key twice. -/
theorem Fits.isSettled_encode {t : FieldType} {v : Value} (h : Fits good t v) {j : Json}
    (hj : v.encode = .ok j) : (Payload.ofJson j).IsSettled := by
  induction h generalizing j with
  | @scalar t v h =>
    refine isSettled_leaf (hasParts_of_holds h).1 hj ?_
    rintro p rfl
    cases t <;> exact False.elim h
  | union h =>
    obtain ⟨t, -, h⟩ := h
    refine isSettled_leaf (hasParts_of_holds h).1 hj ?_
    rintro p rfl
    cases t <;> exact False.elim h
  | list _ ih =>
    obtain ⟨js, rfl, hjs⟩ := encode_list_ok hj
    rw [Payload.ofJson, Payload.ofItems_eq]
    refine .array fun q hq => ?_
    obtain ⟨j, hmem, rfl⟩ := List.mem_map.1 hq
    obtain ⟨v, hv, hj⟩ := exists_left_of_forall₂ hjs hmem
    exact ih v hv hj
  | map hnodup hkeys _ ih =>
    obtain ⟨es, rfl, hes⟩ := encode_map_ok hj
    rw [Payload.ofJson, Payload.ofEntries_eq]
    refine .object ?_ fun q hq => ?_
    · rw [List.map_map]
      exact nodup_keys_of_map hnodup hkeys hes
    · obtain ⟨e, hmem, rfl⟩ := List.mem_map.1 hq
      obtain ⟨kv, hkv, -, hj⟩ := exists_left_of_forall₂ hes hmem
      exact ih kv hkv hj
  | record hnames _ _ ih =>
    obtain ⟨es, rfl, hes⟩ := encode_record_ok hj
    rw [Payload.ofJson, Payload.ofEntries_eq]
    refine .object ?_ fun q hq => ?_
    · rw [List.map_map]
      exact nodup_keys_encoded (Decoding.nodup_keys_of_names hnames) hes
    · obtain ⟨e, hmem, rfl⟩ := List.mem_map.1 hq
      obtain ⟨f, hf, -, hj⟩ := exists_left_of_forall₂ hes hmem
      obtain ⟨_, -, hzip⟩ := exists_mem_zip_of_mem hnames.length_eq (List.mem_of_mem_filter hf)
      exact ih _ hzip hj
  | nullable _ ih => exact ih hj
  | any hsettled _ => exact hsettled.ofJson (encodeAny_eq_ok_iff.1 hj)
  | _ => exact isSettled_leaf rfl hj (by simp)

end Value

namespace Record

/-- The text of a decoded record, however it is indented, is JSON text that denotes the JSON value
of the record and nothing else, where `null` stands for doubles that are not finite. No object in
that value has a key twice. Without the white space outside its strings it is the compact text. Both
forms of writing fail for the same records, for the same reason. -/
theorem denotes_encodeText {form : PayloadForm} {kind : RecordKind} {p : Payload} {r : Record}
    (hdecode : (decode form kind p).outcome = .ok r) (indent : Option Nat) :
    (∀ e, r.encodeText indent = .error e ↔ r.encode = .error e) ∧
    ∀ text, r.encodeText indent = .ok text → ∃ j, r.encode = .ok j ∧ j.settle = j ∧
      (∀ v, Json.Denotes text v ↔ v = j.shown) ∧ (r.toValue.AllFinite → j.shown = j) ∧
      r.encodeText none = .ok (Json.withoutSpace text) := by
  obtain ⟨-, rfl⟩ := Decoding.decode_ok hdecode
  have hfits := Decoding.fits_of_decode Ready.closed_true p.allReady_true hdecode
  simp only [encodeText_eq]
  cases hj : r.encode with
  | error e => simp [Except.map]
  | ok j =>
    refine ⟨by simp [Except.map], fun text htext => ?_⟩
    obtain rfl := Except.ok.inj htext
    have hvalue := encode_ok hj
    refine ⟨j, rfl, Json.settle_eq_self (hfits.isSettled_encode hvalue),
      Json.denotes_write_iff indent j, fun hfinite => (hfinite.encode hvalue).shown_eq, ?_⟩
    rw [Json.withoutSpace_write]
    rfl

/-- A change in an audit log from an integer beyond 64 bits to a real one: the two numbers stay
apart, and a line break in a key is no white space of the text. -/
theorem denotes_encodeText_of_change :
    let change := Json.object [("key", .string "k\n"),
      ("new_value", .object [("a b", .array [.real .one]), ("", .array [])]),
      ("old_value", .integer (10 ^ 30))]
    ∃ r text, (decodeMapping .auditLogChange change).outcome = .ok r ∧ r.toValue.AllFinite ∧
      r.encodeText (some 2) = .ok text ∧ (∀ v, Json.Denotes text v ↔ v = change) ∧
      Json.withoutSpace text = "\x7b\"key\":\"k\\n\"," ++
        "\"new_value\":\x7b\"a b\":[1.0],\"\":[]\x7d," ++
        "\"old_value\":1000000000000000000000000000000\x7d" := by
  intro change
  let r : Record := ⟨.auditLogChange, [("key", .text "k\n"),
    ("new_value", .any (.ofJson (.object [("a b", .array [.real .one]), ("", .array [])]))),
    ("old_value", .any (.integer (10 ^ 30)))]⟩
  have hdecode : (decodeMapping .auditLogChange change).outcome = .ok r := rfl
  have hencode : r.encode = .ok change := rfl
  have hfinite : r.toValue.AllFinite := by
    refine Value.allFinite_record ?_
    simp only [r, List.forall_mem_cons]
    refine ⟨Value.allFinite_of_leaf rfl trivial, Value.allFinite_any_ofJson ?_,
      Value.allFinite_any_ofJson (v := .integer (10 ^ 30)) ?_, by simp⟩
    · intro x hx
      simp only [Json.leaves, Json.leavesOfEntries, Json.leavesOfItems, List.append_nil,
        List.mem_singleton, Json.real.injEq] at hx
      rw [hx]
      decide +kernel
    · intro x hx
      simp [Json.leaves] at hx
  have htext : r.encodeText (some 2) = .ok (Json.write (some 2) change) := by
    rw [encodeText_eq, hencode]
    rfl
  obtain ⟨j, hj, -, hdenotes, hshown, hcompact⟩ := (denotes_encodeText hdecode (some 2)).2 _ htext
  obtain rfl := Except.ok.inj (hj.symm.trans hencode)
  rw [hshown hfinite] at hdenotes
  refine ⟨r, _, hdecode, hfinite, htext, hdenotes, ?_⟩
  rw [Json.withoutSpace_write]
  decide +kernel

end Record
end ChatRecords
