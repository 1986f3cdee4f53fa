import ChatRecords.Proofs.Record.Extent
import ChatRecords.Proofs.Record.MaskForms

/-!
# Masks in records

A mask comes out of decoding and encoding as it went in where the record that owns it keeps unknown
bits, and without them everywhere else, however deep the record lies.

## Main definitions

* `Json.at?`: the part of a JSON value that a path leads to.
* `Decoding.FlagsAt`: the payload of a flag set, the path to it and the record that owns it.
* `Decoding.carried`: the mask that is encoded.

## Main results

* `Decoding.at?_of_flagsAt`: the mask at a place is the one that is carried.
* `Record.masks_of_decode`: what becomes of the masks in a payload.
-/

namespace ChatRecords

/-- The part of a JSON value that a path leads to. -/
def Json.at? : Path → Json → Option Json
  | [], v => some v
  | .key name :: rest, v => (v.get? name).bind (at? rest)
  | .index i :: rest, v => if i < 0 then none else (v.items[i.toNat]?).bind (at? rest)

namespace Decoding

/-- The entries of a map under the keys that their texts are read as. -/
def keyed (type : KeyType) (entries : List (String × Payload)) : List (MapKey × Payload) :=
  entries.filterMap fun e => (Conversion.mapKey type e.1).toOption.map fun k => (k, e.2)

/-- In a payload for a type of values, the payload of a flag set: the path to it, the kind of the
record that it is a field of, and its class. The first argument is the kind of the record around
the whole payload. Of several entries with one key the last counts. -/
inductive FlagsAt :
    RecordKind → FieldType → Payload → Path → RecordKind → FlagClass → Payload → Prop
  | here (owner : RecordKind) (c : FlagClass) (q : Payload) : FlagsAt owner (.flags c) q [] owner c q
  /-- One in a payload that may be nothing. -/
  | nullable {around owner : RecordKind} {inner : FieldType} {p q : Payload} {path : Path}
      {c : FlagClass} (hp : p ≠ .null) (h : FlagsAt around inner p path owner c q) :
      FlagsAt around (.nullable inner) p path owner c q
  | item {around owner : RecordKind} {item : FieldType} {p p' q : Payload} {path : Path}
      {c : FlagClass} {items : List Payload} {i : Nat} (hitems : p.items? = some items)
      (hi : items[i]? = some p') (h : FlagsAt around item p' path owner c q) :
      FlagsAt around (.list item) p (.index i :: path) owner c q
  /-- One in the value of an entry. -/
  | entry {around owner : RecordKind} {key : KeyType} {item : FieldType}
      {entries : List (String × Payload)} {k : MapKey} {p' q : Payload} {path : Path}
      {c : FlagClass} (hk : Entries.get? k (keyed key entries) = some p')
      (h : FlagsAt around item p' path owner c q) :
      FlagsAt around (.map key item) (.object entries) (.key k.wire :: path) owner c q
  | field {around owner kind : RecordKind} {p p' q : Payload} {path : Path} {c : FlagClass}
      {entries : List (String × Payload)} {f : Field} (hentries : recordEntries? kind p = some entries)
      (hf : f ∈ kind.fields) (hget : Entries.get? f.name entries = some p')
      (h : FlagsAt kind f.type p' path owner c q) :
      FlagsAt around (.record kind) p (.key f.name :: path) owner c q

/-- The mask that a flag set is written as: all of it in a record whose kind keeps unknown bits,
else its named bits. -/
def carried (owner : RecordKind) (c : FlagClass) (mask : Int) : Int :=
  if owner.keepsUnknownBits then mask else FlagSet.knownPart c mask

theorem ownValue_of_hasParts {kind : RecordKind} {v : Value} (h : v.hasParts = true) :
    ownValue kind v = v := by
  apply ownValue_of_dropUnknownBits
  cases v <;> first | rfl | simp [Value.hasParts] at h

variable {form : PayloadForm} {counted : List RecordKind}

/-- A flag set of a mask is written as the mask that its record carries. -/
theorem encode_ownValue_flags {owner : RecordKind} {c : FlagClass} {m : Int}
    {r : FlagSet × Bool} (h : FlagSet.ofMask c m true = .ok r) :
    (ownValue owner (.flags r.1)).encode = .ok (.integer (carried owner c m)) := by
  rw [ownValue, carried]
  split
  · rw [Value.encode, FlagSet.toMask_of_ofMask h]
  · rw [dropUnknownBits, Value.encode, FlagSet.toMask_dropUnknown_of_ofMask h]

/-- The entry of a key in the JSON value of a map. -/
theorem get?_wire {key : KeyType} {entries : List (MapKey × Value)} {es : List (String × Json)}
    (hnodup : (entries.map Prod.fst).Nodup) (hkeys : ∀ e ∈ entries, key.Holds e.1)
    (h : List.Forall₂ (fun e j => j.1 = e.1.wire ∧ e.2.encode = .ok j.2) entries es)
    {k : MapKey} {v : Value} (hk : Entries.get? k entries = some v) :
    ∃ j, v.encode = .ok j ∧ Entries.get? k.wire es = some j := by
  have hwires : es.map Prod.fst = (entries.map Prod.fst).map MapKey.wire := by
    rw [List.map_map]
    exact map_eq_map_iff_forall₂.2 (h.imp fun _ _ hj => hj.1).flip
  have hnodup' : (es.map Prod.fst).Nodup := by
    rw [hwires]
    refine hnodup.map_on fun k hk k' hk' hwire => ?_
    obtain ⟨e, he, rfl⟩ := List.mem_map.1 hk
    obtain ⟨e', he', rfl⟩ := List.mem_map.1 hk'
    exact Conversion.wire_injective (hkeys e he) (hkeys e' he') hwire
  obtain ⟨⟨wire, j⟩, hmem, rfl, hencode⟩ := exists_right_of_forall₂ h (Entries.mem_of_get? hk)
  exact ⟨j, hencode, (Entries.get?_eq_some_iff hnodup').2 hmem⟩

/-- The values of a map under their keys are decoded from the payloads under these keys. -/
theorem forall₂_keyed {key : KeyType} {R : Payload → Value → Prop}
    {entries : List (String × Payload)} {kvs : List (MapKey × Value)}
    (h : List.Forall₂ (fun e kv => Conversion.mapKey key e.1 = .ok kv.1 ∧ R e.2 kv.2) entries kvs) :
    List.Forall₂ (fun x y => y.1 = x.1 ∧ R x.2 y.2) (keyed key entries) kvs := by
  induction h with
  | nil => exact .nil
  | @cons e kv entries kvs hkv _ ih =>
    have hcons : keyed key (e :: entries) = (kv.1, e.2) :: keyed key entries :=
      List.filterMap_cons_some (by rw [hkv.1]; rfl)
    rw [hcons]
    exact .cons ⟨rfl, hkv.2⟩ ih

theorem fits_value {t : FieldType} {p : Payload} {depth left : Nat} {name : String} {v : Value}
    (h : (field form (record form counted depth left) name t p).outcome = .ok v) :
    v.Fits (fun _ => True) t :=
  fits_of_field Ready.closed_true (fun hp h => fits_of_record Ready.closed_true hp h)
    p.allReady_true h

/-- A part of a list or of a map holds no flag sets of its own, so that a record holds it as it
is. -/
theorem ownValue_of_part {t : FieldType} (ht : t.holdsFlags = false) {p : Payload}
    {depth left : Nat} {name : String} {v : Value}
    (h : (field form (record form counted depth left) name t p).outcome = .ok v)
    (kind : RecordKind) : ownValue kind v = v :=
  ownValue_of_dropUnknownBits ((fits_value h).dropUnknownBits_eq ht)

/-- The mask at the place of a flag set, in the JSON value of what is decoded, is the one that its
record carries. -/
theorem at?_of_flagsAt {around owner : RecordKind} {t : FieldType} {p q : Payload} {path : Path}
    {c : FlagClass} (h : FlagsAt around t p path owner c q) {m : Int} (hm : q.IsMask m)
    (ht : t.flagsOutside = true) {depth left : Nat} {name : String} {v : Value}
    (hok : (field form (record form counted depth left) name t p).outcome = .ok v) {j : Json}
    (hj : (ownValue around v).encode = .ok j) :
    j.at? path = some (.integer (carried owner c m)) := by
  -- on the place: decoding and encoding both go down to it, one step at a time
  induction h generalizing depth left name v j with
  | here owner c q =>
    rw [field, flags] at hok
    split at hok
    · next r hr =>
      obtain rfl := Except.ok.inj hok
      rw [encode_ownValue_flags ((Conversion.flags_of_isMask hm).1 hr)] at hj
      rw [← Except.ok.inj hj, Json.at?]
    · simp at hok
  | nullable hp _ ih =>
    rw [field_nullable_of_ne hp] at hok
    exact ih hm ht hok hj
  | @item around owner item p p' q path c items i hitems hi h ih =>
    obtain ⟨items', vs, hitems', rfl, hvs⟩ := field_list_ok hok
    obtain rfl := Option.some.inj (hitems.symm.trans hitems')
    rw [ownValue_of_hasParts (v := .list vs) rfl] at hj
    obtain ⟨js, rfl, hjs⟩ := Value.encode_list_ok hj
    obtain ⟨w, hw, hwok⟩ := forall₂_getElem? hvs hi
    obtain ⟨jw, hjw, hencode⟩ := forall₂_getElem? hjs hw
    have hitem : item.holdsFlags = false := by simpa [FieldType.flagsOutside] using ht
    rw [← ownValue_of_part hitem hwok around] at hencode
    have hrest := ih hm (FieldType.flagsOutside_of_holdsFlags hitem) hwok hencode
    rw [Json.at?, if_neg (by omega), Json.items, Int.toNat_natCast, hjw]
    exact hrest
  | @entry around owner key item entries k p' q path c hk h ih =>
    obtain ⟨_, kvs, ⟨⟩, rfl, hkvs⟩ := field_map_ok hok
    rw [ownValue_of_hasParts (v := .map (Entries.settle kvs)) rfl] at hj
    obtain ⟨es, rfl, hes⟩ := Value.encode_map_ok hj
    let R (q : Payload) (w : Value) : Prop :=
      (field form (record form counted depth left) name item q).outcome = .ok w
    have hkeyed := forall₂_keyed (R := R) hkvs
    rcases forall₂_get? (R := fun _ => R) hkeyed k with ⟨hnone, -⟩ | ⟨a, w, ha, hw, hwok⟩
    · simp [hk] at hnone
    obtain rfl := Option.some.inj (hk.symm.trans ha)
    have hkeys : ∀ e ∈ Entries.settle kvs, key.Holds e.1 := by
      intro e he
      obtain ⟨_, -, hkey, -⟩ := exists_left_of_forall₂ hkvs (Entries.mem_of_mem_settle he)
      exact Conversion.mapKey_ok hkey
    -- the last of several entries with one key is the one that is kept
    rw [← Entries.get?_settle] at hw
    obtain ⟨jw, hencode, hjw⟩ := get?_wire (Entries.nodup_keys_settle kvs) hkeys hes hw
    have hitem : item.holdsFlags = false := by simpa [FieldType.flagsOutside] using ht
    rw [← ownValue_of_part hitem hwok around] at hencode
    have hrest := ih hm (FieldType.flagsOutside_of_holdsFlags hitem) hwok hencode
    rw [Json.at?, Json.get?, hjw]
    exact hrest
  | @field around owner kind p p' q path c entries f hentries hf hget h ih =>
    obtain ⟨depth', left', entries', fields, rfl, -, hentries', rfl, hfields⟩ := record_ok hok
    obtain rfl := Option.some.inj (hentries.symm.trans hentries')
    rw [ownValue_of_hasParts (v := .record kind (ownFields kind fields)) rfl] at hj
    obtain ⟨es, rfl, hes⟩ := Value.encode_record_ok hj
    obtain ⟨⟨_, w⟩, he, rfl, hholds⟩ := exists_right_of_forall₂ hfields hf
    have hown : (f.name, ownValue kind w) ∈ ownFields kind fields := by
      rw [ownFields_eq]
      exact List.mem_map_of_mem (f := fun f => (f.1, ownValue kind f.2)) he
    have hnodup : ((ownFields kind fields).map Prod.fst).Nodup := by
      apply nodup_keys_of_names
      rw [ownFields_eq, List.forall₂_map_right_iff]
      exact hfields.imp fun _ _ h => h.1
    obtain ⟨a, ha, hwok⟩ | ⟨hnone, -⟩ := hholds
    · obtain rfl := Option.some.inj (hget.symm.trans ha)
      have hrest {j : Json} := ih hm (RecordKind.flagsOutside_of_mem hf) hwok (j := j)
      rcases Value.get?_encoded hnodup hes hown with ⟨hnull, -⟩ | ⟨-, jw, hencode, hjw⟩
      · -- a field that holds nothing has no flag set
        have hnothing := hrest (j := .null) (by simp only at hnull; rw [hnull]; rfl)
        cases path with
        | nil => simp [Json.at?] at hnothing
        | cons step rest => cases step <;> simp [Json.at?, Json.get?, Json.items] at hnothing
      · rw [Json.at?, Json.get?, hjw]
        exact hrest hencode
    · simp [hget] at hnone

end Decoding

namespace Record

open Decoding (FlagsAt carried)

/-- What becomes of the masks in a payload that is decoded. Each is written in its place, with all
its bits if the record that owns it keeps unknown bits, else with the named ones; whether it came as
an integer or as text makes no difference; and the flag sets that the fields of records hold have no
unknown bits, unless the record keeps them. There are no flag sets but in fields, lists and maps: one
that lies deeper in a value of any type was a flag set in the payload already. -/
theorem masks_of_decode {form : PayloadForm} {kind : RecordKind} {p : Payload} {r : Record}
    (hok : (decode form kind p).outcome = .ok r) :
    (∀ j path owner c q m, r.encode = .ok j → FlagsAt kind (.record kind) p path owner c q →
      q.IsMask m → j.at? path = some (.integer (carried owner c m))) ∧
    (∀ p', Payload.SameMasks (.record kind) p p' → decode form kind p' = decode form kind p) ∧
    (∀ kind' fields, Value.Within (.record kind' fields) r.toValue →
      kind'.keepsUnknownBits = false → ∀ f ∈ fields, ∀ s ∈ f.2.ownFlags, s.unknown = 0) ∧
    (p.IsPlain → ∀ q, Value.Within (.any q) r.toValue → ∀ s, ¬q.Holds (.flags s)) := by
  obtain ⟨hvalue, rfl⟩ := Decoding.decode_ok hok
  refine ⟨fun j path owner c q m hj hflags hm => ?_, fun p' h => Decoding.decode_congr h hok, ?_,
    fun hplain q hq s => ((Decoding.reaches_of_decode hplain hok).isPlain hq).of_holds⟩
  · have hencode : (Decoding.ownValue r.kind r.toValue).encode = .ok j := by
      rw [Decoding.ownValue_of_hasParts (v := r.toValue) rfl]
      exact encode_ok hj
    have hfield : (Decoding.field form (Decoding.record form (Decoding.counted form r.kind p)
        (p.depth + 1) Nesting.limit) "" (.record r.kind) p).outcome = .ok r.toValue := by
      rw [Decoding.field]
      exact hvalue
    exact Decoding.at?_of_flagsAt hflags hm rfl hfield hencode
  · intro kind' fields hwithin hkeeps f hf s hs
    have hfits := Decoding.fits_of_decode Ready.closed_true p.allReady_true hok
    exact (hfits.of_within hwithin).unknown_eq_zero hkeeps hf hs

set_option maxRecDepth 2000 in
/-- A guild drops the bits without a name that its role keeps. -/
theorem masks_of_decode_of_guild :
    let role := Payload.object [("id", .string "3"), ("name", .string "r"),
      ("permissions", .string "-1")]
    let guild := Payload.object [("id", .string "1"), ("name", .string "g"),
      ("owner_id", .string "2"), ("roles", .array [role]), ("system_channel_flags", .integer (-1))]
    ∃ r j, (decode .mapping .guild guild).outcome = .ok r ∧ r.encode = .ok j ∧
      j.at? [.key "roles", .index 0, .key "permissions"] = some (.integer (-1)) ∧
      j.at? [.key "system_channel_flags"] =
        some (.integer (FlagSet.knownPart .systemChannelFlag (-1))) := by
  intro role guild
  obtain ⟨r, hr, j, hj⟩ : ∃ r, (decode .mapping .guild guild).outcome = .ok r ∧
      ∃ j, r.encode = .ok j := ⟨_, rfl, _, rfl⟩
  have hroles : Field.listing "roles" (.record .role) ∈ RecordKind.guild.fields := by
    simp [RecordKind.fields, Catalog.guild]
  have hpermissions : Field.flagging "permissions" .permission ∈ RecordKind.role.fields := by
    simp [RecordKind.fields, Catalog.role]
  have hsystem : Field.flagging "system_channel_flags" .systemChannelFlag ∈
      RecordKind.guild.fields := by
    simp [RecordKind.fields, Catalog.guild]
  have hone : Text.AllDigits ['1'] := fun c hc => List.mem_singleton.1 hc ▸ rfl
  have hmasks := (masks_of_decode hr).1 j
  refine ⟨r, j, hr, hj, ?_, ?_⟩
  · exact hmasks _ _ _ _ _ hj (.field rfl hroles rfl (.item (i := 0) rfl rfl
      (.field rfl hpermissions rfl (.here _ _ _)))) (.minus (by simp) hone (by decide))
  · exact hmasks _ _ _ _ _ hj (.field rfl hsystem rfl (.here _ _ _)) (.integer (-1))

end Record
end ChatRecords
