import ChatRecords.Proofs.Record.Parts
import ChatRecords.Proofs.Record.Payload

/-!
# Values and their types

What is decoded for a type of values is a value of the type, and what is decoded for a kind of
record is a record of the kind, with a value of the right type in every field.

## Main definitions

* `Value.Fits`: a value is one of a type.

## Main results

* `Decoding.fits_of_decode`: a decoded record is one of its kind.
* `Value.Fits.of_within`: so are the records within it.
* `Value.Fits.unknown_eq_zero`: no flag set of a record has unknown bits, unless the kind of the
  record keeps them.
-/

namespace ChatRecords
namespace Value

open Decoding (dropUnknownBits)

/-- A value is one of a type. Flag sets and choice values have a property, and values of any type
have no key twice in an object. In a record the names of the fields are those of its kind, and
unknown bits are there only if the kind keeps them. -/
inductive Fits (good : Ready → Prop) : FieldType → Value → Prop
  | scalar {t : ScalarType} {v : Value} (h : t.Holds v) : Fits good (.scalar t) v
  | union {first : ScalarType} {rest : List ScalarType} {v : Value}
      (h : ∃ t ∈ first :: rest, t.Holds v) : Fits good (.union first rest) v
  | id (x : Snowflake) : Fits good .id (.id x)
  | flags {s : FlagSet} (h : good (.flags s)) : Fits good (.flags s.flagClass) (.flags s)
  | choice {c : Choice} (h : good (.choice c)) : Fits good .choice (.choice c)
  | messageType (t : MessageType) : Fits good .messageType (.messageType t)
  | code {e : Enumeration} {c : Code} (h : e.holds c = true) : Fits good (.code e) (.code c)
  | moment {m : Moment} (h : m.HasWholeMinutes) : Fits good .moment (.moment m)
  | list {item : FieldType} {items : List Value} (h : ∀ v ∈ items, Fits good item v) :
      Fits good (.list item) (.list items)
  | map {key : KeyType} {item : FieldType} {entries : List (MapKey × Value)}
      (hnodup : (entries.map Prod.fst).Nodup) (hkeys : ∀ e ∈ entries, key.Holds e.1)
      (h : ∀ e ∈ entries, Fits good item e.2) : Fits good (.map key item) (.map entries)
  | record {kind : RecordKind} {fields : List (String × Value)}
      (hnames : List.Forall₂ (fun f e => e.1 = f.name) kind.fields fields)
      (h : ∀ e ∈ kind.fields.zip fields, Fits good e.1.type e.2.2)
      (hown : kind.keepsUnknownBits = false → ∀ e ∈ fields, dropUnknownBits e.2 = e.2) :
      Fits good (.record kind) (.record kind fields)
  | nothing (inner : FieldType) : Fits good (.nullable inner) .null
  | nullable {inner : FieldType} {v : Value} (h : Fits good inner v) : Fits good (.nullable inner) v
  | anyNothing : Fits good .any .null
  | any {p : Payload} (hsettled : p.IsSettled) (hne : p ≠ .null) : Fits good .any (.any p)

variable {good : Ready → Prop}

/-! ## Dropping unknown bits -/

theorem dropUnknownBits_idem (v : Value) :
    dropUnknownBits (dropUnknownBits v) = dropUnknownBits v := by
  cases v with
  | any p =>
    cases p with
    | ready x => cases x <;> rfl
    | _ => rfl
  | _ => rfl

/-- A value of any type without unknown bits is one of any type. -/
theorem exists_dropUnknownBits_any (p : Payload) : ∃ q, dropUnknownBits (.any p) = .any q ∧
    (q = p ∨ ∃ s, p = .ready (.flags s) ∧ q = .ready (.flags s.dropUnknown)) := by
  unfold Decoding.dropUnknownBits
  split
  · next h => cases h
  · next s h =>
    obtain rfl := Value.any.inj h
    exact ⟨_, rfl, .inr ⟨s, rfl, rfl⟩⟩
  · exact ⟨p, rfl, .inl rfl⟩

theorem hasParts_of_holds {t : ScalarType} {v : Value} (h : t.Holds v) :
    v.hasParts = false ∧ v.ownFlags = [] ∧ dropUnknownBits v = v := by
  cases t <;> cases v <;> first | exact ⟨rfl, rfl, rfl⟩ | exact False.elim h

theorem Fits.eq_truth {v : Value} (h : Fits good .truth v) : v = .truth v.isTrue := by
  cases h with
  | scalar h => cases v <;> first | rfl | exact h.elim

theorem Fits.dropUnknownBits (hgood : Ready.Closed good) {t : FieldType} {v : Value}
    (h : Fits good t v) : Fits good t (Decoding.dropUnknownBits v) := by
  induction h with
  | scalar h =>
    rw [(hasParts_of_holds h).2.2]
    exact .scalar h
  | union h =>
    obtain ⟨t, ht, hv⟩ := h
    rw [(hasParts_of_holds hv).2.2]
    exact .union ⟨t, ht, hv⟩
  | flags h => exact .flags (hgood.dropUnknown h)
  | list h => exact .list h
  | map hnodup hkeys h => exact .map hnodup hkeys h
  | record hnames h hown => exact .record hnames h hown
  | nullable _ ih => exact .nullable ih
  | id x => exact .id x
  | choice h => exact .choice h
  | messageType t => exact .messageType t
  | code h => exact .code h
  | moment h => exact .moment h
  | nothing inner => exact .nothing inner
  | anyNothing => exact .anyNothing
  | @any p hsettled hne =>
    obtain ⟨q, hq, rfl | ⟨s, -, rfl⟩⟩ := exists_dropUnknownBits_any p
    · rw [hq]
      exact .any hsettled hne
    · rw [hq]
      exact .any (.ready _) (by simp)

/-! ## Fallbacks -/

theorem fits_of_hasSimpleDefault (hgood : Ready.Closed good) {t : FieldType} {v : Value}
    (h : t.hasSimpleDefault v = true) : Fits good t v ∧ dropUnknownBits v = v := by
  unfold FieldType.hasSimpleDefault at h
  split at h
  · exact ⟨.nothing _, rfl⟩
  · exact ⟨.scalar trivial, rfl⟩
  · exact ⟨.scalar trivial, rfl⟩
  · exact ⟨.scalar trivial, rfl⟩
  · exact ⟨.messageType _, rfl⟩
  · exact ⟨.list (by simp), rfl⟩
  · exact ⟨.map (by simp) (by simp) (by simp), rfl⟩
  · exact ⟨.code h, rfl⟩
  · obtain rfl := of_decide_eq_true h
    exact ⟨.flags (hgood.empty _), rfl⟩
  · simp at h

/-- What stands for an absent field is of its type. -/
theorem fits_of_hasDefault (hgood : Ready.Closed good) {t : FieldType} {v : Value}
    (h : t.hasDefault v = true) : Fits good t v := by
  unfold FieldType.hasDefault at h
  split at h
  · next kind kind' fields =>
    simp only [Bool.and_eq_true, decide_eq_true_eq, List.all_eq_true] at h
    obtain ⟨⟨rfl, hnames⟩, hvalues⟩ := h
    have hforall : List.Forall₂ (fun f e => e.1 = f.name) kind'.fields fields :=
      (map_eq_map_iff_forall₂.1 hnames).flip
    refine .record hforall (fun e he => (fits_of_hasSimpleDefault hgood (hvalues e he)).1) ?_
    intro _ e he
    obtain ⟨f, -, hmem⟩ := exists_mem_zip_of_mem hforall.length_eq he
    exact (fits_of_hasSimpleDefault hgood (hvalues _ hmem)).2
  · exact (fits_of_hasSimpleDefault hgood h).1

end Value

namespace Decoding

variable {good : Ready → Prop} {form : PayloadForm} {counted : List RecordKind}

open Value (Fits)

/-- Fields with the names of a kind have distinct names. -/
theorem nodup_keys_of_names {kind : RecordKind} {fields : List (String × Value)}
    (hnames : List.Forall₂ (fun f e => e.1 = f.name) kind.fields fields) :
    (fields.map Prod.fst).Nodup := by
  rw [map_eq_map_iff_forall₂.2 hnames.flip]
  exact kind.nodup_names

/-- A record with what its fields hold has the values of its kind. -/
theorem fits_of_fieldHolds (hgood : Ready.Closed good) {kind : RecordKind}
    {fields : List (String × Value)}
    (h : List.Forall₂ (fun f e => e.1 = f.name ∧ Fits good f.type e.2) kind.fields fields) :
    Fits good (.record kind) (.record kind (ownFields kind fields)) := by
  have hown : List.Forall₂ (fun f e => e.1 = f.name ∧ Fits good f.type e.2) kind.fields
      (ownFields kind fields) := by
    rw [ownFields_eq, List.forall₂_map_right_iff]
    refine h.imp fun f e hf => ⟨hf.1, ?_⟩
    rw [ownValue]
    split
    · exact hf.2
    · exact hf.2.dropUnknownBits hgood
  refine .record (hown.imp fun _ _ hf => hf.1) (fun e he => ?_) (fun hkeeps e he => ?_)
  · exact ((List.forall₂_iff_zip.1 hown).2 he).2
  · rw [ownFields_eq] at he
    obtain ⟨f, -, rfl⟩ := List.mem_map.1 he
    rw [ownValue, hkeeps]
    exact Value.dropUnknownBits_idem f.2

theorem fits_of_flags (hgood : Ready.Closed good) {name : String} {c : FlagClass} {p : Payload}
    (hp : p.AllReady good) {v : Value} (h : (flags name c p).outcome = .ok v) :
    Fits good (.flags c) v := by
  unfold flags at h
  split at h
  · next r hr =>
    obtain rfl := Except.ok.inj h
    rcases Conversion.flags_ok hr with ⟨rfl, rfl, -⟩ | ⟨mask, hmask⟩
    · cases hp with
      | ready hs => exact .flags hs
    · -- the type names the class that the set carries itself
      have hclass := (FlagSet.sound_of_ofMask hmask).1
      subst hclass
      exact .flags (hgood.mask hmask)
  · simp at h

theorem fits_of_choice (hgood : Ready.Closed good) {p : Payload} (hp : p.AllReady good)
    {c : Choice} (h : Conversion.choice p = .ok c) : Fits good .choice (.choice c) := by
  rcases Conversion.choice_ok h with rfl | hrange
  · cases hp with
    | ready hs => exact .choice hs
  · exact .choice (hgood.choice hrange)

/-- Where records are decoded as records of their kind, fields are decoded as values of their
type. -/
theorem fits_of_field (hgood : Ready.Closed good)
    {decode : RecordKind → Payload → Decoding Value}
    (hdecode : ∀ {kind p v}, p.AllReady good → (decode kind p).outcome = .ok v →
      Fits good (.record kind) v)
    {t : FieldType} {name : String} {p : Payload} (hp : p.AllReady good) {v : Value}
    (h : (field form decode name t p).outcome = .ok v) : Fits good t v := by
  induction t generalizing p v with
  | scalar t =>
    rw [field, ofConversion_ok_iff] at h
    exact .scalar (Conversion.scalar_ok h)
  | union first rest =>
    rw [field] at h
    exact .union (Conversion.union_ok h)
  | id =>
    rw [field, ofConversion_ok_iff] at h
    obtain ⟨x, -, rfl⟩ := Conversion.except_map_ok_iff.1 h
    exact .id x
  | flags c =>
    rw [field] at h
    exact fits_of_flags hgood hp h
  | choice =>
    rw [field, ofConversion_ok_iff] at h
    obtain ⟨c, hc, rfl⟩ := Conversion.except_map_ok_iff.1 h
    exact fits_of_choice hgood hp hc
  | messageType =>
    rw [field, ofConversion_ok_iff] at h
    obtain ⟨t, -, rfl⟩ := Conversion.except_map_ok_iff.1 h
    exact .messageType t
  | code e =>
    rw [field, ofConversion_ok_iff] at h
    obtain ⟨c, hc, rfl⟩ := Conversion.except_map_ok_iff.1 h
    exact .code (Conversion.code_ok hc)
  | moment =>
    rw [field, ofConversion_ok_iff] at h
    obtain ⟨m, hm, rfl⟩ := Conversion.except_map_ok_iff.1 h
    exact .moment (Conversion.moment_ok hm)
  | list item ih =>
    obtain ⟨items, vs, hitems, rfl, hforall⟩ := field_list_ok h
    refine .list fun w hw => ?_
    obtain ⟨q, hq, hqw⟩ := exists_left_of_forall₂ hforall hw
    exact ih (hp.of_items? hgood hitems q hq) hqw
  | map key item ih =>
    obtain ⟨entries, kvs, rfl, rfl, hforall⟩ := field_map_ok h
    have hentry : ∀ e ∈ Entries.settle kvs, key.Holds e.1 ∧ Fits good item e.2 := by
      intro e he
      obtain ⟨e', he', hkey, hvalue⟩ := exists_left_of_forall₂ hforall
        (Entries.mem_of_mem_settle he)
      cases hp with
      | object hp => exact ⟨Conversion.mapKey_ok hkey, ih (hp e' he') hvalue⟩
    exact .map (Entries.nodup_keys_settle _) (fun e he => (hentry e he).1)
      fun e he => (hentry e he).2
  | record kind =>
    rw [field] at h
    exact hdecode hp h
  | nullable inner ih =>
    rcases field_nullable_ok h with ⟨-, rfl⟩ | ⟨-, hinner⟩
    · exact .nothing inner
    · exact .nullable (ih hp hinner)
  | any =>
    unfold field at h
    split at h
    · obtain rfl := Except.ok.inj h
      exact .anyNothing
    · next hne =>
      obtain rfl := Except.ok.inj h
      exact .any p.isSettled_settle (mt Payload.settle_eq_null_iff.1 hne)

theorem fits_of_record (hgood : Ready.Closed good) {depth left : Nat} {kind : RecordKind}
    {p : Payload} (hp : p.AllReady good) {v : Value}
    (h : (record form counted depth left kind p).outcome = .ok v) : Fits good (.record kind) v := by
  induction depth generalizing left kind p v with
  | zero => simp [record] at h
  | succ depth ih =>
    obtain ⟨_, left', entries, fields, ⟨⟩, -, hentries, rfl, hforall⟩ := record_ok h
    have hready := hp.of_recordEntries? hentries
    apply fits_of_fieldHolds hgood
    rw [List.forall₂_iff_zip] at hforall ⊢
    refine ⟨hforall.1, fun {f e} hmem => ?_⟩
    obtain ⟨hname, ⟨q, hget, hq⟩ | ⟨-, hfallback⟩⟩ := hforall.2 hmem
    · refine ⟨hname, fits_of_field hgood (fun hp' h' => ih hp' h') ?_ hq⟩
      exact hready _ (Entries.mem_of_get? hget)
    · have hfield : f ∈ kind.fields := (List.of_mem_zip hmem).1
      exact ⟨hname, Value.fits_of_hasDefault hgood (RecordKind.hasDefault_of_fallback hfield hfallback)⟩

/-- What a payload is decoded as is a record of the kind. -/
theorem fits_of_decode (hgood : Ready.Closed good) {kind : RecordKind} {p : Payload}
    (hp : p.AllReady good) {r : Record} (h : (Record.decode form kind p).outcome = .ok r) :
    Fits good (.record kind) r.toValue :=
  fits_of_record hgood hp (decode_ok h).1

end Decoding

namespace Value

variable {good : Ready → Prop}

open Decoding (dropUnknownBits)

/-! ## Records within a value -/

/-- The records within a value of a type are records of their kinds. -/
theorem Fits.of_within {t : FieldType} {v : Value} (h : Fits good t v) {kind : RecordKind}
    {fields : List (String × Value)} (hwithin : Within (.record kind fields) v) :
    Fits good (.record kind) (.record kind fields) := by
  induction h with
  | scalar h =>
    have hleaf := (hasParts_of_holds h).1
    rw [← hwithin.eq_of_leaf hleaf] at hleaf
    simp [hasParts] at hleaf
  | union h =>
    obtain ⟨_, -, hv⟩ := h
    have hleaf := (hasParts_of_holds hv).1
    rw [← hwithin.eq_of_leaf hleaf] at hleaf
    simp [hasParts] at hleaf
  | list _ ih =>
    cases hwithin with
    | item hw hwithin => exact ih _ hw hwithin
  | map _ _ _ ih =>
    cases hwithin with
    | entry he hwithin => exact ih _ he hwithin
  | record hnames h hown ih =>
    cases hwithin with
    | refl => exact .record hnames h hown
    | field hf hwithin =>
      obtain ⟨f, -, hmem⟩ := exists_mem_zip_of_mem hnames.length_eq hf
      exact ih _ hmem hwithin
  | nullable _ ih => exact ih hwithin
  | _ => cases hwithin

/-- The flag sets of a value that lie in no record of its, where its type keeps them out of lists
and maps: the value is the only one. -/
theorem Fits.eq_of_mem_ownFlags {t : FieldType} {v : Value} (h : Fits good t v) {s : FlagSet}
    (hs : s ∈ v.ownFlags) :
    t.holdsFlags = true ∧
      (t.flagsOutside = true → v = .flags s ∨ v = .any (.ready (.flags s))) := by
  induction h with
  | scalar h => simp [(hasParts_of_holds h).2.1] at hs
  | union h =>
    obtain ⟨_, -, hv⟩ := h
    simp [(hasParts_of_holds hv).2.1] at hs
  | flags h =>
    rw [ownFlags, List.mem_singleton] at hs
    exact ⟨rfl, fun _ => .inl (by rw [hs])⟩
  | @any p _ _ =>
    refine ⟨rfl, fun _ => .inr ?_⟩
    rw [eq_of_mem_ownFlags_any hs]
  | list _ ih =>
    obtain ⟨w, hw, hs⟩ := mem_ownFlags_list.1 hs
    have hitem := (ih w hw hs).1
    exact ⟨hitem, by simp [FieldType.flagsOutside, hitem]⟩
  | map _ _ _ ih =>
    obtain ⟨e, he, hs⟩ := mem_ownFlags_map.1 hs
    have hitem := (ih e he hs).1
    exact ⟨hitem, by simp [FieldType.flagsOutside, hitem]⟩
  | nullable _ ih => exact ih hs
  | _ => simp [ownFlags] at hs

/-- A value of a type without flag sets has no unknown bits to drop. -/
theorem Fits.dropUnknownBits_eq {t : FieldType} {v : Value} (h : Fits good t v)
    (ht : t.holdsFlags = false) : Decoding.dropUnknownBits v = v := by
  cases v with
  | flags s =>
    have hflags := (h.eq_of_mem_ownFlags (s := s) (by simp [ownFlags])).1
    simp [ht] at hflags
  | any p =>
    obtain ⟨q, hq, rfl | ⟨s, rfl, -⟩⟩ := exists_dropUnknownBits_any p
    · exact hq
    · have hflags := (h.eq_of_mem_ownFlags (s := s) (by simp [ownFlags])).1
      simp [ht] at hflags
  | _ => rfl

/-- The flag sets of a record have no unknown bits, unless its kind keeps them. -/
theorem Fits.unknown_eq_zero {kind : RecordKind} {fields : List (String × Value)}
    (h : Fits good (.record kind) (.record kind fields)) (hkeeps : kind.keepsUnknownBits = false)
    {e : String × Value} (he : e ∈ fields) {s : FlagSet} (hs : s ∈ e.2.ownFlags) :
    s.unknown = 0 := by
  cases h with
  | record hnames h hown =>
    obtain ⟨f, hf, hmem⟩ := exists_mem_zip_of_mem hnames.length_eq he
    have hdropped := hown hkeeps e he
    rcases ((h _ hmem).eq_of_mem_ownFlags hs).2 (RecordKind.flagsOutside_of_mem hf) with hv | hv
    · rw [hv, Decoding.dropUnknownBits, Value.flags.injEq] at hdropped
      rw [← hdropped]
      rfl
    · rw [hv, Decoding.dropUnknownBits] at hdropped
      simp only [Value.any.injEq, Payload.ready.injEq, Ready.flags.injEq] at hdropped
      rw [← hdropped]
      rfl

end Value
end ChatRecords
