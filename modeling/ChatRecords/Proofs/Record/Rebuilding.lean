import ChatRecords.Proofs.Record.Writable
import ChatRecords.Record.Rebuilding

/-!
# Records made of decoded values

A value of a type is admitted for the type as it is, with all that lies in it. A record that is made
of values of the right types therefore holds these very values.

## Main definitions

* `Record.Conforms`: a record has the fields of its kind, with values of their types.

## Main results

* `Record.conforms_of_decode`: decoded records do.
* `Value.Fits.admit?_eq`: a value of a type is admitted as it is.
* `Record.Conforms.build?_eq`: a record is made of its own values.
-/

namespace ChatRecords

open Decoding (dropUnknownBits)

/-- A value is one that a field in records of a kind can hold. -/
def Field.Admits (kind : RecordKind) (f : Field) (v : Value) : Prop :=
  v.Fits (fun _ => True) f.type ∧ (kind.keepsUnknownBits = false → dropUnknownBits v = v)

/-- A record has the fields of a kind, with values of their types, as decoded records have. -/
def Record.Conforms (kind : RecordKind) (r : Record) : Prop :=
  r.toValue.Fits (fun _ => True) (.record kind)

/-! ## What is admitted -/

theorem mapM_eq_some {α β : Type} {f : α → Option β} {xs : List α} {ys : List β}
    (h : List.Forall₂ (fun x y => f x = some y) xs ys) : xs.mapM f = some ys := by
  induction h with
  | nil => rfl
  | cons hx _ ih =>
    rw [List.mapM_cons, hx, ih]
    rfl

/-- A record whose flag sets have no unknown bits, unless its kind keeps them, is finished. -/
theorem Record.finish_eq_self {r : Record}
    (h : r.kind.keepsUnknownBits = false → ∀ e ∈ r.fields, dropUnknownBits e.2 = e.2) :
    r.finish = r := by
  rw [finish]
  split
  · rfl
  · next hkeeps =>
    congr 1
    refine (List.map_congr_left fun e he => ?_).trans (List.map_id _)
    exact Prod.ext rfl (h (by simpa using hkeeps) e he)

namespace Value

variable {good : Ready → Prop} {t : FieldType} {v : Value}

/-- A scalar value is admitted in the form in which it is written. -/
theorem payload?_of_holds {t : ScalarType} (h : t.Holds v) :
    ∃ j, v.encode = .ok j ∧ v.payload? = some (.ofJson j) := by
  cases t <;> cases v <;> first | exact ⟨_, rfl, rfl⟩ | exact h.elim

/-- A value of a type is admitted as it is. -/
theorem Fits.admit?_eq (h : Fits good t v) : v.admit? t = some v := by
  -- on the derivation that the value is of the type
  induction h with
  | scalar h =>
    obtain ⟨j, hj, hpayload⟩ := payload?_of_holds h
    simp only [admit?, hpayload, Option.bind_some, Decoding.field, Conversion.scalar_wire hj h]
    rfl
  | union h =>
    obtain ⟨t, ht, hv⟩ := h
    obtain ⟨j, hj, hpayload⟩ := payload?_of_holds hv
    simp only [admit?, hpayload, Option.bind_some, Decoding.field,
      Conversion.union_wire hj ⟨t, ht, hv⟩]
    rfl
  | flags h => simp [admit?, payload?, Decoding.field, Decoding.flags, Conversion.flags, Except.toOption]
  | messageType t =>
    simp only [admit?, payload?, Option.bind_some, Decoding.field, Conversion.messageType,
      Payload.integer?, MessageType.ofValue?_value]
    rfl
  | @code e c h =>
    cases c with
    | number n =>
      simp only [admit?, payload?, Option.bind_some, Decoding.field,
        Conversion.code_integer h (p := .integer n) rfl]
      rfl
    | word s =>
      simp only [admit?, payload?, Option.bind_some, Decoding.field, Conversion.code_word h]
      rfl
  | list _ ih =>
    simp only [admit?, mapM_eq_some (List.forall₂_same.2 ih)]
    rfl
  | @map key item entries hnodup hkeys _ ih =>
    have hentries : (entries.mapM fun e => (Conversion.mapKey key e.1.wire).toOption.bind fun k =>
        (admit? item e.2).map (k, ·)) = some entries := by
      refine mapM_eq_some (List.forall₂_same.2 fun e he => ?_)
      rw [Conversion.mapKey_wire (hkeys e he), ih e he]
      rfl
    simp only [admit?, hentries, Option.map_some, Entries.settle_eq_self hnodup]
  | @record kind fields hnames h hown ih =>
    have hincludes : kind.includes kind = true := by simp [RecordKind.includes]
    have hfinish : Record.finish ⟨kind, fields⟩ = ⟨kind, fields⟩ := Record.finish_eq_self hown
    simp only [admit?, hincludes, if_true, hfinish]
    rfl
  | @nullable inner v h ih =>
    rw [admit?]
    split
    · next hnull => cases v <;> first | rfl | cases hnull
    · exact ih
  | _ => rfl

end Value

/-- What stands for an absent field has no unknown bits to drop. -/
theorem Value.dropUnknownBits_of_hasDefault {t : FieldType} {v : Value} (h : t.hasDefault v = true) :
    dropUnknownBits v = v := by
  unfold FieldType.hasDefault at h
  split at h
  · rfl
  · exact (Value.fits_of_hasSimpleDefault Ready.closed_true h).2

theorem Field.admits_fallback {kind : RecordKind} {f : Field} (hf : f ∈ kind.fields) {v : Value}
    (h : f.fallback = some v) : f.Admits kind v := by
  have hdefault := RecordKind.hasDefault_of_fallback hf h
  exact ⟨Value.fits_of_hasDefault Ready.closed_true hdefault,
    fun _ => Value.dropUnknownBits_of_hasDefault hdefault⟩

/-! ## Records that conform -/

namespace Record

variable {kind : RecordKind} {r : Record}

theorem conforms_of_decode {form : PayloadForm} {p : Payload}
    (h : (decode form kind p).outcome = .ok r) : r.Conforms kind :=
  Decoding.fits_of_decode Ready.closed_true p.allReady_true h

theorem conforms_iff : r.Conforms kind ↔ r.kind = kind ∧
    List.Forall₂ (fun f e => e.1 = f.name ∧ f.Admits kind e.2) kind.fields r.fields := by
  obtain ⟨other, fields⟩ := r
  constructor
  · intro h
    cases h with
    | record hnames h hown =>
      refine ⟨rfl, List.forall₂_iff_zip.2 ⟨hnames.length_eq, fun hmem => ?_⟩⟩
      exact ⟨(List.forall₂_iff_zip.1 hnames).2 hmem, h _ hmem,
        fun hkeeps => hown hkeeps _ (List.of_mem_zip hmem).2⟩
  · rintro ⟨rfl, h⟩
    refine .record (h.imp fun _ _ h => h.1) (fun e he => ?_) fun hkeeps e he => ?_
    · exact ((List.forall₂_iff_zip.1 h).2 he).2.1
    · obtain ⟨f, -, -, hadmits⟩ := exists_left_of_forall₂ h he
      exact hadmits.2 hkeeps

variable (h : r.Conforms kind)

include h

theorem Conforms.kind_eq : r.kind = kind := (conforms_iff.1 h).1

theorem Conforms.names_eq : r.fields.map Prod.fst = kind.fields.map Field.name := by
  refine (map_eq_map_iff_forall₂.2 ?_).symm
  exact (conforms_iff.1 h).2.imp fun _ _ h => h.1.symm

theorem Conforms.mem_names {f : Field} (hf : f ∈ kind.fields) : f.name ∈ r.fields.map Prod.fst := by
  rw [h.names_eq]
  exact List.mem_map_of_mem hf

theorem Conforms.nodup_names : (r.fields.map Prod.fst).Nodup := by
  rw [h.names_eq]
  exact kind.nodup_names

theorem Conforms.get_eq_of_mem {name : String} {v : Value} (hmem : (name, v) ∈ r.fields) :
    r.get name = v := by
  rw [get, (lookup_eq_some_iff_mem h.nodup_names).2 hmem, Option.getD_some]

/-- A field of the kind holds a value that it admits. -/
theorem Conforms.admits_get {f : Field} (hf : f ∈ kind.fields) : f.Admits kind (r.get f.name) := by
  obtain ⟨⟨name, v⟩, he, rfl, hadmits⟩ := exists_right_of_forall₂ (conforms_iff.1 h).2 hf
  rw [h.get_eq_of_mem he]
  exact hadmits

/-- The fields are those of the kind, each with what it holds. -/
theorem Conforms.fields_eq : r.fields = kind.fields.map fun f => (f.name, r.get f.name) := by
  rw [← List.forall₂_eq_eq_eq, List.forall₂_map_right_iff]
  refine (forall₂_mem (conforms_iff.1 h).2).flip.imp ?_
  rintro ⟨name, v⟩ f ⟨-, he, rfl, -⟩
  rw [h.get_eq_of_mem he]

/-- A record is made of its own values, and fields that hold their fallback need not be given. -/
theorem Conforms.build?_eq {values : List (String × Value)}
    (hvalues : ∀ f ∈ kind.fields, values.lookup f.name = some (r.get f.name) ∨
      values.lookup f.name = none ∧ f.fallback = some (r.get f.name)) :
    build? kind values = some r := by
  obtain ⟨rfl, hfields⟩ := conforms_iff.1 h
  have hfilled : List.Forall₂ (fun f e => (f.fill? values).map (f.name, ·) = some e)
      r.kind.fields r.fields := by
    refine (forall₂_mem hfields).imp ?_
    rintro f ⟨name, v⟩ ⟨hf, he, rfl, hadmits⟩
    have hget := h.get_eq_of_mem he
    rcases hvalues f hf with hgiven | ⟨habsent, hfallback⟩
    · rw [Field.fill?, hgiven, hget]
      exact congrArg _ hadmits.1.admit?_eq
    · rw [Field.fill?, habsent, ← hget]
      exact congrArg _ hfallback
  rw [build?, mapM_eq_some hfilled, Option.map_some, finish_eq_self]
  intro hkeeps e he
  obtain ⟨f, -, -, hadmits⟩ := exists_left_of_forall₂ hfields he
  exact hadmits.2 hkeeps

end Record
end ChatRecords
