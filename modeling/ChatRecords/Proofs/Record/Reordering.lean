import ChatRecords.Proofs.Record.Levels
import ChatRecords.Proofs.Record.Parts

/-!
# The order of keys

What a record is decoded as does not depend on the order of the keys in its payload or in those of
the records within it, nor on keys that are no names of fields. Faults depend on them only in that
they may show a part of the payload.

## Main definitions

* `Payload.Reordered`: the entries of records come in another order and among others.
* `Fault.SameKind`: two faults differ at most in the value that they show.
* `Decoding.Alike`: two results are the same but for such a difference.

## Main results

* `Decoding.field_alike`: what is decoded of two such payloads is alike.
* `Record.decode_reordered`: so are whole records.
-/

namespace ChatRecords

/-- The value of a key in a row of distinct keys does not depend on their order, nor on other keys
beside them. -/
theorem Entries.get?_of_perm {κ α : Type} [DecidableEq κ] {k : κ}
    {entries rest extra : List (κ × α)} (h : entries.Perm (rest ++ extra))
    (hrest : (rest.map Prod.fst).Nodup) (hextra : k ∉ extra.map Prod.fst) :
    get? k entries = get? k rest := by
  have hmem {v : α} : (k, v) ∈ entries ↔ (k, v) ∈ rest := by
    rw [h.mem_iff, List.mem_append]
    exact or_iff_left fun hv => hextra (List.mem_map_of_mem hv)
  cases hget : get? k entries with
  | none =>
    symm
    rw [get?_eq_none_iff] at hget ⊢
    intro hk
    obtain ⟨⟨k', v⟩, hv, rfl⟩ := List.mem_map.1 hk
    exact hget (List.mem_map_of_mem (hmem.2 hv))
  | some v => exact ((get?_eq_some_iff hrest).2 (hmem.1 (mem_of_get? hget))).symm

namespace Payload

/-- Two payloads for a type of values are the same but for the entries of records. Those of the
second come in any order and among others whose keys are no names of fields. -/
inductive Reordered : FieldType → Payload → Payload → Prop
  | refl (t : FieldType) (p : Payload) : Reordered t p p
  /-- The payloads for a type that allows nothing are the same in this sense. -/
  | nullable {inner : FieldType} {p p' : Payload} (h : Reordered inner p p') :
      Reordered (.nullable inner) p p'
  | list {item : FieldType} {items items' : List Payload} (hlength : items.length = items'.length)
      (h : ∀ e ∈ items.zip items', Reordered item e.1 e.2) :
      Reordered (.list item) (.array items) (.array items')
  /-- The entries of a map stay where they are, and their values are the same in this sense. -/
  | map {key : KeyType} {item : FieldType} {entries entries' : List (String × Payload)}
      (hkeys : List.Forall₂ (fun e e' => e'.1 = e.1) entries entries')
      (h : ∀ e ∈ entries.zip entries', Reordered item e.1.2 e.2.2) :
      Reordered (.map key item) (.object entries) (.object entries')
  /-- The values of fields are the same in this sense, one by one; then the entries are put in
  another order together with new ones. -/
  | record {kind : RecordKind} {entries changed extra entries' : List (String × Payload)}
      (hnodup : (entries.map Prod.fst).Nodup)
      (hkeys : List.Forall₂ (fun e e' => e'.1 = e.1) entries changed)
      (h : ∀ e ∈ entries.zip changed, ∀ f ∈ kind.fields, f.name = e.1.1 →
        Reordered f.type e.1.2 e.2.2)
      (hextra : ∀ e ∈ extra, e.1 ∉ kind.fields.map Field.name)
      (hperm : entries'.Perm (changed ++ extra)) :
      Reordered (.record kind) (.object entries) (.object entries')

theorem Reordered.null_iff {t : FieldType} {p p' : Payload} (h : Reordered t p p') :
    p = .null ↔ p' = .null := by
  induction h with
  | refl => rfl
  | nullable _ ih => exact ih
  | _ => simp

end Payload

/-- Two faults are of one kind: they differ at most in the value that they show. -/
inductive Fault.SameKind : Fault → Fault → Prop
  | refl (fault : Fault) : SameKind fault fault
  | mismatch (expected : Expectation) (given given' : Payload) :
      SameKind (.mismatch expected given) (.mismatch expected given')

namespace Decoding

variable {α β γ : Type}

/-! ## Results -/

/-- Two results have the same warnings, and the same value or faults of one kind at one place. -/
inductive Alike : Decoding α → Decoding α → Prop
  | ok (warnings : List LossyFlags) (a : α) : Alike ⟨warnings, .ok a⟩ ⟨warnings, .ok a⟩
  | refused (warnings : List LossyFlags) {fault fault' : Fault} (path : Path)
      (h : fault.SameKind fault') :
      Alike ⟨warnings, .error ⟨fault, path⟩⟩ ⟨warnings, .error ⟨fault', path⟩⟩

theorem Alike.refl (d : Decoding α) : Alike d d := by
  obtain ⟨warnings, outcome⟩ := d
  cases outcome with
  | ok a => exact .ok warnings a
  | error r => exact .refused warnings r.path (.refl r.fault)

theorem Alike.of_eq {d d' : Decoding α} (h : d = d') : Alike d d' := h ▸ .refl d

theorem Alike.map {d d' : Decoding α} (h : Alike d d') (f : α → β) : Alike (d.map f) (d'.map f) := by
  cases h with
  | ok warnings a => exact .ok warnings (f a)
  | refused warnings path h => exact .refused warnings path h

theorem Alike.under {d d' : Decoding α} (h : Alike d d') (step : Step) :
    Alike (d.under step) (d'.under step) := by
  cases h with
  | ok warnings a => exact .ok warnings a
  | refused warnings path h => exact .refused warnings (step :: path) h

theorem Alike.both {a a' : Decoding α} {b b' : Decoding β} (ha : Alike a a') (hb : Alike b b')
    (f : α → β → γ) : Alike (both f a b) (both f a' b') := by
  cases ha with
  | ok warnings x =>
    cases hb with
    | ok warnings' y => exact .ok (warnings ++ warnings') (f x y)
    | refused warnings' path h => exact .refused (warnings ++ warnings') path h
  | refused warnings path h =>
    -- the first refusal is the one that is reported, whatever the second part gives
    cases hb with
    | ok warnings' y => exact .refused (warnings ++ warnings') path h
    | refused warnings' _ _ => exact .refused (warnings ++ warnings') path h

/-- Several parts that are alike one by one are alike as one. -/
theorem alike_collect {ds ds' : List (Decoding α)} (h : List.Forall₂ Alike ds ds') :
    Alike (collect ds) (collect ds') := by
  induction h with
  | nil => exact .refl _
  | cons hd _ ih => exact hd.both ih _

/-! ## Payloads -/

variable {form : PayloadForm} {counted : List RecordKind} {name : String}

open Payload (Reordered)

/-- A field is decoded alike from the entries of two payloads if it is from the values that it has
in them. -/
theorem recordField_alike {decode decode' : RecordKind → Payload → Decoding Value}
    {entries entries' : List (String × Payload)} {f : Field}
    (h : (Entries.get? f.name entries = none ∧ Entries.get? f.name entries' = none) ∨
      ∃ q q', Entries.get? f.name entries = some q ∧ Entries.get? f.name entries' = some q' ∧
        Alike (field form decode f.name f.type q) (field form decode' f.name f.type q')) :
    Alike (recordField form decode entries f) (recordField form decode' entries' f) := by
  rw [recordField, recordField]
  obtain ⟨hnone, hnone'⟩ | ⟨q, q', hq, hq', halike⟩ := h
  · rw [hnone, hnone']
    cases f.fallback <;> exact .refl _
  · rw [hq, hq']
    exact (halike.under _).map _

/-- What is decoded for a type of values does not depend on the order of the entries of records,
nor on entries that are no fields. -/
theorem field_alike {t : FieldType} {p p' : Payload} (h : Reordered t p p') {depth depth' left : Nat}
    (hdepth : p.depth < depth) (hdepth' : p'.depth < depth') :
    Alike (field form (record form counted depth left) name t p)
      (field form (record form counted depth' left) name t p') := by
  induction h generalizing depth depth' left name with
  | refl t p =>
    refine .of_eq (field_congr_decode (fun kind q hq => ?_) name)
    exact record_depth_irrel (Nat.lt_of_le_of_lt hq hdepth) (Nat.lt_of_le_of_lt hq hdepth')
  | @nullable inner p p' h ih =>
    by_cases hp : p = .null
    · rw [hp, h.null_iff.1 hp]
      exact .refl _
    · rw [field_nullable_of_ne hp, field_nullable_of_ne (mt h.null_iff.2 hp)]
      exact ih hdepth hdepth'
  | @list item items items' hlength h ih =>
    rw [field, field]
    simp only [Payload.items?]
    refine (alike_collect (forall₂_mapIdx_mapIdx (List.forall₂_iff_zip.2 ⟨hlength, ?_⟩))).map _
    intro q q' hmem i
    have hq : q.depth < depth := Nat.lt_of_le_of_lt
      ((Payload.depth_le_of_mem_items (List.of_mem_zip hmem).1).trans (Nat.le_succ _)) hdepth
    have hq' : q'.depth < depth' := Nat.lt_of_le_of_lt
      ((Payload.depth_le_of_mem_items (List.of_mem_zip hmem).2).trans (Nat.le_succ _)) hdepth'
    exact (ih _ hmem hq hq').under _
  | @map key item entries entries' hkeys h ih =>
    rw [field, field]
    refine (alike_collect ?_).map _
    rw [List.forall₂_map_left_iff, List.forall₂_map_right_iff]
    refine List.forall₂_iff_zip.2 ⟨hkeys.length_eq, fun {e e'} hmem => ?_⟩
    have hkey : e'.1 = e.1 := (List.forall₂_iff_zip.1 hkeys).2 hmem
    have hq := (Payload.depth_lt_of_mem_object (List.of_mem_zip hmem).1).trans hdepth
    have hq' := (Payload.depth_lt_of_mem_object (List.of_mem_zip hmem).2).trans hdepth'
    rw [hkey]
    exact (Alike.refl _).both ((ih _ hmem hq hq').under _) _
  | @record kind entries changed extra entries' hnodup hkeys h hextra hperm ih =>
    obtain ⟨depth, rfl⟩ := Nat.exists_eq_add_one_of_ne_zero (Nat.ne_zero_of_lt hdepth)
    obtain ⟨depth', rfl⟩ := Nat.exists_eq_add_one_of_ne_zero (Nat.ne_zero_of_lt hdepth')
    rw [field, field, record, record, recordEntries?, recordEntries?]
    cases Nesting.enter counted kind left with
    | none => exact .refused [] [] (.mismatch _ _ _)
    | some left' =>
      refine (alike_collect ?_).map _
      rw [List.forall₂_map_left_iff, List.forall₂_map_right_iff, List.forall₂_same]
      intro f hf
      apply recordField_alike
      have hchanged : (changed.map Prod.fst).Nodup := by
        rwa [← map_eq_map_iff_forall₂.2 (hkeys.imp fun _ _ h => h.symm)]
      have hname : f.name ∉ extra.map Prod.fst := by
        intro hmem
        obtain ⟨e, he, hname⟩ := List.mem_map.1 hmem
        exact hextra e he (hname ▸ List.mem_map_of_mem hf)
      let Same (key : String) (q q' : Payload) : Prop := f.name = key →
        Alike (field form (record form counted depth left') f.name f.type q)
          (field form (record form counted depth' left') f.name f.type q')
      have hvalues : List.Forall₂ (fun e e' => e'.1 = e.1 ∧ Same e.1 e.2 e'.2)
          entries changed := by
        refine List.forall₂_iff_zip.2 ⟨hkeys.length_eq, fun {e e'} hmem => ?_⟩
        refine ⟨(List.forall₂_iff_zip.1 hkeys).2 hmem, fun hkey => ih _ hmem f hf hkey ?_ ?_⟩
        · have hlt := Payload.depth_lt_of_mem_object (List.of_mem_zip hmem).1
          exact Nat.lt_of_lt_of_le hlt (Nat.le_of_lt_succ hdepth)
        · have he' : e' ∈ entries' :=
            hperm.mem_iff.2 (List.mem_append_left _ (List.of_mem_zip hmem).2)
          have hlt := Payload.depth_lt_of_mem_object he'
          exact Nat.lt_of_lt_of_le hlt (Nat.le_of_lt_succ hdepth')
      rw [Entries.get?_of_perm hperm hchanged hname]
      obtain hnone | ⟨q, q', hq, hq', halike⟩ := forall₂_get? (R := Same) hvalues f.name
      · exact .inl hnone
      · exact .inr ⟨q, q', hq, hq', halike rfl⟩

/-- The same holds of a payload for a record, whatever its depth. -/
theorem record_alike {kind : RecordKind} {p p' : Payload} (h : Reordered (.record kind) p p')
    (left : Nat) : Alike (record form counted (p.depth + 1) left kind p)
      (record form counted (p'.depth + 1) left kind p') := by
  have halike : Alike (field form (record form counted (p.depth + 1) left) "" (.record kind) p)
      (field form (record form counted (p'.depth + 1) left) "" (.record kind) p') :=
    field_alike h (Nat.lt_succ_self p.depth) (Nat.lt_succ_self p'.depth)
  rwa [field, field] at halike

end Decoding

namespace Record

open Decoding (Alike)

/-- What comes of a payload does not depend on the order of the keys in the objects that are decoded
as records, at any depth, nor on keys among them that are no names of fields. There is the same
record, which is written the same, with the same warnings; or there is a fault of the same kind at
the same place, with the same warnings before it. -/
theorem decode_reordered {form : PayloadForm} {kind : RecordKind} {p p' : Payload}
    (h : Payload.Reordered (.record kind) p p') :
    (∃ warnings r r', decode form kind p = ⟨warnings, .ok r⟩ ∧
        decode form kind p' = ⟨warnings, .ok r'⟩ ∧
        r' = r ∧ ∀ indent, r'.encodeText indent = r.encodeText indent) ∨
      ∃ warnings r r', decode form kind p = ⟨warnings, .error r⟩ ∧
        decode form kind p' = ⟨warnings, .error r'⟩ ∧
        r.fault.SameKind r'.fault ∧ r'.path = r.path := by
  have halike : Alike (decode form kind p) (decode form kind p') := by
    rw [decode_eq, decode_eq]
    exact (Decoding.record_alike h Nesting.limit).map _
  generalize decode form kind p = d, decode form kind p' = d' at halike
  cases halike with
  | ok warnings r => exact .inl ⟨warnings, r, r, rfl, rfl, rfl, fun _ => rfl⟩
  | refused warnings path hfault =>
    exact .inr ⟨warnings, _, _, rfl, rfl, hfault, rfl⟩

set_option maxRecDepth 2000 in
/-- The keys of an activity and of the times within it come in another order, among others; the
warning about its flags stays the same. -/
theorem decode_reordered_of_activity :
    let times := [("start", Payload.integer 1), ("end", .integer 2)]
    let times' := [("end", Payload.integer 2), ("zone", .array []), ("start", .integer 1)]
    let p := Payload.object [("name", .string "g"), ("timestamps", .object times),
      ("flags", .string "-1")]
    let p' := Payload.object [("flags", .string "-1"), ("timestamps", .object times'),
      ("name", .string "g")]
    Payload.Reordered (.record .activity) p p' ∧
      ∃ warnings r, decode .mapping .activity p = ⟨warnings, .ok r⟩ ∧
        decode .mapping .activity p' = ⟨warnings, .ok r⟩ ∧ warnings ≠ [] := by
  intro times times' p p'
  have htimes : Payload.Reordered (.record .activityTimestamps) (.object times)
      (.object times') := by
    refine @Payload.Reordered.record _ times times [("zone", .array [])] times' (by decide)
      (List.forall₂_same.2 fun _ _ => rfl) (fun e he f _ _ => ?_) (by decide) ?_
    · obtain ⟨i, hi, rfl⟩ := List.mem_iff_getElem.1 he
      rw [List.getElem_zip]
      exact .refl _ _
    · exact @List.perm_append_comm _ [("end", Payload.integer 2), ("zone", .array [])]
        [("start", .integer 1)]
  have h : Payload.Reordered (.record .activity) p p' := by
    let changed := [("name", Payload.string "g"), ("timestamps", .object times'),
      ("flags", .string "-1")]
    refine @Payload.Reordered.record _ _ changed [] _ (by decide)
      (.cons rfl (.cons rfl (.cons rfl .nil))) (fun e he f hf hname => ?_) (by simp)
      (List.reverse_perm changed)
    simp only [changed, List.zip_cons_cons, List.zip_nil_left, List.mem_cons, List.not_mem_nil,
      or_false] at he
    obtain rfl | rfl | rfl := he
    · exact .refl _ _
    · have hmem : Field.optional "timestamps" (.record .activityTimestamps) ∈
          RecordKind.activity.fields := by simp [RecordKind.fields, Catalog.activity]
      obtain rfl := List.inj_on_of_nodup_map RecordKind.activity.nodup_names hf hmem hname
      exact .nullable htimes
    · exact .refl _ _
  obtain ⟨warnings, r, hr, hwarnings⟩ : ∃ warnings r,
      decode .mapping .activity p = ⟨warnings, .ok r⟩ ∧ warnings ≠ [] := ⟨_, _, rfl, by decide⟩
  refine ⟨h, warnings, r, hr, ?_, hwarnings⟩
  obtain ⟨_, _, _, hp, hp', rfl, -⟩ | ⟨_, _, _, hp, -⟩ := decode_reordered h
  · rw [hp', ← hp, hr]
  · cases hr.symm.trans hp

end Record
end ChatRecords
