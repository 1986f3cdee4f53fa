import ChatRecords.Proofs.Record.Leaves
import ChatRecords.Proofs.Record.Parts
import ChatRecords.Proofs.Record.Payload

/-!
# The two forms of a mask

A mask may come as an integer or as its decimal text. What is decoded does not depend on which of
the two stands anywhere in a payload.

## Main definitions

* `Payload.IsMask`: a payload is a mask in one of its forms.
* `Payload.SameMasks`: two payloads differ at most in the forms of masks.

## Main results

* `Payload.isMask_toString`: the decimal text of an integer is a form of it.
* `Conversion.flags_of_isMask`: a flag set depends on the mask alone.
* `Decoding.decode_congr`: so does a record, on its masks alone.
-/

namespace ChatRecords
namespace Payload

/-- A payload is a mask: an integer, or digits after an optional minus sign, no more of them than
are read as a number. -/
inductive IsMask : Payload → Int → Prop
  | integer (m : Int) : IsMask (.integer m) m
  | digits {ds : List Char} (hne : ds ≠ []) (hds : Text.AllDigits ds)
      (hlength : ds.length ≤ Text.digitLimit) :
      IsMask (.string (String.ofList ds)) (Text.natOfDigits ds)
  | minus {ds : List Char} (hne : ds ≠ []) (hds : Text.AllDigits ds)
      (hlength : ds.length ≤ Text.digitLimit) :
      IsMask (.string (String.ofList ('-' :: ds))) (-(Text.natOfDigits ds))

/-- The decimal text of an integer that fits in a word is a form of it. -/
theorem isMask_toString {m : Int} (h : FlagSet.FitsWord m) : IsMask (.string (toString m)) m := by
  have hds := Text.allDigits_toDigits m.natAbs
  have hne : Nat.toDigits 10 m.natAbs ≠ [] := Nat.toDigits_ne_nil
  have hlength : (Nat.toDigits 10 m.natAbs).length ≤ Text.digitLimit := length_toDigits_of_fitsInteger h
  have htext := Text.toList_toString_int m
  have hof : toString m = String.ofList (toString m).toList := String.ofList_toList.symm
  rw [hof, htext]
  split
  · next hneg =>
    have hm : m = -(Text.natOfDigits (Nat.toDigits 10 m.natAbs) : Int) := by
      rw [Text.natOfDigits_toDigits]
      omega
    conv => rhs; rw [hm]
    exact .minus hne hds hlength
  · next hpos =>
    have hm : m = (Text.natOfDigits (Nat.toDigits 10 m.natAbs) : Int) := by
      rw [Text.natOfDigits_toDigits]
      omega
    conv => rhs; rw [hm]
    exact .digits hne hds hlength

/-- Two payloads for a type of values are the same but for the forms of masks. -/
inductive SameMasks : FieldType → Payload → Payload → Prop
  | refl (t : FieldType) (p : Payload) : SameMasks t p p
  | mask {c : FlagClass} {p p' : Payload} {m : Int} (h : IsMask p m) (h' : IsMask p' m) :
      SameMasks (.flags c) p p'
  /-- The payloads for a type that allows nothing are the same in this sense. -/
  | nullable {inner : FieldType} {p p' : Payload} (h : SameMasks inner p p') :
      SameMasks (.nullable inner) p p'
  | list {item : FieldType} {items items' : List Payload} (hlength : items.length = items'.length)
      (h : ∀ e ∈ items.zip items', SameMasks item e.1 e.2) :
      SameMasks (.list item) (.array items) (.array items')
  /-- The values of entries are, one by one. -/
  | map {key : KeyType} {item : FieldType} {entries entries' : List (String × Payload)}
      (hkeys : List.Forall₂ (fun e e' => e'.1 = e.1) entries entries')
      (h : ∀ e ∈ entries.zip entries', SameMasks item e.1.2 e.2.2) :
      SameMasks (.map key item) (.object entries) (.object entries')
  /-- The values of fields are, one by one, and other entries are the same. -/
  | record {kind : RecordKind} {entries entries' : List (String × Payload)}
      (hkeys : List.Forall₂ (fun e e' => e'.1 = e.1) entries entries')
      (h : ∀ e ∈ entries.zip entries', ∀ f ∈ kind.fields, f.name = e.1.1 →
        SameMasks f.type e.1.2 e.2.2)
      (hrest : ∀ e ∈ entries.zip entries', e.1.1 ∉ kind.fields.map Field.name → e.1.2 = e.2.2) :
      SameMasks (.record kind) (.object entries) (.object entries')

theorem IsMask.depth_eq {p : Payload} {m : Int} (h : IsMask p m) : p.depth = 0 := by
  cases h <;> rfl

theorem IsMask.ne_null {p : Payload} {m : Int} (h : IsMask p m) : p ≠ .null := by
  cases h <;> simp

theorem SameMasks.null_iff {t : FieldType} {p p' : Payload} (h : SameMasks t p p') :
    p = .null ↔ p' = .null := by
  induction h with
  | refl => rfl
  | mask h h' => simp [h.ne_null, h'.ne_null]
  | nullable _ ih => exact ih
  | _ => simp

theorem depthItems_congr {items items' : List Payload}
    (h : List.Forall₂ (fun p p' => p'.depth = p.depth) items items') :
    depthItems items' = depthItems items := by
  induction h with
  | nil => rfl
  | cons hp _ ih => rw [depthItems, depthItems, hp, ih]

theorem depthEntries_congr {entries entries' : List (String × Payload)}
    (h : List.Forall₂ (fun e e' => e'.2.depth = e.2.depth) entries entries') :
    depthEntries entries' = depthEntries entries := by
  induction h with
  | nil => rfl
  | cons hp _ ih => rw [depthEntries, depthEntries, hp, ih]

theorem SameMasks.depth_eq {t : FieldType} {p p' : Payload} (h : SameMasks t p p') :
    p'.depth = p.depth := by
  induction h with
  | refl => rfl
  | mask h h' => rw [h.depth_eq, h'.depth_eq]
  | nullable _ ih => exact ih
  | list hlength _ ih =>
    rw [depth, depth, depthItems_congr]
    exact List.forall₂_iff_zip.2 ⟨hlength, fun hmem => ih _ hmem⟩
  | map hkeys _ ih =>
    rw [depth, depth, depthEntries_congr]
    exact List.forall₂_iff_zip.2 ⟨hkeys.length_eq, fun hmem => ih _ hmem⟩
  | @record kind entries entries' hkeys _ hrest ih =>
    rw [depth, depth, depthEntries_congr]
    refine List.forall₂_iff_zip.2 ⟨hkeys.length_eq, fun {e e'} hmem => ?_⟩
    by_cases hname : e.1 ∈ kind.fields.map Field.name
    · obtain ⟨f, hf, hfname⟩ := List.mem_map.1 hname
      exact ih _ hmem f hf hfname
    · rw [hrest _ hmem hname]

end Payload

namespace Conversion

open Payload (IsMask)

theorem signedDecimal?_digits {ds : List Char} (hne : ds ≠ []) (hds : Text.AllDigits ds) :
    signedDecimal? (String.ofList ds) = some ((Text.natOfDigits ds : Int), ds.length) := by
  have hhead : ds.head? ≠ some '-' := by
    intro hhead
    have := hds '-' (List.mem_of_mem_head? hhead)
    simp [Text.isAsciiDigit_eq] at this
  simp [signedDecimal?, String.toList_ofList, hhead, hne, hds.all]

theorem signedDecimal?_minus {ds : List Char} (hne : ds ≠ []) (hds : Text.AllDigits ds) :
    signedDecimal? (String.ofList ('-' :: ds)) = some (-(Text.natOfDigits ds : Int), ds.length) := by
  simp [signedDecimal?, String.toList_ofList, hne, hds.all]

/-- The flag set of a mask depends on the mask alone. -/
theorem flags_of_isMask {c : FlagClass} {p : Payload} {m : Int} (h : IsMask p m)
    {r : FlagSet × Bool} : flags c p = .ok r ↔ FlagSet.ofMask c m true = .ok r := by
  cases h with
  | integer => exact flagsOfMask_ok_iff
  | digits hne hds hlength =>
    simp only [flags, signedDecimal?_digits hne hds, if_neg (Nat.not_lt.2 hlength)]
    exact flagsOfMask_ok_iff
  | minus hne hds hlength =>
    simp only [flags, signedDecimal?_minus hne hds, if_neg (Nat.not_lt.2 hlength)]
    exact flagsOfMask_ok_iff

end Conversion

namespace Decoding

open Payload (SameMasks)

variable {form : PayloadForm} {counted : List RecordKind}

theorem mapIdx_congr {α β : Type} {f : Nat → α → β} {xs ys : List α}
    (h : List.Forall₂ (fun x y => ∀ i, f i y = f i x) xs ys) : ys.mapIdx f = xs.mapIdx f := by
  induction xs generalizing f ys with
  | nil =>
    cases h
    rfl
  | cons x xs ih =>
    obtain _ | ⟨hx, hrest⟩ := h
    rw [List.mapIdx_cons, List.mapIdx_cons, hx 0, ih (hrest.imp fun _ _ hy i => hy (i + 1))]

theorem map_congr {α β : Type} {f : α → β} {xs ys : List α}
    (h : List.Forall₂ (fun x y => f y = f x) xs ys) : ys.map f = xs.map f :=
  map_eq_map_iff_forall₂.2 h.flip

/-- A payload that is decoded for a field of a kind gives what another does. -/
def DecodedAlike (form : PayloadForm) (decode : RecordKind → Payload → Decoding Value)
    (kind : RecordKind) (name : String) (p p' : Payload) : Prop :=
  ∀ f ∈ kind.fields, f.name = name → ∀ v, (field form decode f.name f.type p).outcome = .ok v →
    field form decode f.name f.type p' = field form decode f.name f.type p

/-- What is decoded for a type of values depends on the masks in the payload and not on their
forms. -/
theorem field_congr {t : FieldType} {p p' : Payload} (h : SameMasks t p p') {depth left : Nat}
    {name : String} {v : Value}
    (hok : (field form (record form counted depth left) name t p).outcome = .ok v) :
    field form (record form counted depth left) name t p' =
      field form (record form counted depth left) name t p := by
  induction h generalizing depth left name v with
  | refl => rfl
  | @mask c p p' m h h' =>
    rw [field, flags] at hok
    split at hok
    · next r hr =>
      have hmask := (Conversion.flags_of_isMask h).1 hr
      rw [field, field, flags, flags, hr, (Conversion.flags_of_isMask h').2 hmask]
    · simp at hok
  | @nullable inner p p' h ih =>
    rcases field_nullable_ok hok with ⟨rfl, -⟩ | ⟨hne, hinner⟩
    · rw [h.null_iff.1 rfl]
    · rw [field_nullable_of_ne hne, field_nullable_of_ne (mt h.null_iff.2 hne)]
      exact ih hinner
  | @list item items items' hlength h ih =>
    obtain ⟨_, vs, ⟨⟩, rfl, hvs⟩ := field_list_ok hok
    rw [field, field]
    simp only [Payload.items?]
    rw [mapIdx_congr (List.forall₂_iff_zip.2 ⟨hlength, fun {q q'} hmem i => ?_⟩)]
    -- the item was decoded, so that the other one gives the same
    obtain ⟨w, -, hw⟩ := exists_right_of_forall₂ hvs (List.of_mem_zip hmem).1
    rw [ih _ hmem hw]
  | @map key item entries entries' hkeys h ih =>
    obtain ⟨_, kvs, ⟨⟩, rfl, hkvs⟩ := field_map_ok hok
    rw [field, field, map_congr (List.forall₂_iff_zip.2 ⟨hkeys.length_eq, fun {e e'} hmem => ?_⟩)]
    have hkey := (List.forall₂_iff_zip.1 hkeys).2 hmem
    obtain ⟨kv, -, -, hkv⟩ := exists_right_of_forall₂ hkvs (List.of_mem_zip hmem).1
    rw [hkey, ih _ hmem hkv]
  | @record kind entries entries' hkeys h hrest ih =>
    obtain ⟨depth', left', _, fields, rfl, hleft, ⟨⟩, -, hfields⟩ := record_ok hok
    have hentries : List.Forall₂ (fun e e' => e'.1 = e.1 ∧
        DecodedAlike form (record form counted depth' left') kind e.1 e.2 e'.2) entries entries' := by
      refine List.forall₂_iff_zip.2 ⟨hkeys.length_eq, fun {e e'} hmem => ?_⟩
      exact ⟨(List.forall₂_iff_zip.1 hkeys).2 hmem, fun f hf hname v hv => ih _ hmem f hf hname hv⟩
    have hsame : ∀ f ∈ kind.fields,
        recordField form (record form counted depth' left') entries' f =
          recordField form (record form counted depth' left') entries f := by
      intro f hf
      obtain ⟨e, -, -, hholds⟩ := exists_right_of_forall₂ hfields hf
      -- a field is missing in both payloads or in neither
      rcases forall₂_get? hentries f.name with ⟨hnone, hnone'⟩ | ⟨q, q', hq, hq', hsame⟩
      · rw [recordField, recordField, hnone, hnone']
      · obtain ⟨_, hget, hvalue⟩ | ⟨hnone, -⟩ := hholds
        · obtain rfl := Option.some.inj (hq.symm.trans hget)
          rw [recordField, recordField, hq, hq']
          dsimp only
          rw [hsame f hf rfl _ hvalue]
        · simp [hq] at hnone
    rw [field, field, record, record, hleft, recordEntries?, recordEntries?]
    simp only [List.map_congr_left hsame]

/-- A record depends on the masks in its payload and not on their forms. -/
theorem decode_congr {kind : RecordKind} {p p' : Payload} (h : SameMasks (.record kind) p p')
    {r : Record} (hok : (Record.decode form kind p).outcome = .ok r) :
    Record.decode form kind p' = Record.decode form kind p := by
  have hrecord : field form (record form (Decoding.counted form kind p) (p.depth + 1)
      Nesting.limit) "" (.record kind) p' = field form (record form (Decoding.counted form kind p)
      (p.depth + 1) Nesting.limit) "" (.record kind) p := field_congr h (decode_ok hok).1
  rw [field, field] at hrecord
  rw [Record.decode, Record.decode, Decoding.counted, h.depth_eq, ← Decoding.counted, hrecord]

end Decoding
end ChatRecords
