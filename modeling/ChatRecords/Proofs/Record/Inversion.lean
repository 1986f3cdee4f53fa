import ChatRecords.Record.Decoder
import Mathlib.Data.List.Forall2

/-!
# What a successful decoding went through

A list, a map or a record is decoded only if all its parts are. For each shape of field there is
one theorem that says which parts these are and what is made of them.

## Main results

* `Decoding.collect_ok_iff`, `Decoding.collect_eq`: several parts as one.
* `Decoding.field_list_ok`, `Decoding.field_map_ok`, `Decoding.field_nullable_ok`,
  `Decoding.record_ok`: the values with parts.
* `Decoding.decode_ok`: a whole record.
-/

namespace ChatRecords
namespace Decoding

variable {α β γ : Type}

/-! ## Results -/

theorem map_ok_iff {f : α → β} {d : Decoding α} {b : β} :
    (d.map f).outcome = .ok b ↔ ∃ a, d.outcome = .ok a ∧ f a = b := by
  obtain ⟨warnings, outcome⟩ := d
  cases outcome <;> simp [Decoding.map, Except.map]

theorem under_ok_iff {step : Step} {d : Decoding α} {a : α} :
    (d.under step).outcome = .ok a ↔ d.outcome = .ok a := by
  obtain ⟨warnings, outcome⟩ := d
  cases outcome <;> simp [under, Except.mapError]

/-- A result that is a value looks the same from everywhere. -/
theorem under_eq (step : Step) (warnings : List LossyFlags) (a : α) :
    (⟨warnings, .ok a⟩ : Decoding α).under step = ⟨warnings, .ok a⟩ := rfl

theorem both_ok_iff {f : α → β → γ} {a : Decoding α} {b : Decoding β} {c : γ} :
    (both f a b).outcome = .ok c ↔ ∃ x y, a.outcome = .ok x ∧ b.outcome = .ok y ∧ f x y = c := by
  obtain ⟨_, x⟩ := a
  obtain ⟨_, y⟩ := b
  cases x <;> cases y <;> simp [both]

theorem ofConversion_ok_iff {r : Except Fault α} {a : α} :
    (ofConversion r).outcome = .ok a ↔ r = .ok a := by
  cases r <;> simp [ofConversion, ok, failed, refused]

@[simp] theorem outcome_ok (a : α) : (ok a).outcome = .ok a := rfl

@[simp] theorem outcome_failed (fault : Fault) :
    (failed fault : Decoding α).outcome = .error ⟨fault, []⟩ := rfl

@[simp] theorem outcome_refused (r : Refusal) : (refused r : Decoding α).outcome = .error r := rfl

/-- Several parts are decoded if each of them is. -/
theorem collect_ok_iff {ds : List (Decoding α)} {as : List α} :
    (collect ds).outcome = .ok as ↔ List.Forall₂ (fun d a => d.outcome = .ok a) ds as := by
  induction ds generalizing as with
  | nil => simp [collect, eq_comm]
  | cons d ds ih =>
    simp only [collect, both_ok_iff, List.forall₂_cons_left_iff]
    constructor
    · rintro ⟨a, as', ha, has, rfl⟩
      exact ⟨a, as', ha, ih.1 has, rfl⟩
    · rintro ⟨a, as', ha, has, rfl⟩
      exact ⟨a, as', ha, ih.2 has, rfl⟩

/-- The results of parts that are decoded, with their warnings, as one. -/
theorem collect_eq {ds : List (Decoding α)} {bs : List β} {warnings : β → List LossyFlags}
    {f : β → α} (h : List.Forall₂ (fun d b => d = ⟨warnings b, .ok (f b)⟩) ds bs) :
    collect ds = ⟨bs.flatMap warnings, .ok (bs.map f)⟩ := by
  induction h with
  | nil => rfl
  | cons hd _ ih =>
    rw [collect, hd, ih]
    rfl

theorem forall₂_mapIdx {R : β → γ → Prop} {f : Nat → α → β} {xs : List α} {ys : List γ}
    (h : List.Forall₂ R (xs.mapIdx f) ys) : List.Forall₂ (fun x y => ∃ i, R (f i x) y) xs ys := by
  induction xs generalizing f ys with
  | nil =>
    cases h
    exact .nil
  | cons x xs ih =>
    rw [List.mapIdx_cons] at h
    obtain _ | ⟨hx, hrest⟩ := h
    refine .cons ⟨0, hx⟩ ((ih hrest).imp ?_)
    rintro y z ⟨i, hi⟩
    exact ⟨i + 1, hi⟩

theorem forall₂_mapIdx_mapIdx {δ : Type} {R : β → γ → Prop} {f : Nat → α → β} {g : Nat → δ → γ}
    {xs : List α} {ys : List δ} (h : List.Forall₂ (fun x y => ∀ i, R (f i x) (g i y)) xs ys) :
    List.Forall₂ R (xs.mapIdx f) (ys.mapIdx g) := by
  induction xs generalizing f g ys with
  | nil =>
    cases h
    exact .nil
  | cons x xs ih =>
    obtain _ | ⟨hxy, hrest⟩ := h
    rw [List.mapIdx_cons, List.mapIdx_cons]
    exact .cons (hxy 0) (ih (hrest.imp fun _ _ hxy i => hxy (i + 1)))

theorem forall₂_mapIdx_of {R : β → γ → Prop} {f : Nat → α → β} {xs : List α} {ys : List γ}
    (h : List.Forall₂ (fun x y => ∀ i, R (f i x) y) xs ys) :
    List.Forall₂ R (xs.mapIdx f) ys := by
  have hys : ys.mapIdx (fun _ y => y) = ys := List.ext_getElem? fun i => by simp
  rw [← hys]
  exact forall₂_mapIdx_mapIdx h

/-! ## Values with parts -/

variable {form : PayloadForm} {decode : RecordKind → Payload → Decoding Value} {name : String}

/-- A list is decoded item by item. -/
theorem field_list_ok {item : FieldType} {p : Payload} {v : Value}
    (h : (field form decode name (.list item) p).outcome = .ok v) :
    ∃ items vs, p.items? = some items ∧ v = .list vs ∧
      List.Forall₂ (fun q w => (field form decode name item q).outcome = .ok w) items vs := by
  rw [field] at h
  split at h
  · next items hitems =>
    obtain ⟨vs, hvs, rfl⟩ := map_ok_iff.1 h
    refine ⟨items, vs, hitems, rfl, ?_⟩
    refine (forall₂_mapIdx (collect_ok_iff.1 hvs)).imp ?_
    rintro q w ⟨i, hw⟩
    exact under_ok_iff.1 hw
  · simp at h

theorem mapKey_ok_iff {type : KeyType} {key : String} {k : MapKey} :
    (mapKey type key).outcome = .ok k ↔ Conversion.mapKey type key = .ok k := by
  rw [mapKey]
  split <;> simp_all

/-- A map is decoded entry by entry; an entry that comes again replaces the one before. -/
theorem field_map_ok {key : KeyType} {item : FieldType} {p : Payload} {v : Value}
    (h : (field form decode name (.map key item) p).outcome = .ok v) :
    ∃ entries kvs, p = .object entries ∧ v = .map (Entries.settle kvs) ∧
      List.Forall₂ (fun e kv => Conversion.mapKey key e.1 = .ok kv.1 ∧
        (field form decode name item e.2).outcome = .ok kv.2) entries kvs := by
  unfold field at h
  split at h
  · next entries =>
    obtain ⟨kvs, hkvs, rfl⟩ := map_ok_iff.1 h
    refine ⟨entries, kvs, rfl, rfl, ?_⟩
    refine (List.forall₂_map_left_iff.1 (collect_ok_iff.1 hkvs)).imp ?_
    intro e kv hkv
    obtain ⟨k, w, hk, hw, rfl⟩ := both_ok_iff.1 hkv
    exact ⟨mapKey_ok_iff.1 hk, under_ok_iff.1 hw⟩
  · simp at h

/-- A value that may be nothing is nothing only where the payload is `null`. -/
theorem field_nullable_ok {inner : FieldType} {p : Payload} {v : Value}
    (h : (field form decode name (.nullable inner) p).outcome = .ok v) :
    (p = .null ∧ v = .null) ∨ (p ≠ .null ∧ (field form decode name inner p).outcome = .ok v) := by
  unfold field at h
  split at h
  · exact .inl ⟨rfl, (Except.ok.inj h).symm⟩
  · next hp => exact .inr ⟨hp, h⟩

theorem field_nullable_of_ne {inner : FieldType} {p : Payload} (h : p ≠ .null) :
    field form decode name (.nullable inner) p = field form decode name inner p := by
  rw [field]
  exact h

/-- What a field of a record holds: what its entry is decoded as, else its fallback. -/
def FieldHolds (form : PayloadForm) (decode : RecordKind → Payload → Decoding Value)
    (entries : List (String × Payload)) (f : Field) (v : Value) : Prop :=
  (∃ q, Entries.get? f.name entries = some q ∧
    (field form decode f.name f.type q).outcome = .ok v) ∨
  (Entries.get? f.name entries = none ∧ f.fallback = some v)

theorem recordField_ok {entries : List (String × Payload)} {f : Field} {e : String × Value}
    (h : (recordField form decode entries f).outcome = .ok e) :
    e.1 = f.name ∧ FieldHolds form decode entries f e.2 := by
  rw [recordField] at h
  split at h
  · next q hq =>
    obtain ⟨v, hv, rfl⟩ := map_ok_iff.1 h
    exact ⟨rfl, .inl ⟨q, hq, under_ok_iff.1 hv⟩⟩
  · next v hnone hfallback =>
    rw [← Except.ok.inj h]
    exact ⟨rfl, .inr ⟨hnone, hfallback⟩⟩
  · simp at h

/-- The fields of a record after its unknown bits were dropped, unless its kind keeps them. -/
def ownFields (kind : RecordKind) (fields : List (String × Value)) : List (String × Value) :=
  if kind.keepsUnknownBits then fields else fields.map fun f => (f.1, dropUnknownBits f.2)

/-- A value as a record of a kind holds it. -/
def ownValue (kind : RecordKind) (v : Value) : Value :=
  if kind.keepsUnknownBits then v else dropUnknownBits v

theorem ownFields_eq (kind : RecordKind) (fields : List (String × Value)) :
    ownFields kind fields = fields.map fun f => (f.1, ownValue kind f.2) := by
  unfold ownFields ownValue
  split
  · exact (List.map_id _).symm
  · rfl

theorem ownValue_of_dropUnknownBits {kind : RecordKind} {v : Value} (h : dropUnknownBits v = v) :
    ownValue kind v = v := by
  rw [ownValue, h, ite_self]

/-- A record is decoded field by field. -/
theorem record_ok {counted : List RecordKind} {depth left : Nat} {kind : RecordKind}
    {p : Payload} {v : Value} (h : (record form counted depth left kind p).outcome = .ok v) :
    ∃ depth' left' entries fields, depth = depth' + 1 ∧
      Nesting.enter counted kind left = some left' ∧ recordEntries? kind p = some entries ∧
      v = .record kind (ownFields kind fields) ∧
      List.Forall₂ (fun f e => e.1 = f.name ∧
        FieldHolds form (record form counted depth' left') entries f e.2) kind.fields fields := by
  cases depth with
  | zero => simp [record] at h
  | succ depth =>
    rw [record] at h
    split at h
    · simp at h
    · simp at h
    · next left' entries hleft hentries =>
      obtain ⟨fields, hfields, rfl⟩ := map_ok_iff.1 h
      refine ⟨depth, left', entries, fields, rfl, hleft, hentries, rfl, ?_⟩
      refine (List.forall₂_map_left_iff.1 (collect_ok_iff.1 hfields)).imp ?_
      intro f e he
      exact recordField_ok he

/-- What a payload is decoded as is a record of the kind. -/
theorem decode_ok {kind : RecordKind} {p : Payload} {r : Record}
    (h : (Record.decode form kind p).outcome = .ok r) :
    (record form (counted form kind p) (p.depth + 1) Nesting.limit kind p).outcome =
      .ok r.toValue ∧ r.kind = kind := by
  rw [Record.decode, asRecord] at h
  obtain ⟨v, hv, rfl⟩ := map_ok_iff.1 h
  obtain ⟨_, _, _, fields, -, -, -, rfl, -⟩ := record_ok hv
  exact ⟨hv, rfl⟩

end Decoding
end ChatRecords
