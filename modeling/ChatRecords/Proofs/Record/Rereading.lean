import ChatRecords.Proofs.Record.Fits

/-!
# Records as they are read back

A value of any type keeps the decoded parts that it was given, and what it is written as does not
tell them from numbers and objects. So a record with such parts is not read back as itself: what is
read back holds the JSON values in their places. It is written as the record is.

## Main definitions

* `Value.reread`, `Record.reread`: a value or a record as it is read back.
* `Record.HasPlainValues`: no value of any type in a record holds decoded parts.

## Main results

* `Value.encode_reread`, `Record.encode_reread`: what is read back is written alike.
* `Record.reread_eq_self`: records without decoded parts in such values are read back as they are.
-/

namespace ChatRecords
namespace Payload

/-- A value of any type as it is read back, if it can be written. -/
def reread (p : Payload) : Payload := (p.wire?.map ofJson).getD p

theorem reread_of_wire? {p : Payload} {j : Json} (h : p.wire? = some j) : p.reread = ofJson j := by
  rw [reread, h]
  rfl

theorem reread_of_wire?_eq_none {p : Payload} (h : p.wire? = none) : p.reread = p := by
  rw [reread, h]
  rfl

theorem wire?_reread (p : Payload) : p.reread.wire? = p.wire? := by
  cases h : p.wire? with
  | none => rw [reread_of_wire?_eq_none h, h]
  | some j => rw [reread_of_wire? h, wire?_ofJson]

theorem reread_reread (p : Payload) : p.reread.reread = p.reread := by
  cases h : p.wire? with
  | none => rw [reread_of_wire?_eq_none h, reread_of_wire?_eq_none h]
  | some j => rw [reread_of_wire? (p.wire?_reread.trans h), reread_of_wire? h]

theorem IsPlain.reread_eq_self {p : Payload} (h : p.IsPlain) : p.reread = p := by
  cases hj : p.wire? with
  | none => exact reread_of_wire?_eq_none hj
  | some j => rw [reread_of_wire? hj, h.eq_ofJson hj]

theorem IsSettled.reread {p : Payload} (h : p.IsSettled) : p.reread.IsSettled := by
  cases hj : p.wire? with
  | none => rwa [reread_of_wire?_eq_none hj]
  | some j =>
    rw [reread_of_wire? hj]
    exact h.ofJson hj

theorem reread_eq_null {p : Payload} (h : p.reread = .null) : p = .null := by
  refine wire?_eq_null ?_
  rw [← wire?_reread, h]
  rfl

theorem levelsOfItems_mono {items : List Payload} {js : List Json}
    (h : List.Forall₂ (fun p j => (ofJson j).levels ≤ p.levels) items js) :
    levelsOfItems (ofItems js) ≤ levelsOfItems items := by
  induction h with
  | nil => exact le_rfl
  | cons h _ ih => exact max_le_max h ih

theorem levelsOfEntries_mono {entries : List (String × Payload)} {es : List (String × Json)}
    (h : List.Forall₂ (fun e j => (ofJson j.2).levels ≤ e.2.levels) entries es) :
    levelsOfEntries (ofEntries es) ≤ levelsOfEntries entries := by
  induction h with
  | nil => exact le_rfl
  | cons h _ ih => exact max_le_max h ih

/-- What is read back has no more levels than what was written. -/
theorem levels_ofJson_le {p : Payload} {j : Json} (h : p.wire? = some j) :
    (ofJson j).levels ≤ p.levels := by
  induction p using Payload.induction generalizing j with
  | array items ih =>
    obtain ⟨js, rfl, hjs⟩ := wire?_array_eq_some h
    exact Nat.succ_le_succ (levelsOfItems_mono ((forall₂_mem hjs).imp fun q j h => ih q h.1 h.2.2))
  | object entries ih =>
    obtain ⟨es, rfl, hes⟩ := wire?_object_eq_some h
    exact Nat.succ_le_succ
      (levelsOfEntries_mono ((forall₂_mem hes).imp fun e j h => ih e h.1 h.2.2.2))
  | ready v =>
    cases v with
    | choice c => obtain rfl := Option.some.inj h; cases c <;> exact le_rfl
    | flags s => cases h
    | id x => obtain rfl := Option.some.inj h; exact le_rfl
    | _ => obtain rfl := Option.some.inj h; exact Nat.le_succ 1
  | _ => obtain rfl := Option.some.inj h; exact le_rfl

theorem levels_reread_le (p : Payload) : p.reread.levels ≤ p.levels := by
  cases h : p.wire? with
  | none => rw [reread_of_wire?_eq_none h]
  | some j =>
    rw [reread_of_wire? h]
    exact levels_ofJson_le h

end Payload

namespace Value

mutual

/-- A value as it is read back, if it can be written. -/
def reread : Value → Value
  | .any p => .any p.reread
  | .list items => .list (rereadItems items)
  | .map entries => .map (rereadEntries entries)
  | .record kind fields => .record kind (rereadFields fields)
  | v => v

def rereadItems : List Value → List Value
  | [] => []
  | v :: rest => reread v :: rereadItems rest

def rereadEntries : List (MapKey × Value) → List (MapKey × Value)
  | [] => []
  | (k, v) :: rest => (k, reread v) :: rereadEntries rest

def rereadFields : List (String × Value) → List (String × Value)
  | [] => []
  | (name, v) :: rest => (name, reread v) :: rereadFields rest

end

theorem rereadItems_eq (items : List Value) : rereadItems items = items.map reread := by
  induction items with
  | nil => rfl
  | cons v rest ih => rw [rereadItems, ih, List.map_cons]

theorem rereadEntries_eq (entries : List (MapKey × Value)) :
    rereadEntries entries = entries.map fun e => (e.1, e.2.reread) := by
  induction entries with
  | nil => rfl
  | cons e rest ih =>
    obtain ⟨k, v⟩ := e
    rw [rereadEntries, ih, List.map_cons]

theorem rereadFields_eq (fields : List (String × Value)) :
    rereadFields fields = fields.map fun f => (f.1, f.2.reread) := by
  induction fields with
  | nil => rfl
  | cons f rest ih =>
    obtain ⟨name, v⟩ := f
    rw [rereadFields, ih, List.map_cons]

/-! A part of what is read back as itself is so, too. -/

theorem reread_of_mem_list {items : List Value} (h : (Value.list items).reread = .list items)
    {v : Value} (hv : v ∈ items) : v.reread = v := by
  rw [reread, rereadItems_eq, Value.list.injEq] at h
  exact List.map_inj_left.1 (h.trans (List.map_id _).symm) v hv

theorem reread_of_mem_map {entries : List (MapKey × Value)}
    (h : (Value.map entries).reread = .map entries) {e : MapKey × Value} (he : e ∈ entries) :
    e.2.reread = e.2 := by
  rw [reread, rereadEntries_eq, Value.map.injEq] at h
  exact congrArg Prod.snd (List.map_inj_left.1 (h.trans (List.map_id _).symm) e he)

theorem reread_of_mem_record {kind : RecordKind} {fields : List (String × Value)}
    (h : (Value.record kind fields).reread = .record kind fields) {f : String × Value}
    (hf : f ∈ fields) : f.2.reread = f.2 := by
  rw [reread, rereadFields_eq, Value.record.injEq] at h
  exact congrArg Prod.snd (List.map_inj_left.1 (h.2.trans (List.map_id _).symm) f hf)

/-- Only nothing is read back as nothing. -/
theorem reread_eq_null_iff {v : Value} : v.reread = .null ↔ v = .null := by
  cases v <;> simp [reread]

theorem reread_of_holds {t : ScalarType} {v : Value} (h : t.Holds v) : v.reread = v := by
  cases t <;> cases v <;> first | rfl | exact h.elim

mutual

theorem reread_reread : ∀ v : Value, v.reread.reread = v.reread
  | .any p => congrArg Value.any p.reread_reread
  | .list items => congrArg Value.list (rereadItems_rereadItems items)
  | .map entries => congrArg Value.map (rereadEntries_rereadEntries entries)
  | .record kind fields => congrArg (Value.record kind) (rereadFields_rereadFields fields)
  | .null | .text _ | .integer _ | .real _ | .truth _ | .id _ | .flags _ | .choice _
  | .messageType _ | .code _ | .moment _ => rfl

theorem rereadItems_rereadItems :
    ∀ items : List Value, rereadItems (rereadItems items) = rereadItems items
  | [] => rfl
  | v :: rest => congrArg₂ List.cons v.reread_reread (rereadItems_rereadItems rest)

theorem rereadEntries_rereadEntries : ∀ entries : List (MapKey × Value),
    rereadEntries (rereadEntries entries) = rereadEntries entries
  | [] => rfl
  | (_, v) :: rest =>
    congrArg₂ List.cons (Prod.ext rfl v.reread_reread) (rereadEntries_rereadEntries rest)

theorem rereadFields_rereadFields : ∀ fields : List (String × Value),
    rereadFields (rereadFields fields) = rereadFields fields
  | [] => rfl
  | (_, v) :: rest =>
    congrArg₂ List.cons (Prod.ext rfl v.reread_reread) (rereadFields_rereadFields rest)

end

/-! ## What is read back is written alike -/

theorem lookup_rereadFields (name : String) (fields : List (String × Value)) :
    (rereadFields fields).lookup name = (fields.lookup name).map reread := by
  induction fields with
  | nil => rfl
  | cons f rest ih =>
    obtain ⟨name', v⟩ := f
    rw [rereadFields, List.lookup_cons, List.lookup_cons, ih]
    split <;> rfl

theorem id?_reread (v : Value) : v.reread.id? = v.id? := by cases v <;> rfl

theorem text?_reread (v : Value) : v.reread.text? = v.text? := by cases v <;> rfl

theorem get_rereadFields (kind : RecordKind) (fields : List (String × Value)) (name : String) :
    (Record.mk kind (rereadFields fields)).get name = ((Record.mk kind fields).get name).reread := by
  rw [Record.get, Record.get, lookup_rereadFields]
  cases fields.lookup name <;> rfl

theorem lacksIdentity_rereadFields (kind : RecordKind) (fields : List (String × Value)) :
    lacksIdentity kind (rereadFields fields) = lacksIdentity kind fields := by
  have hidentity (kind : RecordKind) (emoji : List (String × Value)) :
      Emoji.identity? ⟨kind, rereadFields emoji⟩ = Emoji.identity? ⟨kind, emoji⟩ := by
    simp only [Emoji.identity?, get_rereadFields, id?_reread, text?_reread]
  unfold lacksIdentity
  rw [lookup_rereadFields]
  cases hlookup : fields.lookup "emoji" with
  | none => rfl
  | some v =>
    cases v with
    | record _ emoji => cases kind <;> first | rfl | simp only [reread, Option.map_some, hidentity]
    | _ => cases kind <;> rfl

mutual

/-- What is read back is written as the value is, or fails as it does. -/
theorem encode_reread : ∀ v : Value, v.reread.encode = v.encode
  | .any p => by rw [reread, encode, encode, encodeAny, encodeAny, Payload.wire?_reread]
  | .list items => by rw [reread, encode, encode, encodeItems_rereadItems]
  | .map entries => by rw [reread, encode, encode, encodeEntries_rereadEntries]
  | .record kind fields => by
    rw [reread, encode, encode, encodeFields_rereadFields, lacksIdentity_rereadFields]
  | .null | .text _ | .integer _ | .real _ | .truth _ | .id _ | .flags _ | .choice _
  | .messageType _ | .code _ | .moment _ => rfl

theorem encodeItems_rereadItems :
    ∀ items : List Value, encodeItems (rereadItems items) = encodeItems items
  | [] => rfl
  | v :: rest => by
    rw [rereadItems, encodeItems, encodeItems, encode_reread v, encodeItems_rereadItems rest]

theorem encodeEntries_rereadEntries : ∀ entries : List (MapKey × Value),
    encodeEntries (rereadEntries entries) = encodeEntries entries
  | [] => rfl
  | (_, v) :: rest => by
    rw [rereadEntries, encodeEntries, encodeEntries, encode_reread v,
      encodeEntries_rereadEntries rest]

theorem encodeFields_rereadFields : ∀ fields : List (String × Value),
    encodeFields (rereadFields fields) = encodeFields fields
  | [] => rfl
  | (name, v) :: rest => by
    by_cases hnull : v = .null
    · subst hnull
      exact encodeFields_rereadFields rest
    · have hreread : v.reread ≠ .null := mt reread_eq_null_iff.1 hnull
      rw [rereadFields, encodeFields, encodeFields, encode_reread v,
        encodeFields_rereadFields rest]
      · exact hnull
      · exact hreread

end

/-! ## Levels -/

mutual

theorem fullLevels_reread_le : ∀ v : Value, v.reread.fullLevels ≤ v.fullLevels
  | .any p => p.levels_reread_le
  | .list items => Nat.succ_le_succ (fullLevelsOfItems_rereadItems_le items)
  | .map entries => Nat.succ_le_succ (fullLevelsOfEntries_rereadEntries_le entries)
  | .record _ fields => Nat.succ_le_succ (fullLevelsOfFields_rereadFields_le fields)
  | .null | .text _ | .integer _ | .real _ | .truth _ | .id _ | .flags _ | .choice _
  | .messageType _ | .code _ | .moment _ => le_rfl

theorem fullLevelsOfItems_rereadItems_le :
    ∀ items : List Value, fullLevelsOfItems (rereadItems items) ≤ fullLevelsOfItems items
  | [] => le_rfl
  | v :: rest => max_le_max v.fullLevels_reread_le (fullLevelsOfItems_rereadItems_le rest)

theorem fullLevelsOfEntries_rereadEntries_le : ∀ entries : List (MapKey × Value),
    fullLevelsOfEntries (rereadEntries entries) ≤ fullLevelsOfEntries entries
  | [] => le_rfl
  | (_, v) :: rest => max_le_max v.fullLevels_reread_le (fullLevelsOfEntries_rereadEntries_le rest)

theorem fullLevelsOfFields_rereadFields_le : ∀ fields : List (String × Value),
    fullLevelsOfFields (rereadFields fields) ≤ fullLevelsOfFields fields
  | [] => le_rfl
  | (_, v) :: rest => max_le_max v.fullLevels_reread_le (fullLevelsOfFields_rereadFields_le rest)

end

theorem emojiLevels_rereadFields_le (kind : RecordKind) (fields : List (String × Value)) :
    emojiLevels kind (rereadFields fields) ≤ emojiLevels kind fields := by
  rw [emojiLevels, emojiLevels, lookup_rereadFields]
  split
  · cases fields.lookup "emoji" with
    | none => exact le_rfl
    | some v => exact v.fullLevels_reread_le
  · exact le_rfl

section

variable (counts : RecordKind → Bool)

mutual

/-- What is read back has no more levels, whichever kinds count. -/
theorem levels_reread_le : ∀ v : Value, v.reread.levels counts ≤ v.levels counts
  | .any p => p.levels_reread_le
  | .list items => levelsOfItems_rereadItems_le items
  | .map entries => levelsOfEntries_rereadEntries_le entries
  | .record kind fields => Nat.add_le_add_right
      (max_le_max (levelsOfFields_rereadFields_le fields) (emojiLevels_rereadFields_le kind fields)) _
  | .null | .text _ | .integer _ | .real _ | .truth _ | .id _ | .flags _ | .choice _
  | .messageType _ | .code _ | .moment _ => le_rfl

theorem levelsOfItems_rereadItems_le :
    ∀ items : List Value, levelsOfItems counts (rereadItems items) ≤ levelsOfItems counts items
  | [] => le_rfl
  | v :: rest => max_le_max (levels_reread_le v) (levelsOfItems_rereadItems_le rest)

theorem levelsOfEntries_rereadEntries_le : ∀ entries : List (MapKey × Value),
    levelsOfEntries counts (rereadEntries entries) ≤ levelsOfEntries counts entries
  | [] => le_rfl
  | (_, v) :: rest => max_le_max (levels_reread_le v) (levelsOfEntries_rereadEntries_le rest)

theorem levelsOfFields_rereadFields_le : ∀ fields : List (String × Value),
    levelsOfFields counts (rereadFields fields) ≤ levelsOfFields counts fields
  | [] => le_rfl
  | (_, v) :: rest => max_le_max (levels_reread_le v) (levelsOfFields_rereadFields_le rest)

end

end

/-! ## What is read back is of the type -/

variable {good : Ready → Prop}

theorem dropUnknownBits_reread {v : Value} (h : Decoding.dropUnknownBits v = v) :
    Decoding.dropUnknownBits v.reread = v.reread := by
  cases v with
  | any p =>
    cases hj : p.wire? with
    | none => rwa [reread, Payload.reread_of_wire?_eq_none hj]
    | some j =>
      rw [reread, Payload.reread_of_wire? hj]
      cases j <;> rfl
  | flags s => exact h
  | _ => rfl

theorem Fits.reread {t : FieldType} {v : Value} (h : Fits good t v) : Fits good t v.reread := by
  induction h with
  | scalar h =>
    rw [reread_of_holds h]
    exact .scalar h
  | union h =>
    obtain ⟨t, ht, hv⟩ := h
    rw [reread_of_holds hv]
    exact .union ⟨t, ht, hv⟩
  | list _ ih =>
    rw [Value.reread, rereadItems_eq]
    refine .list fun w hw => ?_
    obtain ⟨v, hv, rfl⟩ := List.mem_map.1 hw
    exact ih v hv
  | map hnodup hkeys _ ih =>
    rw [Value.reread, rereadEntries_eq]
    refine .map ?_ (fun e he => ?_) fun e he => ?_
    · rwa [List.map_map]
    · obtain ⟨e', he', rfl⟩ := List.mem_map.1 he
      exact hkeys e' he'
    · obtain ⟨e', he', rfl⟩ := List.mem_map.1 he
      exact ih e' he'
  | record hnames _ hown ih =>
    rw [Value.reread, rereadFields_eq]
    refine .record ?_ (fun e he => ?_) fun hkeeps e he => ?_
    · exact List.forall₂_map_right_iff.2 hnames
    · rw [List.zip_map_right] at he
      obtain ⟨e', he', rfl⟩ := List.mem_map.1 he
      exact ih e' he'
    · obtain ⟨e', he', rfl⟩ := List.mem_map.1 he
      exact dropUnknownBits_reread (hown hkeeps e' he')
  | nullable _ ih => exact .nullable ih
  | any hsettled hne => exact .any hsettled.reread (mt Payload.reread_eq_null hne)
  | flags h => exact .flags h
  | id x => exact .id x
  | choice h => exact .choice h
  | messageType t => exact .messageType t
  | code h => exact .code h
  | moment h => exact .moment h
  | nothing inner => exact .nothing inner
  | anyNothing => exact .anyNothing

/-- Where no value of any type holds decoded parts, a value is read back as itself. -/
theorem reread_eq_self {v : Value} (h : ∀ p, Within (.any p) v → p.IsPlain) : v.reread = v := by
  induction v using Value.induction with
  | leaf v hleaf =>
    cases v with
    | any p => exact congrArg Value.any (h p (.refl _)).reread_eq_self
    | list _ | map _ | record _ _ => cases hleaf
    | _ => rfl
  | list items ih =>
    rw [reread, rereadItems_eq]
    refine congrArg Value.list ((List.map_congr_left fun v hv => ?_).trans (List.map_id _))
    exact ih v hv fun p hp => h p (.item hv hp)
  | map entries ih =>
    rw [reread, rereadEntries_eq]
    refine congrArg Value.map ((List.map_congr_left fun e he => ?_).trans (List.map_id _))
    exact Prod.ext rfl (ih e he fun p hp => h p (.entry he hp))
  | record kind fields ih =>
    rw [reread, rereadFields_eq]
    refine congrArg (Value.record kind)
      ((List.map_congr_left fun f hf => ?_).trans (List.map_id _))
    exact Prod.ext rfl (ih f hf fun p hp => h p (.field hf hp))

end Value

namespace Record

/-- A record as it is read back, if it can be written. -/
def reread (r : Record) : Record := ⟨r.kind, Value.rereadFields r.fields⟩

theorem toValue_reread (r : Record) : r.reread.toValue = r.toValue.reread := rfl

/-- No value of any type in a record holds decoded parts. -/
def HasPlainValues (r : Record) : Prop := ∀ p, Value.Within (.any p) r.toValue → p.IsPlain

theorem reread_eq_self {r : Record} (h : r.HasPlainValues) : r.reread = r := by
  have hvalue := Value.reread_eq_self h
  rw [← toValue_reread, toValue, toValue, Value.record.injEq] at hvalue
  obtain ⟨kind, fields⟩ := r
  exact congrArg (Record.mk kind) hvalue.2

/-- What is read back is written as the record is. -/
theorem encode_reread {r : Record} {j : Json} (h : r.encode = .ok j) : r.reread.encode = .ok j := by
  rw [encode] at h ⊢
  split at h
  · cases h
  · next hshallow =>
    have hlevels (counts : RecordKind → Bool) :
        r.reread.toValue.levels counts ≤ r.toValue.levels counts :=
      Value.levels_reread_le counts r.toValue
    rw [if_neg, toValue_reread, Value.encode_reread, h]
    intro hdeep
    refine hshallow ?_
    simp only [isTooDeep, Bool.and_eq_true, decide_eq_true_eq] at hdeep ⊢
    exact ⟨hdeep.1.trans_le (hlevels _), hdeep.2.trans_le (hlevels _)⟩

end Record
end ChatRecords
