import ChatRecords.Proofs.Record.Fits

/-!
# How far down a record reaches

A decoded record has few more levels than the payload that it came from is deep. Two are added at
most, by what stands for absent fields and by labels that stand for records. Where nothing in the
payload is decoded already, no value of any type in the record holds decoded parts.

## Main definitions

* `Value.Reaches`: a value lies within some levels, and its values of any type hold no decoded
  parts.

## Main results

* `Decoding.reaches_of_decode`: how far a decoded record reaches.
* `Value.Reaches.levels_le`, `Value.Reaches.isPlain`: what that says of its levels and of its values
  of any type.
-/

namespace ChatRecords

/-! ## Payloads -/

namespace Payload

/-- The items of a plain payload are those of an array. -/
theorem IsPlain.eq_array {p : Payload} (h : p.IsPlain) {items : List Payload}
    (hitems : p.items? = some items) : p = .array items ∧ ∀ q ∈ items, q.IsPlain := by
  cases h with
  | array h =>
    obtain rfl := Option.some.inj hitems
    exact ⟨rfl, h⟩
  | ready h => exact h.elim
  | _ => cases hitems

/-! ## Levels -/

theorem levelsOfItems_le {items : List Payload} {n : Nat} (h : ∀ p ∈ items, p.levels ≤ n) :
    levelsOfItems items ≤ n := by
  induction items with
  | nil => exact Nat.zero_le n
  | cons p rest ih =>
    rw [List.forall_mem_cons] at h
    exact max_le h.1 (ih h.2)

theorem levelsOfEntries_le {entries : List (String × Payload)} {n : Nat}
    (h : ∀ e ∈ entries, e.2.levels ≤ n) : levelsOfEntries entries ≤ n := by
  induction entries with
  | nil => exact Nat.zero_le n
  | cons e rest ih =>
    rw [List.forall_mem_cons] at h
    exact max_le h.1 (ih h.2)

/-- A plain payload has one level more than it is deep. -/
theorem IsPlain.levels_settle_le {p : Payload} (h : p.IsPlain) : p.settle.levels ≤ p.depth + 1 := by
  induction h with
  | array _ ih =>
    rw [settle, levels, depth, Nat.succ_le_succ_iff, settleItems_eq]
    refine levelsOfItems_le fun q hq => ?_
    obtain ⟨p, hp, rfl⟩ := List.mem_map.1 hq
    exact (ih p hp).trans (Nat.succ_le_succ (depth_le_of_mem_items hp))
  | object _ ih =>
    rw [settle, levels, depth, Nat.succ_le_succ_iff, settleEntries_eq]
    refine levelsOfEntries_le fun e he => ?_
    obtain ⟨e, hmem, rfl⟩ := List.mem_map.1 (Entries.mem_of_mem_settle he)
    exact (ih e hmem).trans (Nat.succ_le_succ (depth_le_of_mem_entries hmem))
  | ready h => exact h.elim
  | _ => exact le_rfl

end Payload

namespace Value

theorem fullLevelsOfItems_le {items : List Value} {n : Nat} (h : ∀ v ∈ items, v.fullLevels ≤ n) :
    fullLevelsOfItems items ≤ n := by
  induction items with
  | nil => exact Nat.zero_le n
  | cons v rest ih =>
    rw [List.forall_mem_cons] at h
    exact max_le h.1 (ih h.2)

theorem fullLevelsOfEntries_le {entries : List (MapKey × Value)} {n : Nat}
    (h : ∀ e ∈ entries, e.2.fullLevels ≤ n) : fullLevelsOfEntries entries ≤ n := by
  induction entries with
  | nil => exact Nat.zero_le n
  | cons e rest ih =>
    rw [List.forall_mem_cons] at h
    exact max_le h.1 (ih h.2)

theorem fullLevelsOfFields_le {fields : List (String × Value)} {n : Nat}
    (h : ∀ f ∈ fields, f.2.fullLevels ≤ n) : fullLevelsOfFields fields ≤ n := by
  induction fields with
  | nil => exact Nat.zero_le n
  | cons f rest ih =>
    rw [List.forall_mem_cons] at h
    exact max_le h.1 (ih h.2)

variable {counts : RecordKind → Bool}

theorem levelsOfItems_le {items : List Value} {n : Nat} (h : ∀ v ∈ items, v.levels counts ≤ n) :
    levelsOfItems counts items ≤ n := by
  induction items with
  | nil => exact Nat.zero_le n
  | cons v rest ih =>
    rw [List.forall_mem_cons] at h
    exact max_le h.1 (ih h.2)

theorem levelsOfEntries_le {entries : List (MapKey × Value)} {n : Nat}
    (h : ∀ e ∈ entries, e.2.levels counts ≤ n) : levelsOfEntries counts entries ≤ n := by
  induction entries with
  | nil => exact Nat.zero_le n
  | cons e rest ih =>
    rw [List.forall_mem_cons] at h
    exact max_le h.1 (ih h.2)

theorem levelsOfFields_le {fields : List (String × Value)} {n : Nat}
    (h : ∀ f ∈ fields, f.2.levels counts ≤ n) : levelsOfFields counts fields ≤ n := by
  induction fields with
  | nil => exact Nat.zero_le n
  | cons f rest ih =>
    rw [List.forall_mem_cons] at h
    exact max_le h.1 (ih h.2)

/-- The emoji of a reaction has no more levels than the fields of the reaction. -/
theorem emojiLevels_le {kind : RecordKind} {fields : List (String × Value)} {n : Nat}
    (h : ∀ f ∈ fields, f.2.fullLevels ≤ n) : emojiLevels kind fields ≤ n := by
  rw [emojiLevels]
  split
  · cases hlookup : fields.lookup "emoji" with
    | none => exact Nat.zero_le n
    | some v =>
      obtain ⟨_, _, hfields, -⟩ := List.lookup_eq_some_iff.1 hlookup
      exact h ("emoji", v) (by simp [hfields])
  · exact Nat.zero_le n

/-! ## Values within some levels -/

/-- Whether a value has neither parts nor another form of its own. -/
def isSimple : Value → Bool
  | .list _ | .map _ | .record _ _ | .any _ => false
  | _ => true

/-- A value lies within some levels, and its values of any type hold no decoded parts. -/
inductive Reaches : Nat → Value → Prop
  | nothing (n : Nat) : Reaches n .null
  | simple {n : Nat} {v : Value} (h : v.isSimple = true) : Reaches (n + 1) v
  | any {n : Nat} {p : Payload} (h : p.levels ≤ n) (hplain : p.IsPlain) : Reaches n (.any p)
  | list {n : Nat} {items : List Value} (h : ∀ v ∈ items, Reaches n v) : Reaches (n + 1) (.list items)
  | map {n : Nat} {entries : List (MapKey × Value)} (h : ∀ e ∈ entries, Reaches n e.2) :
      Reaches (n + 1) (.map entries)
  | record {n : Nat} {kind : RecordKind} {fields : List (String × Value)}
      (h : ∀ f ∈ fields, Reaches n f.2) : Reaches (n + 1) (.record kind fields)

theorem Reaches.mono {n m : Nat} {v : Value} (h : Reaches n v) (hle : n ≤ m) : Reaches m v := by
  induction h generalizing m with
  | nothing => exact .nothing m
  | any h hplain => exact .any (h.trans hle) hplain
  | simple h =>
    obtain ⟨m, rfl⟩ := Nat.exists_eq_add_one_of_ne_zero (Nat.ne_zero_of_lt hle)
    exact .simple h
  | list _ ih =>
    obtain ⟨m, rfl⟩ := Nat.exists_eq_add_one_of_ne_zero (Nat.ne_zero_of_lt hle)
    exact .list fun v hv => ih v hv (Nat.le_of_succ_le_succ hle)
  | map _ ih =>
    obtain ⟨m, rfl⟩ := Nat.exists_eq_add_one_of_ne_zero (Nat.ne_zero_of_lt hle)
    exact .map fun e he => ih e he (Nat.le_of_succ_le_succ hle)
  | record _ ih =>
    obtain ⟨m, rfl⟩ := Nat.exists_eq_add_one_of_ne_zero (Nat.ne_zero_of_lt hle)
    exact .record fun f hf => ih f hf (Nat.le_of_succ_le_succ hle)

theorem Reaches.fullLevels_le {n : Nat} {v : Value} (h : Reaches n v) : v.fullLevels ≤ n := by
  induction h with
  | nothing => exact Nat.zero_le _
  | any h _ => exact h
  | @simple n v h => cases v <;> first | exact Nat.le_add_left _ _ | cases h
  | list _ ih => exact Nat.succ_le_succ (fullLevelsOfItems_le ih)
  | map _ ih => exact Nat.succ_le_succ (fullLevelsOfEntries_le ih)
  | record _ ih => exact Nat.succ_le_succ (fullLevelsOfFields_le ih)

/-- Whichever kinds count, there are no more levels than if everything counts. -/
theorem Reaches.levels_le {n : Nat} {v : Value} (h : Reaches n v) (counts : RecordKind → Bool) :
    v.levels counts ≤ n := by
  induction h with
  | nothing => exact Nat.zero_le _
  | any h _ => exact h
  | @simple n v h => cases v <;> first | exact Nat.le_add_left _ _ | exact Nat.zero_le _ | cases h
  | list _ ih => exact (levelsOfItems_le ih).trans (Nat.le_succ _)
  | map _ ih => exact (levelsOfEntries_le ih).trans (Nat.le_succ _)
  | @record n kind fields h ih =>
    have hfields := levelsOfFields_le ih
    have hemoji : emojiLevels kind fields ≤ n := emojiLevels_le fun f hf => (h f hf).fullLevels_le
    rw [levels]
    split <;> omega

theorem Reaches.isPlain {n : Nat} {v : Value} (h : Reaches n v) {p : Payload}
    (hwithin : Within (.any p) v) : p.IsPlain := by
  induction h with
  | @simple n v h =>
    have hleaf : hasParts v = false := by cases v <;> first | rfl | cases h
    rw [← hwithin.eq_of_leaf hleaf] at h
    cases h
  | any _ hplain =>
    cases hwithin with
    | refl => exact hplain
  | list _ ih =>
    cases hwithin with
    | item hw hwithin => exact ih _ hw hwithin
  | map _ ih =>
    cases hwithin with
    | entry he hwithin => exact ih _ he hwithin
  | record _ ih =>
    cases hwithin with
    | field hf hwithin => exact ih _ hf hwithin
  | nothing => cases hwithin

theorem Reaches.ownValue {n : Nat} {v : Value} (h : Reaches n v) (kind : RecordKind) :
    Reaches n (Decoding.ownValue kind v) := by
  rw [Decoding.ownValue]
  split
  · exact h
  · cases h with
    | simple h =>
      refine .simple ?_
      cases v <;> first | rfl | cases h
    | nothing => exact .nothing _
    | @any n p h hplain =>
      obtain ⟨q, hq, rfl | ⟨s, rfl, -⟩⟩ := exists_dropUnknownBits_any p
      · rw [hq]
        exact .any h hplain
      · cases hplain with
        | ready h => exact h.elim
    | list h => exact .list h
    | map h => exact .map h
    | record h => exact .record h

theorem isSimple_of_holds {t : ScalarType} {v : Value} (h : t.Holds v) : v.isSimple = true := by
  cases t <;> cases v <;> first | rfl | exact False.elim h

/-- What stands for an absent field is a record without parts at most. -/
theorem reaches_of_hasDefault {t : FieldType} {v : Value} (h : t.hasDefault v = true) :
    Reaches 2 v := by
  have hsimple {t : FieldType} {v : Value} (h : t.hasSimpleDefault v = true) : Reaches 1 v := by
    unfold FieldType.hasSimpleDefault at h
    split at h
    · exact .nothing 1
    · exact .simple rfl
    · exact .simple rfl
    · exact .simple rfl
    · exact .simple rfl
    · exact .list (by simp)
    · exact .map (by simp)
    · exact .simple rfl
    · exact .simple rfl
    · cases h
  unfold FieldType.hasDefault at h
  split at h
  · next kind kind' fields =>
    simp only [Bool.and_eq_true, decide_eq_true_eq, List.all_eq_true] at h
    obtain ⟨⟨rfl, hnames⟩, hvalues⟩ := h
    have hlength : kind'.fields.length = fields.length := by
      simpa using congrArg List.length hnames.symm
    refine .record fun e he => ?_
    obtain ⟨f, -, hmem⟩ := exists_mem_zip_of_mem hlength he
    exact hsimple (hvalues _ hmem)
  · exact (hsimple h).mono (by decide)

end Value

/-! ## Decoding -/

namespace Decoding

open Value (Reaches)

variable {form : PayloadForm} {counted : List RecordKind}

/-- A field reaches no further than its payload lets it, if this is so for records. -/
theorem reaches_of_field {decode : RecordKind → Payload → Decoding Value}
    (hdecode : ∀ {kind p v}, p.IsPlain → (decode kind p).outcome = .ok v → Reaches (p.depth + 2) v)
    {t : FieldType} {name : String} {p : Payload} (hp : p.IsPlain) {v : Value}
    (h : (field form decode name t p).outcome = .ok v) : Reaches (p.depth + 2) v := by
  induction t generalizing p v with
  | scalar t =>
    rw [field, ofConversion_ok_iff] at h
    exact .simple (Value.isSimple_of_holds (Conversion.scalar_ok h))
  | union first rest =>
    obtain ⟨t, -, hv⟩ := Conversion.union_ok h
    exact .simple (Value.isSimple_of_holds hv)
  | id | choice | messageType | code | moment =>
    rw [field, ofConversion_ok_iff] at h
    obtain ⟨_, -, rfl⟩ := Conversion.except_map_ok_iff.1 h
    exact .simple rfl
  | flags c =>
    rw [field, flags] at h
    split at h
    · obtain rfl := Except.ok.inj h
      exact .simple rfl
    · simp at h
  | list item ih =>
    obtain ⟨items, vs, hitems, rfl, hforall⟩ := field_list_ok h
    obtain ⟨rfl, hplain⟩ := hp.eq_array hitems
    refine .list fun w hw => ?_
    obtain ⟨q, hq, hqw⟩ := exists_left_of_forall₂ hforall hw
    exact (ih (hplain q hq) hqw).mono (Nat.add_le_add_right (Payload.depth_le_of_mem_items hq) 2)
  | map key item ih =>
    obtain ⟨entries, kvs, rfl, rfl, hforall⟩ := field_map_ok h
    refine .map fun e he => ?_
    obtain ⟨q, hq, -, hqe⟩ := exists_left_of_forall₂ hforall (Entries.mem_of_mem_settle he)
    cases hp with
    | object hplain =>
      exact (ih (hplain q hq) hqe).mono
        (Nat.add_le_add_right (Payload.depth_le_of_mem_entries hq) 2)
  | record kind =>
    rw [field] at h
    exact hdecode hp h
  | nullable inner ih =>
    rcases field_nullable_ok h with ⟨-, rfl⟩ | ⟨-, hinner⟩
    · exact .nothing _
    · exact ih hp hinner
  | any =>
    unfold field at h
    split at h
    · obtain rfl := Except.ok.inj h
      exact .nothing _
    · obtain rfl := Except.ok.inj h
      exact .any (hp.levels_settle_le.trans (Nat.le_succ _)) hp.settle

/-- What comes as its label alone is a record of two levels. -/
theorem reaches_of_label {decode : RecordKind → Payload → Decoding Value} {kind : RecordKind}
    (hkind : kind.acceptsLabel = true) {s : String} {fields : List (String × Value)}
    (h : List.Forall₂ (fun f e => e.1 = f.name ∧
      FieldHolds form decode [("label", .string s)] f e.2) kind.fields fields) :
    ∀ e ∈ fields, Reaches 1 e.2 := by
  unfold RecordKind.acceptsLabel at hkind
  split at hkind
  · intro e he
    obtain ⟨f, hf, -, hholds⟩ := exists_left_of_forall₂ h he
    rw [RecordKind.fields, Catalog.activityButton, List.mem_cons, List.mem_singleton] at hf
    rcases hf with rfl | rfl
    · rcases hholds with ⟨q, hget, hq⟩ | ⟨hnone, -⟩
      · obtain rfl := Option.some.inj hget
        rw [← Except.ok.inj hq]
        exact .simple rfl
      · cases hnone
    · rcases hholds with ⟨q, hget, -⟩ | ⟨-, hfallback⟩
      · cases hget
      · rw [← Option.some.inj hfallback]
        exact .nothing 1
  · cases hkind

theorem reaches_of_record {depth left : Nat} {kind : RecordKind} {p : Payload} (hp : p.IsPlain)
    {v : Value} (h : (record form counted depth left kind p).outcome = .ok v) :
    Reaches (p.depth + 2) v := by
  induction depth generalizing left kind p v with
  | zero => simp [record] at h
  | succ depth ih =>
    obtain ⟨_, left', entries, fields, ⟨⟩, -, hentries, rfl, hforall⟩ := record_ok h
    have hown {n : Nat} (h : ∀ e ∈ fields, Reaches n e.2) :
        Reaches (n + 1) (.record kind (ownFields kind fields)) := by
      rw [ownFields_eq]
      refine .record fun e he => ?_
      obtain ⟨f, hf, rfl⟩ := List.mem_map.1 he
      exact (h f hf).ownValue kind
    unfold recordEntries? at hentries
    split at hentries
    · obtain rfl := Option.some.inj hentries
      refine hown fun e he => ?_
      obtain ⟨f, hf, -, ⟨q, hget, hq⟩ | ⟨-, hfallback⟩⟩ := exists_left_of_forall₂ hforall he
      · have hmem := Entries.mem_of_get? hget
        cases hp with
        | object hplain =>
          exact (reaches_of_field (fun hp' h' => ih hp' h') (hplain _ hmem) hq).mono
            (Nat.add_le_add_right (Payload.depth_le_of_mem_entries hmem) 2)
      · have hdefault := RecordKind.hasDefault_of_fallback hf hfallback
        exact (Value.reaches_of_hasDefault hdefault).mono (Nat.le_add_left _ _)
    · split at hentries
      · next hkind =>
        obtain rfl := Option.some.inj hentries
        exact hown (reaches_of_label hkind hforall)
      · cases hentries
    · cases hentries

/-- A record reaches at most two levels further down than the payload that it came from. -/
theorem reaches_of_decode {kind : RecordKind} {p : Payload} (hp : p.IsPlain) {r : Record}
    (h : (Record.decode form kind p).outcome = .ok r) : Reaches (p.depth + 2) r.toValue :=
  reaches_of_record hp (decode_ok h).1

end Decoding
end ChatRecords
