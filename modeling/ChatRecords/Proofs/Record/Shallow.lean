import ChatRecords.Proofs.Record.Rebuilding

/-!
# Records that can always be written

What keeps a record from being written are reactions, JSON values and records within their like. If
the records in a record are of kinds that know neither, it can be written whatever it holds.

## Main definitions

* `RecordKind.IsShallow`: nothing of that kind lies in records of the kind.

## Main results

* `Record.Conforms.exists_encode`: records of such a kind can be written.
* `RecordKind.isShallow_server`, `RecordKind.isShallow_guild`: servers and guilds are of such kinds.
-/

namespace ChatRecords

/-- The type has no JSON values, and the records in its values are of some kinds. -/
def FieldType.staysIn (kinds : List RecordKind) : FieldType → Bool
  | .any => false
  | .record kind => kinds.contains kind
  | .list item | .map _ item => item.staysIn kinds
  | .nullable inner => inner.staysIn kinds
  | _ => true

namespace RecordKind

/-- Records of some kinds hold no JSON values, and no records but such as are of these kinds
themselves and no reactions. -/
def areShallow (kinds : List RecordKind) : Bool :=
  kinds.all fun kind => decide (kind ≠ .reaction) && kind.fields.all fun f => f.type.staysIn kinds

/-- Records of the kind hold neither reactions nor JSON values nor records within their like. -/
structure IsShallow (kind : RecordKind) : Prop where
  within : areShallow (kind :: kind.within) = true
  /-- No kind counts as a level, as none is within its like. -/
  counted : kind.counted = []

theorem isShallow_server : IsShallow .server where
  within := by decide +kernel
  counted := by decide +kernel

theorem isShallow_guild : IsShallow .guild where
  within := by decide +kernel
  counted := by decide +kernel

end RecordKind

namespace Value

variable {good : Ready → Prop} {kinds : List RecordKind}

theorem not_isUnwritable_of_ne {kind : RecordKind} (h : kind ≠ .reaction)
    (fields : List (String × Value)) : ¬(Value.record kind fields).IsUnwritable := by
  change ¬lacksIdentity kind fields = true
  unfold lacksIdentity
  split
  · exact absurd rfl h
  · exact Bool.false_ne_true

theorem isWritable_of_holds {t : ScalarType} {v : Value} (h : t.Holds v) :
    (∀ w, Within w v → ¬w.IsUnwritable) ∧ v.levels (fun _ => false) ≤ 1 := by
  refine ⟨fun w hw => ?_, ?_⟩
  · rw [hw.eq_of_leaf (hasParts_of_holds h).1]
    cases t <;> cases v <;> first | exact h.elim | exact fun h => h
  · cases t <;> cases v <;> first | exact h.elim | exact Nat.zero_le 1

/-- Nothing in a value of such a type is unwritable, and it has one level at most. -/
theorem Fits.isWritable (hkinds : RecordKind.areShallow kinds = true) {t : FieldType} {v : Value}
    (h : Fits good t v) (ht : t.staysIn kinds = true) :
    (∀ w, Within w v → ¬w.IsUnwritable) ∧ v.levels (fun _ => false) ≤ 1 := by
  -- on the derivation that the value is of the type
  induction h with
  | any | anyNothing => cases ht
  | scalar h => exact isWritable_of_holds h
  | union h =>
    obtain ⟨t, -, hv⟩ := h
    exact isWritable_of_holds hv
  | list _ ih =>
    refine ⟨fun w hw => ?_, levelsOfItems_le fun v hv => (ih v hv ht).2⟩
    cases hw with
    | refl => exact fun h => h
    | item hv hw => exact (ih _ hv ht).1 w hw
  | map _ _ _ ih =>
    refine ⟨fun w hw => ?_, levelsOfEntries_le fun e he => (ih e he ht).2⟩
    cases hw with
    | refl => exact fun h => h
    | entry he hw => exact (ih _ he ht).1 w hw
  | @record kind fields hnames _ _ ih =>
    have hkind := List.all_eq_true.1 hkinds kind (List.contains_iff_mem.1 ht)
    rw [Bool.and_eq_true, decide_eq_true_iff, List.all_eq_true] at hkind
    have hfields (e : String × Value) (he : e ∈ fields) :
        (∀ w, Within w e.2 → ¬w.IsUnwritable) ∧ e.2.levels (fun _ => false) ≤ 1 := by
      obtain ⟨f, hf, hmem⟩ := exists_mem_zip_of_mem hnames.length_eq he
      exact ih _ hmem (hkind.2 f hf)
    refine ⟨fun w hw => ?_, ?_⟩
    · cases hw with
      | refl => exact not_isUnwritable_of_ne hkind.1 fields
      | field he hw => exact (hfields _ he).1 w hw
    · have hlevels := levelsOfFields_le fun e he => (hfields e he).2
      rw [levels, emojiLevels, if_neg hkind.1]
      simpa using hlevels
  | nullable _ ih => exact ih ht
  | nothing =>
    refine ⟨fun w hw => ?_, Nat.zero_le 1⟩
    cases hw
    exact fun h => h
  | _ =>
    refine ⟨fun w hw => ?_, by simp [levels]⟩
    cases hw
    exact fun h => h

end Value

/-- A record that holds neither reactions nor JSON values nor records within their like can be
written. -/
theorem Record.Conforms.exists_encode {kind : RecordKind} {r : Record} (h : r.Conforms kind)
    (hkind : kind.IsShallow) : ∃ j, r.encode = .ok j := by
  obtain ⟨hwritable, hlevels⟩ := Value.Fits.isWritable hkind.within h (by simp [FieldType.staysIn])
  have hdeep : r.isTooDeep = false := by
    rw [isTooDeep, h.kind_eq, hkind.counted, Bool.and_eq_false_iff]
    refine .inr (decide_eq_false (Nat.not_lt.2 (hlevels.trans ?_)))
    decide
  obtain ⟨j, hj⟩ := (Value.exists_encode_iff r.toValue).2 hwritable
  exact ⟨j, by rw [encode, hdeep]; exact hj⟩

end ChatRecords
