import ChatRecords.Proofs.Record.Payload

/-!
# Depth and levels

The depth of a payload bounds how far decoding goes down. Any larger bound gives the same result,
and in a payload that is not deep no record has too few levels left.

## Main results

* `Decoding.record_depth_irrel`: every bound beyond the depth of a payload is as good.
* `Decoding.record_uncounted`: the levels that are left do not matter if there are more of them than
  the payload is deep.
* `Record.decode_eq`: the depth of a payload does not decide which kinds count.
-/

namespace ChatRecords
namespace Payload

/-- The items of a list lie no deeper than the list. -/
theorem depth_le_of_items? {p : Payload} {items : List Payload} (h : p.items? = some items)
    {q : Payload} (hq : q ∈ items) : q.depth ≤ p.depth := by
  unfold items? at h
  split at h
  · obtain rfl := Option.some.inj h
    exact (depth_le_of_mem_items hq).trans (Nat.le_succ _)
  · obtain rfl := Option.some.inj h
    obtain ⟨flag, -, rfl⟩ := List.mem_map.1 hq
    exact Nat.zero_le _
  · cases h

theorem depth_lt_of_mem_object {entries : List (String × Payload)} {e : String × Payload}
    (h : e ∈ entries) : e.2.depth < (Payload.object entries).depth :=
  Nat.lt_succ_of_le (depth_le_of_mem_entries h)

end Payload

namespace Decoding

variable {form : PayloadForm} {decode decode' : RecordKind → Payload → Decoding Value}

/-- What a payload is decoded as depends on how records are decoded that lie no deeper. -/
theorem field_congr_decode {t : FieldType} {p : Payload}
    (h : ∀ kind q, q.depth ≤ p.depth → decode kind q = decode' kind q) (name : String) :
    field form decode name t p = field form decode' name t p := by
  induction t generalizing p with
  | list item ih =>
    rw [field, field]
    split
    · next items hitems =>
      have hitem (q : Payload) (hq : q ∈ items) :
          field form decode name item q = field form decode' name item q :=
        ih fun kind r hr => h kind r (hr.trans (Payload.depth_le_of_items? hitems hq))
      congr 2
      apply List.mapIdx_eq_mapIdx_iff.2
      intro i hi
      rw [hitem _ (List.getElem_mem hi)]
    · rfl
  | map key item ih =>
    unfold field
    split
    · next entries =>
      congr 2
      apply List.map_congr_left
      intro e he
      have hlt := Payload.depth_lt_of_mem_object he
      rw [ih fun kind r hr => h kind r (hr.trans hlt.le)]
    · rfl
  | record kind => exact h kind p le_rfl
  | nullable inner ih =>
    unfold field
    split
    · rfl
    · exact ih h
  | _ => rfl

/-- The fields of what comes as its label alone hold no records. -/
theorem recordFields_label_congr {kind : RecordKind} (hkind : kind.acceptsLabel = true)
    (s : String) : kind.fields.map (recordField form decode [("label", .string s)]) =
      kind.fields.map (recordField form decode' [("label", .string s)]) := by
  unfold RecordKind.acceptsLabel at hkind
  split at hkind
  · rfl
  · cases hkind

/-- The fields of a record depend on how records are decoded that lie less deep. -/
theorem recordFields_congr_decode {kind : RecordKind} {p : Payload}
    {entries : List (String × Payload)} (hentries : recordEntries? kind p = some entries)
    (h : ∀ kind q, q.depth < p.depth → decode kind q = decode' kind q) :
    kind.fields.map (recordField form decode entries) =
      kind.fields.map (recordField form decode' entries) := by
  unfold recordEntries? at hentries
  split at hentries
  · obtain rfl := Option.some.inj hentries
    apply List.map_congr_left
    intro f _
    unfold recordField
    split
    · next q _ hget =>
      have hlt := Payload.depth_lt_of_mem_object (Entries.mem_of_get? hget)
      rw [field_congr_decode fun kind r hr => h kind r (Nat.lt_of_le_of_lt hr hlt)]
    · rfl
    · rfl
  · next s =>
    split at hentries
    · next hkind =>
      obtain rfl := Option.some.inj hentries
      exact recordFields_label_congr hkind s
    · cases hentries
  · cases hentries

variable {counted : List RecordKind}

/-- Every bound beyond the depth of a payload is as good. -/
theorem record_depth_irrel {depth depth' : Nat} {left : Nat} {kind : RecordKind} {p : Payload}
    (h : p.depth < depth) (h' : p.depth < depth') :
    record form counted depth left kind p = record form counted depth' left kind p := by
  induction depth generalizing depth' left kind p with
  | zero => exact absurd h (Nat.not_lt_zero _)
  | succ depth ih =>
    obtain ⟨depth', rfl⟩ := Nat.exists_eq_add_one_of_ne_zero (Nat.ne_zero_of_lt h')
    rw [record, record]
    split
    · rfl
    · rfl
    · next left' entries _ hentries =>
      rw [recordFields_congr_decode hentries fun kind q hq =>
        ih (Nat.lt_of_lt_of_le hq (Nat.le_of_lt_succ h))
          (Nat.lt_of_lt_of_le hq (Nat.le_of_lt_succ h'))]

/-- Where one level is left, a record is entered and loses at most that one. -/
theorem enter_of_pos (counted : List RecordKind) (kind : RecordKind) (left : Nat) :
    ∃ left', Nesting.enter counted kind (left + 1) = some left' ∧ left ≤ left' := by
  unfold Nesting.enter
  split
  · exact ⟨left, rfl, le_rfl⟩
  · exact ⟨left + 1, rfl, Nat.le_succ left⟩

/-- The levels that are left do not matter if there are more of them than the payload is deep. -/
theorem record_uncounted {depth left left' : Nat} {kind : RecordKind} {p : Payload}
    (h : p.depth < left) :
    record form counted depth left kind p = record form [] depth left' kind p := by
  induction depth generalizing left left' kind p with
  | zero => rfl
  | succ depth ih =>
    obtain ⟨left, rfl⟩ := Nat.exists_eq_add_one_of_ne_zero (Nat.ne_zero_of_lt h)
    obtain ⟨inner, henter, hinner⟩ := enter_of_pos counted kind left
    rw [record, record, henter, Nesting.enter_nil]
    cases hentries : recordEntries? kind p with
    | none => rfl
    | some entries =>
      -- each record inside lies less deep, so that it has levels enough left in turn
      have hrecord (kind : RecordKind) (q : Payload) (hq : q.depth < p.depth) :
          record form counted depth inner kind q = record form [] depth left' kind q :=
        ih (Nat.lt_of_lt_of_le hq ((Nat.le_of_lt_succ h).trans hinner))
      dsimp only
      rw [recordFields_congr_decode hentries hrecord]

/-- The kinds whose records count in a form of payload. -/
def countedKinds (form : PayloadForm) (kind : RecordKind) : List RecordKind :=
  if form = .mapping then kind.counted else []

end Decoding

/-- The depth of a payload does not decide which kinds count: in one that is not deep, no record
has too few levels left. -/
theorem Record.decode_eq (form : PayloadForm) (kind : RecordKind) (p : Payload) :
    decode form kind p = (Decoding.record form (Decoding.countedKinds form kind) (p.depth + 1)
      Nesting.limit kind p).asRecord kind := by
  rw [decode]
  congr 1
  unfold Decoding.counted Decoding.countedKinds
  by_cases hform : form = .mapping
  · by_cases hdeep : Nesting.limit ≤ p.depth
    · rw [if_pos ⟨hform, hdeep⟩, if_pos hform]
    · rw [if_neg fun h => hdeep h.2]
      exact (Decoding.record_uncounted (Nat.lt_of_not_le hdeep)).symm
  · rw [if_neg fun h => hform h.1, if_neg hform]

end ChatRecords
