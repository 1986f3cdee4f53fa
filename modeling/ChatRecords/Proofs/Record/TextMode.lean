import ChatRecords.Proofs.Json.Layout
import ChatRecords.Proofs.Record.Parts

/-!
# The two ways of writing

Text that is made part by part is the text of the JSON value, and where one cannot be made the other
cannot either, for the same reason.

## Main results

* `Value.writeAt_eq`: the text of a value is that of its JSON value.
* `Record.encodeText_eq`: so is the text of a record.
-/

namespace ChatRecords
namespace Value

variable {indent : Option Nat} {level : Nat}

/-- The texts of items are those of their JSON values, if each of them is. -/
theorem writeItems_eq {items : List Value}
    (h : ∀ v ∈ items, v.writeAt indent level = v.encode.map (Json.writeAt indent level)) :
    writeItems indent level items =
      (encodeItems items).map (List.map (Json.writeAt indent level)) := by
  induction items with
  | nil => rfl
  | cons v rest ih =>
    rw [List.forall_mem_cons] at h
    rw [writeItems, encodeItems, h.1, ih h.2]
    cases v.encode <;> cases encodeItems rest <;> rfl

theorem writeEntries_eq {entries : List (MapKey × Value)}
    (h : ∀ e ∈ entries, e.2.writeAt indent level = e.2.encode.map (Json.writeAt indent level)) :
    writeEntries indent level entries = (encodeEntries entries).map
      (List.map fun e => Json.writeEntry indent e.1 (e.2.writeAt indent level)) := by
  induction entries with
  | nil => rfl
  | cons e rest ih =>
    obtain ⟨k, v⟩ := e
    rw [List.forall_mem_cons] at h
    rw [writeEntries, encodeEntries, h.1, ih h.2]
    cases v.encode <;> cases encodeEntries rest <;> rfl

theorem writeFields_eq {fields : List (String × Value)}
    (h : ∀ f ∈ fields, f.2.writeAt indent level = f.2.encode.map (Json.writeAt indent level)) :
    writeFields indent level fields = (encodeFields fields).map
      (List.map fun e => Json.writeEntry indent e.1 (e.2.writeAt indent level)) := by
  induction fields with
  | nil => rfl
  | cons f rest ih =>
    obtain ⟨name, v⟩ := f
    rw [List.forall_mem_cons] at h
    by_cases hnull : v = .null
    · subst hnull
      rw [writeFields, encodeFields, ih h.2]
    · rw [writeFields, encodeFields, h.1, ih h.2]
      · cases v.encode <;> cases encodeFields rest <;> rfl
      · exact hnull
      · exact hnull

/-- The text of a value is that of its JSON value, on every level of nesting. -/
theorem writeAt_eq (v : Value) (indent : Option Nat) (level : Nat) :
    v.writeAt indent level = v.encode.map (Json.writeAt indent level) := by
  induction v using Value.induction generalizing level with
  | leaf v hleaf =>
    cases v with
    | list _ | map _ | record _ _ => simp [hasParts] at hleaf
    | truth b => cases b <;> simp [writeAt, encode, Json.writeAt, Except.map]
    | choice c => cases c <;> simp [writeAt, encode, Json.writeAt, Except.map]
    | code c => cases c <;> simp [writeAt, encode, Json.writeAt, Except.map]
    | _ => simp [writeAt, encode, Json.writeAt, Except.map]
  | list items ih =>
    rw [writeAt, encode, writeItems_eq fun v hv => ih v hv (level + 1)]
    cases encodeItems items with
    | error e => rfl
    | ok js => simp only [Except.map, Json.writeAt_array]
  | map entries ih =>
    rw [writeAt, encode, writeEntries_eq fun e he => ih e he (level + 1)]
    cases encodeEntries entries with
    | error e => rfl
    | ok es => simp only [Except.map, Json.writeAt_object]
  | record kind fields ih =>
    rw [writeAt, encode, writeFields_eq fun f hf => ih f hf (level + 1)]
    split
    · rfl
    · cases encodeFields fields with
      | error e => rfl
      | ok es => simp only [Except.map, Json.writeAt_object]

end Value

/-- The text of a record is that of its JSON value, and where one fails the other does. -/
theorem Record.encodeText_eq (indent : Option Nat) (r : Record) :
    r.encodeText indent = r.encode.map (Json.write indent) := by
  rw [encodeText, encode, Value.writeAt_eq]
  split
  · rfl
  · cases r.toValue.encode <;> rfl

end ChatRecords
