import ChatRecords.Proofs.Json.RoundTrip
import Mathlib.Data.List.Forall2

/-!
# The layout of JSON text

The text of a container is made of the texts of its parts, in the same way for arrays and objects.

## Main results

* `Json.writeAt_array`, `Json.writeAt_object`: the text of a container.
-/

namespace ChatRecords

theorem forall₂_map_map {α β γ : Type} {R : β → γ → Prop} {f : α → β} {g : α → γ} {xs : List α}
    (h : ∀ x ∈ xs, R (f x) (g x)) : List.Forall₂ R (xs.map f) (xs.map g) := by
  rw [List.forall₂_map_left_iff, List.forall₂_map_right_iff, List.forall₂_same]
  exact h

namespace Json

theorem writeItems_eq (indent : Option Nat) (level : Nat) (items : List Json) :
    writeItems indent level items = (items.map (writeAt indent level)).flatMap fun text =>
      ',' :: (lineBreak indent level ++ text) := by
  induction items with
  | nil => rfl
  | cons v rest ih => simp [writeItems, ih]

theorem writeEntries_eq (indent : Option Nat) (level : Nat) (entries : List (String × Json)) :
    writeEntries indent level entries = (entries.map fun e =>
      writeEntry indent e.1 (writeAt indent level e.2)).flatMap fun text =>
        ',' :: (lineBreak indent level ++ text) := by
  induction entries with
  | nil => rfl
  | cons e rest ih =>
    obtain ⟨k, v⟩ := e
    simp [writeEntries, writeEntry, ih]

/-- The text of an array is made of the texts of its items. -/
theorem writeAt_array (indent : Option Nat) (level : Nat) (items : List Json) :
    writeAt indent level (.array items) =
      enclose indent level '[' ']' (items.map (writeAt indent (level + 1))) := by
  cases items with
  | nil => rfl
  | cons v rest => rw [writeAt, writeItems_eq, List.map_cons, enclose]

/-- The text of an object is made of the texts of its entries. -/
theorem writeAt_object (indent : Option Nat) (level : Nat) (entries : List (String × Json)) :
    writeAt indent level (.object entries) = enclose indent level '{' '}'
      (entries.map fun e => writeEntry indent e.1 (writeAt indent (level + 1) e.2)) := by
  cases entries with
  | nil => rfl
  | cons e rest =>
    obtain ⟨k, v⟩ := e
    simp [writeAt, writeEntries_eq, enclose, writeEntry]

end Json
end ChatRecords
