import ChatRecords.Snowflake
import Mathlib.Data.Prod.Lex

/-!
# The fields of an identifier

The four fields lie next to one another and fill the word, so that an identifier and its fields
determine each other, and identifiers stand in the order of their fields.

## Main definitions

* `Snowflake.Parts.Fit`: fields that an identifier has room for.
* `Snowflake.Parts.number`: the number that fields make up.
* `Snowflake.Parts.key`: the fields in the order in which they are compared.

## Main results

* `Snowflake.number_fields`: an identifier is made up of its fields.
* `Snowflake.Parts.Fit.number_lt_number_iff`: numbers compare as their fields do.
* `Snowflake.fields_of_raw`: what the fields say of an identifier.
-/

namespace ChatRecords
namespace Snowflake

namespace Parts

/-- An identifier has room for the fields. -/
structure Fit (p : Parts) : Prop where
  epoch_le : epochMs ≤ p.timestampMs
  timestampMs_lt : p.timestampMs - epochMs < 2 ^ 42
  workerId_lt : p.workerId < 32
  processId_lt : p.processId < 32
  /-- A process numbers its identifiers below 4096. -/
  increment_lt : p.increment < 4096

/-- The number that the fields make up, from the most significant to the least. -/
def number (p : Parts) : Nat :=
  (p.timestampMs - epochMs) * 2 ^ 22 + p.workerId * 2 ^ 17 + p.processId * 2 ^ 12 + p.increment

/-- The fields, of which the first that differs decides. -/
def key (p : Parts) : Nat ×ₗ Nat ×ₗ Nat ×ₗ Nat :=
  toLex (p.timestampMs, toLex (p.workerId, toLex (p.processId, p.increment)))

variable {p q : Parts}

theorem Fit.number_lt (h : p.Fit) : p.number < 2 ^ 64 := by
  obtain ⟨-, htimestamp, hworker, hprocess, hincrement⟩ := h
  rw [number]
  omega

theorem key_lt_key_iff : p.key < q.key ↔ p.timestampMs < q.timestampMs ∨
    p.timestampMs = q.timestampMs ∧ (p.workerId < q.workerId ∨
      p.workerId = q.workerId ∧ (p.processId < q.processId ∨
        p.processId = q.processId ∧ p.increment < q.increment)) := by
  simp only [key, Prod.Lex.toLex_lt_toLex]

/-- A field outweighs all that come after it, so that numbers compare as their fields do. -/
theorem Fit.number_lt_number_iff (hp : p.Fit) (hq : q.Fit) :
    p.number < q.number ↔ p.key < q.key := by
  obtain ⟨hepoch, -, hworker, hprocess, hincrement⟩ := hp
  obtain ⟨hepoch', -, hworker', hprocess', hincrement'⟩ := hq
  rw [key_lt_key_iff, number, number]
  omega

end Parts

variable {p : Parts}

theorem fields_eq (x : Snowflake) : x.fields =
    ⟨x.raw / 2 ^ 22 + epochMs, x.raw / 2 ^ 17 % 2 ^ 5, x.raw / 2 ^ 12 % 2 ^ 5, x.raw % 2 ^ 12⟩ := by
  rw [fields, timestampMs_eq, workerId_eq, processId_eq, increment_eq]

theorem fit_fields (x : Snowflake) : x.fields.Fit := by
  have hlt := x.raw_lt
  rw [fields_eq]
  constructor <;> dsimp only <;> omega

/-- The fields leave out no bit of the identifier and share none. -/
theorem number_fields (x : Snowflake) : x.fields.number = x.raw := by
  rw [fields_eq, Parts.number]
  dsimp only
  omega

/-- Fields that an identifier has room for are those of the number that they make up. -/
theorem fields_of_raw_eq_number (h : p.Fit) {x : Snowflake} (hx : x.raw = p.number) :
    x.fields = p := by
  obtain ⟨timestampMs, workerId, processId, increment⟩ := p
  obtain ⟨hepoch, htimestamp, hworker, hprocess, hincrement⟩ := h
  rw [fields_eq, hx, Parts.number, Parts.mk.injEq]
  dsimp only at *
  omega

theorem raw_lt_raw_iff (x y : Snowflake) : x.raw < y.raw ↔ x.fields.key < y.fields.key := by
  rw [← number_fields x, ← number_fields y, x.fit_fields.number_lt_number_iff y.fit_fields]

theorem raw_le_raw_iff (x y : Snowflake) : x.raw ≤ y.raw ↔ x.fields.key ≤ y.fields.key := by
  rw [← not_lt, raw_lt_raw_iff, not_lt]

theorem timestampMs_le_of_raw_le {x y : Snowflake} (h : x.raw ≤ y.raw) :
    x.timestampMs ≤ y.timestampMs := by
  rw [timestampMs_eq, timestampMs_eq]
  omega

/-- The fields of an identifier have bounds and make it up, and fields within these bounds are those
of one identifier only. Identifiers compare as their fields do from the time on, so that sorting
identifiers sorts them by their fields and thereby by the time at which they were made. Every
identifier but zero shows its fields. -/
theorem fields_of_raw :
    (∀ x : Snowflake, x.fields.Fit ∧ x.fields.number = x.raw) ∧
    (∀ p : Parts, p.Fit → ∃! x : Snowflake, x.fields = p) ∧
    (∀ x y : Snowflake, (x.raw < y.raw ↔ x.fields.key < y.fields.key) ∧
      (x.raw = y.raw ↔ x.fields = y.fields)) ∧
    (∀ xs : List Snowflake,
      (xs.mergeSort fun x y => decide (x.raw ≤ y.raw)) =
        (xs.mergeSort fun x y => decide (x.fields.key ≤ y.fields.key)) ∧
      (xs.mergeSort fun x y => decide (x.raw ≤ y.raw)).Pairwise fun x y =>
        x.timestampMs ≤ y.timestampMs) ∧
    ∀ x : Snowflake, (x.parts? = none ↔ x.raw = 0) ∧ (x.raw ≠ 0 → x.parts? = some x.fields) := by
  refine ⟨fun x => ⟨x.fit_fields, x.number_fields⟩, fun p hp => ?_, fun x y => ⟨raw_lt_raw_iff x y, ?_⟩,
    fun xs => ⟨?_, ?_⟩, fun x => ?_⟩
  · refine ⟨⟨p.number, hp.number_lt⟩, fields_of_raw_eq_number hp rfl, fun x hx => ?_⟩
    rw [Snowflake.mk.injEq, ← number_fields, hx]
  · constructor
    · intro h
      exact fields_of_raw_eq_number y.fit_fields (h.trans y.number_fields.symm)
    · intro h
      rw [← number_fields x, h, number_fields]
  · simp only [raw_le_raw_iff]
  · have hsorted : (xs.mergeSort fun x y => decide (x.raw ≤ y.raw)).Pairwise fun x y =>
        decide (x.raw ≤ y.raw) = true :=
      List.pairwise_mergeSort (fun x y z => by simpa using Nat.le_trans)
        (fun x y => by simpa using Nat.le_total x.raw y.raw) xs
    exact hsorted.imp fun h => timestampMs_le_of_raw_le (of_decide_eq_true h)
  · rw [parts?]
    by_cases hzero : x.raw = 0 <;> simp [hzero]

/-- The only identifier of a worker's eighth in its millisecond. -/
theorem fields_of_raw_of_parts :
    let p : Parts := ⟨1462015105796, 1, 0, 7⟩
    let x : Snowflake := ⟨175928847299117063, by decide⟩
    p.Fit ∧ x.fields = p ∧ (∀ y : Snowflake, y.fields = p → y = x) ∧ x.parts? = some p := by
  intro p x
  have hp : p.Fit := by constructor <;> decide
  have hx : x.fields = p := by decide
  obtain ⟨-, hunique, -, -, hparts⟩ := fields_of_raw
  refine ⟨hp, hx, fun y hy => (hunique p hp).unique hy hx, ?_⟩
  rw [(hparts x).2 (by decide), hx]

end Snowflake
end ChatRecords
