import ChatRecords.Record.Fields

/-!
# Facts about the schemas

What the fields of every kind of record have in common. The facts are computed: one function
checks the fields of a kind, and every kind passes.

## Main definitions

* `FieldType.mayBeNothing`: the types that have nothing as a value.
* `FieldType.holdsFlags`: the types whose values hold flag sets that lie in no record of theirs.
* `FieldType.hasDefault`: whether a value of a type can stand for an absent field.
* `RecordKind.isRegular`: the check.

## Main results

* `RecordKind.isRegular_all`: every kind passes.
* `RecordKind.nodup_names`, `RecordKind.fallback_null`, `RecordKind.hasDefault_of_fallback`,
  `RecordKind.flagsOutside_of_mem`: what the check says.
-/

namespace ChatRecords

/-- Whether a code is a value of an enumeration. Words and numbers never mix in one, and every
number fits in a word with a sign. -/
def Enumeration.holds (e : Enumeration) (c : Code) : Bool :=
  decide (c ∈ e.codes) && match c with
    | .word _ => e.isWords
    | .number n => !e.isWords && decide (Choice.FitsInteger n)

namespace FieldType

/-- Whether nothing is a value of the type. -/
def mayBeNothing : FieldType → Bool
  | .nullable _ | .any => true
  | _ => false

/-- Whether values of the type hold flag sets that lie in no record of theirs. -/
def holdsFlags : FieldType → Bool
  | .flags _ | .any => true
  | .list item | .map _ item => item.holdsFlags
  | .nullable inner => inner.holdsFlags
  | _ => false

/-- Whether flag sets of the record itself lie outside of lists and maps. -/
def flagsOutside : FieldType → Bool
  | .list item | .map _ item => !item.holdsFlags
  | .nullable inner => inner.flagsOutside
  | _ => true

theorem flagsOutside_of_holdsFlags {t : FieldType} (h : t.holdsFlags = false) :
    t.flagsOutside = true := by
  induction t with
  | list item _ | map _ item _ =>
    rw [holdsFlags] at h
    rw [flagsOutside, h]
    rfl
  | nullable inner ih => exact ih h
  | _ => rfl

/-- Whether a value without parts can stand for an absent field of the type. -/
def hasSimpleDefault : FieldType → Value → Bool
  | .nullable _, .null | .scalar .text, .text _ | .scalar .integer, .integer _
  | .scalar .truth, .truth _ | .messageType, .messageType _ | .list _, .list []
  | .map _ _, .map [] => true
  | .code e, .code c => e.holds c
  | .flags c, .flags s => decide (s = .empty c)
  | _, _ => false

/-- Whether a value can stand for an absent field of the type: one without parts, or a record
with nothing but such values. -/
def hasDefault (t : FieldType) (v : Value) : Bool :=
  match t, v with
  | .record kind, .record kind' fields =>
    decide (kind' = kind) && decide (fields.map Prod.fst = kind.fields.map Field.name) &&
      (kind.fields.zip fields).all fun e => e.1.type.hasSimpleDefault e.2.2
  | _, _ => t.hasSimpleDefault v

end FieldType

/-- Whether an absent field holds nothing. -/
def Field.fallsBackToNothing (f : Field) : Bool :=
  match f.fallback with
  | some .null => true
  | _ => false

/-- Whether a field is as all are: it is absent if and only if it holds nothing, where its type
allows that; what stands for it when absent is of its type; and its own flag sets are not in
lists or maps. -/
def Field.isRegular (f : Field) : Bool :=
  (!f.type.mayBeNothing || f.fallsBackToNothing) &&
    (f.fallback.all fun v => f.type.hasDefault v) && f.type.flagsOutside

namespace RecordKind

/-- Whether the fields of a kind have distinct names and are as all are. -/
def isRegular (kind : RecordKind) : Bool :=
  decide (kind.fields.map Field.name).Nodup && kind.fields.all Field.isRegular

theorem isRegular_all (kind : RecordKind) : kind.isRegular = true := by
  cases kind <;> decide +kernel

variable {kind : RecordKind} {f : Field}

/-- The fields of a kind have distinct names. -/
theorem nodup_names (kind : RecordKind) : (kind.fields.map Field.name).Nodup := by
  have h := kind.isRegular_all
  rw [isRegular, Bool.and_eq_true] at h
  exact of_decide_eq_true h.1

theorem isRegular_of_mem (hf : f ∈ kind.fields) : f.isRegular = true := by
  have h := kind.isRegular_all
  rw [isRegular, Bool.and_eq_true] at h
  exact List.all_eq_true.1 h.2 f hf

/-- A field that may hold nothing holds nothing when it is absent. -/
theorem fallback_null (hf : f ∈ kind.fields) (h : f.type.mayBeNothing = true) :
    f.fallback = some .null := by
  have hregular := isRegular_of_mem hf
  simp only [Field.isRegular, h, Bool.not_true, Bool.false_or, Bool.and_eq_true] at hregular
  have hnothing := hregular.1.1
  rw [Field.fallsBackToNothing] at hnothing
  split at hnothing
  · assumption
  · simp at hnothing

/-- What stands for an absent field is of its type. -/
theorem hasDefault_of_fallback (hf : f ∈ kind.fields) {v : Value} (h : f.fallback = some v) :
    f.type.hasDefault v = true := by
  have hregular := isRegular_of_mem hf
  simp only [Field.isRegular, h, Option.all_some, Bool.and_eq_true] at hregular
  exact hregular.1.2

/-- The flag sets of a record itself are not in lists or maps. -/
theorem flagsOutside_of_mem (hf : f ∈ kind.fields) : f.type.flagsOutside = true := by
  have hregular := isRegular_of_mem hf
  simp only [Field.isRegular, Bool.and_eq_true] at hregular
  exact hregular.2

end RecordKind
end ChatRecords
