import ChatRecords.Interaction.Response
import ChatRecords.Proofs.Flags.Members

/-!
# Settings of an answer

A setting changes one field of an answer and no other, so what a field holds after some settings is
what the last one of that field has set. Only embeds and flags can be refused, and if nothing that
is refused is set, a new answer keeps the bounds on both.

## Main definitions

* `Response.TakesBit`, `ResponseSetting.IsTaken`: what an answer takes.
* `Response.field`: what a field of the data holds.
* `Response.IsWhole`: the data of an answer has all fields of its kind.
* `Response.IsBounded`: an answer holds no more embeds and no other flags than it takes.

## Main results

* `Response.apply_ok_iff`: which settings are taken, and what they do.
* `Response.field_foldl_put`: what a field holds after some settings.
* `Response.IsBounded.foldl_put`: settings that are taken keep an answer within its bounds.
-/

namespace ChatRecords
namespace Response

/-! ## What is taken -/

/-- The bit is that of one of the flags that an answer takes. -/
def TakesBit (i : Nat) : Prop :=
  ∃ name ∈ takenFlags, FlagClass.messageFlag.bit? name = some (2 ^ i)

theorem mem_takenMasks_iff {i : Nat} : 2 ^ i ∈ takenMasks ↔ TakesBit i :=
  List.mem_filterMap

theorem flagsRefused_eq_nil_iff {s : FlagSet} :
    flagsRefused s = [] ↔ ∀ i ∈ s.members, TakesBit i := by
  simp only [flagsRefused, List.filterMap_eq_nil_iff, FlagSet.toList, List.forall_mem_map,
    FlagSet.mem_positions, ← mem_takenMasks_iff]
  refine forall₂_congr fun i _ => ?_
  by_cases hi : 2 ^ i ∈ takenMasks <;> simp [hi]

end Response

namespace ResponseSetting

/-- An answer takes what is set: not too many embeds, and no other flags and no bits without a
name. -/
def IsTaken : ResponseSetting → Prop
  | .embeds records => records.length ≤ Response.maxEmbeds
  | .flags s => s.unknown = 0 ∧ ∀ i ∈ s.members, Response.TakesBit i
  | _ => True

/-- A setting is refused if and only if the answer does not take it. -/
theorem refusal?_eq_none_iff {s : ResponseSetting} : s.refusal? = none ↔ s.IsTaken := by
  cases s with
  | embeds records =>
    rw [refusal?, Response.embedsRefusal?, IsTaken]
    split <;> simp <;> omega
  | flags s =>
    rw [refusal?, Response.flagsRefusal?, IsTaken, ← Response.flagsRefused_eq_nil_iff, and_comm]
    simp
  | _ => exact iff_of_true rfl trivial

end ResponseSetting

namespace Response

variable {r r' : Response} {s : ResponseSetting} {settings : List ResponseSetting}

theorem apply_error_iff {fault : ResponseFault} :
    r.apply s = .error fault ↔ s.refusal? = some fault := by
  rw [apply]
  cases s.refusal? <;> simp

/-- What is taken is set, and an answer with what is not taken is none. -/
theorem apply_ok_iff : r.apply s = .ok r' ↔ s.IsTaken ∧ r.put s = r' := by
  rw [apply, ← ResponseSetting.refusal?_eq_none_iff]
  cases s.refusal? <;> simp

/-! ## Fields -/

/-- The names of the fields of the data. -/
def fieldNames : List String := noData.fields.map Prod.fst

theorem fieldNames_eq :
    fieldNames = RecordKind.interactionResponseData.fields.map Field.name := rfl

/-- What a field of the data holds. Where there is no data, it is what the field of new data
holds. -/
def field (name : String) (r : Response) : Value := (r.data.getD noData).get name

/-- The data is of its kind and has all fields of it. -/
def IsWhole (r : Response) : Prop :=
  ∀ data ∈ r.data, data.kind = .interactionResponseData ∧ data.fields.map Prod.fst = fieldNames

theorem isWhole_start : start.IsWhole := by
  rintro data ⟨⟩
  exact ⟨rfl, rfl⟩

theorem IsWhole.getD (h : r.IsWhole) : (r.data.getD noData).kind = .interactionResponseData ∧
    (r.data.getD noData).fields.map Prod.fst = fieldNames := by
  cases hdata : r.data with
  | none => exact ⟨rfl, rfl⟩
  | some data => exact h data hdata

/-- Setting a field of the data gives it its value and leaves the others. -/
theorem field_setData (h : r.IsWhole) {name : String} (hname : name ∈ fieldNames) (v : Value)
    (other : String) :
    (r.setData name v).field other = if other = name then v else r.field other := by
  rw [field, setData, Option.getD_some]
  split
  · next heq =>
    rw [heq]
    exact Record.get_set_self _ name v (h.getD.2 ▸ hname)
  · next hne => exact Record.get_set_of_ne _ v hne

theorem IsWhole.setData (h : r.IsWhole) (name : String) (v : Value) :
    (r.setData name v).IsWhole := by
  rintro _ ⟨⟩
  rw [Record.names_set]
  exact h.getD

/-- What a setting of the data sets is one of its fields. -/
theorem mem_fieldNames_of_written? {name : String} {v : Value} (h : s.written? = some (name, v)) :
    name ∈ fieldNames := by
  cases s <;> cases h <;> decide

/-- A setting of the data is one of its field. -/
theorem put_eq_setData {name : String} {v : Value} (h : s.written? = some (name, v)) :
    r.put s = r.setData name v := by
  cases s <;> cases h <;> rfl

theorem put_type (r : Response) (code : Code) : r.put (.type code) = { r with type := code } := rfl

/-- Only a setting of the type is none of the data. -/
theorem eq_type_or_exists_written (s : ResponseSetting) :
    (∃ code, s = .type code) ∨ ∃ name v, s.written? = some (name, v) := by
  cases s <;> first | exact .inl ⟨_, rfl⟩ | exact .inr ⟨_, _, rfl⟩

theorem IsWhole.put (h : r.IsWhole) (s : ResponseSetting) : (r.put s).IsWhole := by
  obtain ⟨code, rfl⟩ | ⟨name, v, hwritten⟩ := eq_type_or_exists_written s
  · exact h
  · rw [put_eq_setData hwritten]
    exact h.setData name v

/-- A field holds what a setting gives it, and what it held if the setting is one of another. -/
theorem field_put (h : r.IsWhole) (s : ResponseSetting) (name : String) :
    (r.put s).field name = (Entries.get? name s.written?.toList).getD (r.field name) := by
  obtain ⟨code, rfl⟩ | ⟨name', v, hwritten⟩ := eq_type_or_exists_written s
  · rfl
  · rw [put_eq_setData hwritten, field_setData h (mem_fieldNames_of_written? hwritten), hwritten]
    by_cases hname : name = name' <;> simp [Entries.get?, hname, eq_comm]

/-- What a field holds after some settings is what the last one of the field gives it. -/
theorem field_foldl_put (h : r.IsWhole) (settings : List ResponseSetting) (name : String) :
    (settings.foldl put r).field name =
      (Entries.get? name (settings.filterMap ResponseSetting.written?)).getD (r.field name) := by
  induction settings generalizing r with
  | nil => rfl
  | cons s rest ih =>
    rw [List.foldl_cons, ih (h.put s), field_put h]
    cases hwritten : s.written? with
    | none => simp [hwritten]
    | some e =>
      rw [List.filterMap_cons_some hwritten, Option.toList_some]
      cases hrest : Entries.get? name (rest.filterMap ResponseSetting.written?) <;>
        simp [Entries.get?, hrest]

/-- Some settings make the data of an answer if one of them sets a field of it. -/
theorem isSome_data_foldl_put (r : Response) (settings : List ResponseSetting) :
    (settings.foldl put r).data.isSome =
      (r.data.isSome || settings.any fun s => s.written?.isSome) := by
  induction settings generalizing r with
  | nil => simp
  | cons s rest ih =>
    rw [List.foldl_cons, ih, List.any_cons, ← Bool.or_assoc]
    obtain ⟨code, rfl⟩ | ⟨name, v, hwritten⟩ := eq_type_or_exists_written s
    · simp [put_type, ResponseSetting.written?]
    · simp [put_eq_setData hwritten, Response.setData, hwritten]

/-! ## Bounds -/

/-- An answer holds no more embeds than it takes, and no other flags. -/
structure IsBounded (r : Response) : Prop where
  embeds : (r.field "embeds").items.length ≤ maxEmbeds
  flags : ∀ s, (r.field "flags").flags? = some s → s.unknown = 0 ∧ ∀ i ∈ s.members, TakesBit i

theorem isBounded_start : start.IsBounded := ⟨by decide, by rintro s ⟨⟩⟩

theorem IsBounded.put (h : r.IsBounded) (hwhole : r.IsWhole) (hs : s.IsTaken) :
    (r.put s).IsBounded := by
  constructor
  · rw [field_put hwhole]
    cases s with
    | embeds records =>
      simpa [ResponseSetting.written?, Entries.get?, Value.items, ResponseSetting.IsTaken] using hs
    | _ => exact h.embeds
  · rw [field_put hwhole]
    cases s with
    | flags set =>
      rintro _ ⟨⟩
      exact hs
    | _ => exact h.flags

/-- Settings that are taken keep an answer within its bounds. -/
theorem IsBounded.foldl_put (h : r.IsBounded) (hwhole : r.IsWhole)
    (hs : ∀ s ∈ settings, s.IsTaken) : (settings.foldl Response.put r).IsBounded := by
  induction settings generalizing r with
  | nil => exact h
  | cons s rest ih =>
    rw [List.forall_mem_cons] at hs
    exact ih (h.put hwhole hs.1) (hwhole.put s) hs.2

end Response
end ChatRecords
