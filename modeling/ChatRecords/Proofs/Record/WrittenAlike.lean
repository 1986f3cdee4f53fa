import ChatRecords.Proofs.Record.Contexts
import ChatRecords.Proofs.Record.Writable

/-!
# Values that are written alike

Whether a value can be written depends on some of its features only: whether its parts can be, how
many levels they have, and what tells the emoji among them apart. A part of a value that is replaced
by one with the same features does not make a difference.

## Main definitions

* `Value.WrittenAlike`: two values have these features in common.

## Main results

* `Value.WrittenAlike.plug`: what is around two such values does not change that.
* `Record.exists_encode_iff_of_writtenAlike`: a record can be written if one that is like it can.
-/

namespace ChatRecords

/-- What is read off the value of a key does not change with the value in the middle of some entries
if it is the same for both values. -/
theorem lookup_middle_congr {α β : Type} {f : α → β} {v v' : α} (h : f v' = f v) (k name : String)
    (before after : List (String × α)) :
    ((before ++ (name, v') :: after).lookup k).map f =
      ((before ++ (name, v) :: after).lookup k).map f := by
  rw [List.lookup_append, List.lookup_append, List.lookup_cons, List.lookup_cons]
  cases before.lookup k with
  | some w => rfl
  | none =>
    cases k == name with
    | true => exact congrArg some h
    | false => rfl

namespace Value

/-- Whether the value is the record of an emoji that cannot be told from others. -/
def isNameless : Value → Bool
  | .record kind fields => (Emoji.identity? ⟨kind, fields⟩).isNone
  | _ => false

theorem lacksIdentity_eq (kind : RecordKind) (fields : List (String × Value)) :
    lacksIdentity kind fields =
      (decide (kind = .reaction) && ((fields.lookup "emoji").map isNameless).getD false) := by
  by_cases hkind : kind = .reaction
  · subst hkind
    unfold lacksIdentity
    cases fields.lookup "emoji" with
    | none => rfl
    | some v => cases v <;> rfl
  · rw [decide_eq_false hkind, Bool.false_and]
    unfold lacksIdentity
    split
    · exact absurd rfl hkind
    · rfl

/-- Two values can or cannot be written both, have as many levels, and are told apart by the same
where they are parts of an emoji, or are emoji themselves. -/
structure WrittenAlike (v v' : Value) : Prop where
  encode : (∃ j, v'.encode = .ok j) ↔ ∃ j, v.encode = .ok j
  fullLevels : v'.fullLevels = v.fullLevels
  levels (counts : RecordKind → Bool) : v'.levels counts = v.levels counts
  id? : v'.id? = v.id?
  text? : v'.text? = v.text?
  isNameless : v'.isNameless = v.isNameless

theorem WrittenAlike.refl (v : Value) : WrittenAlike v v where
  encode := .rfl
  fullLevels := rfl
  levels _ := rfl
  id? := rfl
  text? := rfl
  isNameless := rfl

theorem WrittenAlike.trans {v v' v'' : Value} (h : WrittenAlike v v') (h' : WrittenAlike v' v'') :
    WrittenAlike v v'' where
  encode := h'.encode.trans h.encode
  fullLevels := h'.fullLevels.trans h.fullLevels
  levels counts := (h'.levels counts).trans (h.levels counts)
  id? := h'.id?.trans h.id?
  text? := h'.text?.trans h.text?
  isNameless := h'.isNameless.trans h.isNameless

theorem writtenAlike_truth (b b' : Bool) : WrittenAlike (.truth b) (.truth b') where
  encode := iff_of_true ⟨_, rfl⟩ ⟨_, rfl⟩
  fullLevels := rfl
  levels _ := rfl
  id? := rfl
  text? := rfl
  isNameless := rfl

namespace Frame

variable {v v' : Value}

theorem fullLevels_plug (h : v'.fullLevels = v.fullLevels) (frame : Frame) :
    (frame.plug v').fullLevels = (frame.plug v).fullLevels := by
  cases frame with
  | item before after =>
    rw [plug, plug, Value.fullLevels, Value.fullLevels]
    congr 1
    induction before with
    | nil => simp only [List.nil_append, fullLevelsOfItems, h]
    | cons x rest ih => simp only [List.cons_append, fullLevelsOfItems, ih]
  | entry before after key =>
    rw [plug, plug, Value.fullLevels, Value.fullLevels]
    congr 1
    induction before with
    | nil => simp only [List.nil_append, fullLevelsOfEntries, h]
    | cons x rest ih => simp only [List.cons_append, fullLevelsOfEntries, ih]
  | field kind before after name =>
    rw [plug, plug, Value.fullLevels, Value.fullLevels]
    congr 1
    induction before with
    | nil => simp only [List.nil_append, fullLevelsOfFields, h]
    | cons x rest ih => simp only [List.cons_append, fullLevelsOfFields, ih]

theorem levels_plug {counts : RecordKind → Bool} (hfull : v'.fullLevels = v.fullLevels)
    (h : v'.levels counts = v.levels counts) (frame : Frame) :
    (frame.plug v').levels counts = (frame.plug v).levels counts := by
  cases frame with
  | item before after =>
    rw [plug, plug, Value.levels, Value.levels]
    induction before with
    | nil => simp only [List.nil_append, levelsOfItems, h]
    | cons x rest ih => simp only [List.cons_append, levelsOfItems, ih]
  | entry before after key =>
    rw [plug, plug, Value.levels, Value.levels]
    induction before with
    | nil => simp only [List.nil_append, levelsOfEntries, h]
    | cons x rest ih => simp only [List.cons_append, levelsOfEntries, ih]
  | field kind before after name =>
    have hfields : levelsOfFields counts (before ++ (name, v') :: after) =
        levelsOfFields counts (before ++ (name, v) :: after) := by
      induction before with
      | nil => simp only [List.nil_append, levelsOfFields, h]
      | cons x rest ih => simp only [List.cons_append, levelsOfFields, ih]
    rw [plug, plug, Value.levels, Value.levels, hfields, emojiLevels, emojiLevels,
      lookup_middle_congr hfull]

theorem isNameless_plug (hid : v'.id? = v.id?) (htext : v'.text? = v.text?) (frame : Frame) :
    (frame.plug v').isNameless = (frame.plug v).isNameless := by
  cases frame with
  | field kind before after name =>
    have hread {α : Type} {f : Value → Option α} (h : f v' = f v) (k : String) :
        f (((before ++ (name, v') :: after).lookup k).getD .null) =
          f (((before ++ (name, v) :: after).lookup k).getD .null) := by
      have hlookup := congrArg (·.getD (f .null)) (lookup_middle_congr h k name before after)
      simpa only [Option.getD_map] using hlookup
    rw [plug, plug, Value.isNameless, Value.isNameless, Emoji.identity?, Emoji.identity?,
      Record.get, Record.get, Record.get, Record.get, hread hid, hread htext]
  | _ => rfl

theorem exists_encode_plug_iff (hencode : (∃ j, v'.encode = .ok j) ↔ ∃ j, v.encode = .ok j)
    (hname : v'.isNameless = v.isNameless) (frame : Frame) :
    (∃ j, (frame.plug v').encode = .ok j) ↔ ∃ j, (frame.plug v).encode = .ok j := by
  cases frame with
  | item before after =>
    simp only [plug, exists_encode_list_iff, List.forall_mem_append, List.forall_mem_cons, hencode]
  | entry before after key =>
    simp only [plug, exists_encode_map_iff, List.forall_mem_append, List.forall_mem_cons, hencode]
  | field kind before after name =>
    simp only [plug, exists_encode_record_iff, List.forall_mem_append, List.forall_mem_cons,
      hencode, lacksIdentity_eq, lookup_middle_congr hname]

end Frame

theorem WrittenAlike.frame {v v' : Value} (h : WrittenAlike v v') (frame : Frame) :
    WrittenAlike (frame.plug v) (frame.plug v') where
  encode := frame.exists_encode_plug_iff h.encode h.isNameless
  fullLevels := frame.fullLevels_plug h.fullLevels
  levels counts := frame.levels_plug h.fullLevels (h.levels counts)
  id? := by cases frame <;> rfl
  text? := by cases frame <;> rfl
  isNameless := frame.isNameless_plug h.id? h.text?

/-- What is around two values that are written alike does not change that. -/
theorem WrittenAlike.plug {v v' : Value} (h : WrittenAlike v v') (c : Context) :
    WrittenAlike (c.plug v) (c.plug v') := by
  induction c with
  | nil => exact h
  | cons frame rest ih => exact ih.frame frame

end Value

/-- A record can be written if and only if one that is like it can. -/
theorem Record.exists_encode_iff_of_writtenAlike {r r' : Record} (hkind : r'.kind = r.kind)
    (h : Value.WrittenAlike r.toValue r'.toValue) :
    (∃ j, r'.encode = .ok j) ↔ ∃ j, r.encode = .ok j := by
  have hdeep : r'.isTooDeep = r.isTooDeep := by
    simp only [isTooDeep, h.levels, hkind]
  rw [Record.encode, Record.encode, hdeep]
  cases r.isTooDeep with
  | true => simp
  | false => simpa using h.encode

end ChatRecords
