import ChatRecords.Proofs.Flags.Iteration

/-!
# Programs with flag sets

A program makes flag sets, combines them and changes them, in any order. Each set stays what it is
until a step changes that very set, and what its members are follows from the steps as for finite
sets of positions.

## Main definitions

* `FlagCall`: the steps of a program, with `FlagCall.perform` and `FlagCall.run`.
* `FlagCall.tell`: what a step does to sets of positions.
* `FlagCall.Fits`: the flags that a step is given have names.
* `FlagCall.FlagsInWord`: the flags that a step is given fit in a word.

## Main results

* `FlagCall.mem_after`: where a set comes from.
* `FlagCall.getElem?_after`: a step changes no set but the one it is meant to change.
* `FlagCall.view_after`: a step does to sets of positions what it tells.
* `FlagCall.sets_of_run`: what holds after any steps whose flags have names.
* `FlagCall.masks_of_run`: the wire forms, also after steps whose flags have none.

## Design notes

Every step that makes a set makes a new object, also a copy and a combination, so that two sets of
a program are never one object and a set can stand for the object that holds it.
-/

namespace ChatRecords

instance (mask : Int) : Decidable (FlagSet.FitsWord mask) := by
  unfold FlagSet.FitsWord; infer_instance

/-- A step of a program with flag sets. Sets are numbered in the order in which they are made. -/
inductive FlagCall where
  | empty (c : FlagClass)
  | build (c : FlagClass) (flags : List Int) (unknown : Int)
  | ofMask (c : FlagClass) (mask : Int) (keepUnknown : Bool)
  | copy (i : Nat)
  | union (i j : Nat)
  | difference (i j : Nat)
  | add (i : Nat) (flag : Int)
  | remove (i : Nat) (flag : Int)
  | dropUnknown (i : Nat)

/-- Why a step is refused. -/
inductive FlagRefusal where
  /-- An integer is not the wire form of a set. -/
  | mask (refusal : MaskRefusal)
  /-- Two sets are of different classes. -/
  | classes (mismatch : ClassMismatch)

namespace FlagCall

/-! ## Steps -/

/-- Two sets combined, where both are there. -/
def combined (op : FlagSet → FlagSet → FlagSet) (a b : Option FlagSet) :
    Except FlagRefusal (Option FlagSet) :=
  match a, b with
  | some a, some b =>
    match FlagSet.combine op a b with
    | .ok s => .ok (some s)
    | .error mismatch => .error (.classes mismatch)
  | _, _ => .ok none

/-- The set that a step makes, beside those that are there. -/
def made (sets : List FlagSet) : FlagCall → Except FlagRefusal (Option FlagSet)
  | empty c => .ok (some (.empty c))
  | build c flags unknown => .ok (some (.ofFlags c flags unknown))
  | ofMask c mask keepUnknown =>
    match FlagSet.ofMask c mask keepUnknown with
    | .ok r => .ok (some r.1)
    | .error refusal => .error (.mask refusal)
  | copy i => .ok (sets[i]?.map FlagSet.copy)
  | union i j => combined .union sets[i]? sets[j]?
  | difference i j => combined .difference sets[i]? sets[j]?
  | add .. | remove .. | dropUnknown _ => .ok none

/-- The set that a step changes, and how. -/
def change? : FlagCall → Option (Nat × (FlagSet → FlagSet))
  | add i flag => some (i, fun s => s.add flag)
  | remove i flag => some (i, fun s => s.remove flag)
  | dropUnknown i => some (i, FlagSet.dropUnknown)
  | _ => none

/-- The set that a step changes. -/
def target? (call : FlagCall) : Option Nat := call.change?.map Prod.fst

/-- The sets after a step, or why it is refused. -/
def perform (sets : List FlagSet) (call : FlagCall) : Except FlagRefusal (List FlagSet) :=
  match call.change? with
  | some (i, f) => .ok (sets.modify i f)
  | none => (call.made sets).map fun new => sets ++ new.toList

/-- The sets after a step; one that is refused leaves them as they are. -/
def after (sets : List FlagSet) (call : FlagCall) : List FlagSet :=
  match call.perform sets with
  | .ok sets' => sets'
  | .error _ => sets

/-- The sets after a program. -/
def run (calls : List FlagCall) : List FlagSet := calls.foldl after []

/-- The flags that a step is given. -/
def flags : FlagCall → List Int
  | build _ flags _ => flags
  | add _ flag | remove _ flag => [flag]
  | _ => []

/-- The class of a new set names bits of a word, and the flags that a step is given are named. -/
def Fits (sets : List FlagSet) : FlagCall → Prop
  | empty c | ofMask c _ _ => c.InWord
  | build c flags _ => c.InWord ∧ ∀ flag ∈ flags, c.Combines flag
  | add i flag | remove i flag => ∀ s, sets[i]? = some s → s.flagClass.Combines flag
  | _ => True

/-- Each step of a program fits the sets that are there. -/
def FitsAll : List FlagSet → List FlagCall → Prop
  | _, [] => True
  | sets, call :: rest => call.Fits sets ∧ FitsAll (call.after sets) rest

/-! ## Sets of positions -/

/-- Two sets of positions combined, where both are there and of one class. -/
def combinedViews (op : FlagView → FlagView → FlagView) (a b : Option FlagView) :
    Option FlagView :=
  match a, b with
  | some a, some b => if a.flagClass = b.flagClass then some (op a b) else none
  | _, _ => none

/-- What a step does to sets of positions. -/
def tell (views : List FlagView) : FlagCall → List FlagView
  | empty c => views ++ [⟨c, ∅, ∅⟩]
  | build c flags unknown => views ++ [.ofFlags c flags unknown]
  | ofMask c mask keepUnknown =>
    if FlagSet.FitsWord mask then views ++ [.ofMask c mask keepUnknown] else views
  | copy i => views ++ views[i]?.toList
  | union i j => views ++ (combinedViews .union views[i]? views[j]?).toList
  | difference i j => views ++ (combinedViews .difference views[i]? views[j]?).toList
  | add i flag => views.modify i (.insert flag)
  | remove i flag => views.modify i (.erase flag)
  | dropUnknown i => views.modify i .forget

variable {sets : List FlagSet} {call : FlagCall} {calls : List FlagCall} {s : FlagSet}

/-! ## What a step does -/

theorem after_of_change? {i : Nat} {f : FlagSet → FlagSet} (h : call.change? = some (i, f)) :
    call.after sets = sets.modify i f := by
  rw [after, perform, h]

theorem after_of_made {new : Option FlagSet} (hchange : call.change? = none)
    (h : call.made sets = .ok new) : call.after sets = sets ++ new.toList := by
  rw [after, perform, hchange, h]
  rfl

theorem after_of_refused {refusal : FlagRefusal} (hchange : call.change? = none)
    (h : call.made sets = .error refusal) : call.after sets = sets := by
  rw [after, perform, hchange, h]
  rfl

/-- A set that is there after a step was there before, was made by it, or was changed by it. -/
theorem mem_after (h : s ∈ call.after sets) :
    s ∈ sets ∨ call.made sets = .ok (some s) ∨
      ∃ i f old, call.change? = some (i, f) ∧ sets[i]? = some old ∧ s = f old := by
  cases hchange : call.change? with
  | some e =>
    obtain ⟨i, f⟩ := e
    rw [after_of_change? hchange, List.mem_iff_getElem?] at h
    obtain ⟨j, hj⟩ := h
    rw [List.getElem?_modify] at hj
    obtain ⟨old, hold, rfl⟩ := Option.map_eq_some_iff.1 hj
    split
    · next hij =>
      subst hij
      exact .inr (.inr ⟨i, f, old, rfl, hold, rfl⟩)
    · exact .inl (List.mem_of_getElem? hold)
  | none =>
    cases hmade : call.made sets with
    | error refusal =>
      rw [after_of_refused hchange hmade] at h
      exact .inl h
    | ok new =>
      rw [after_of_made hchange hmade, List.mem_append, Option.mem_toList] at h
      refine h.imp_right fun hnew => .inl ?_
      rw [Option.mem_def.1 hnew]

/-- A step changes no set but the one it is meant to change. -/
theorem getElem?_after {j : Nat} (hj : j < sets.length) (htarget : call.target? ≠ some j) :
    (call.after sets)[j]? = sets[j]? := by
  cases hchange : call.change? with
  | some e =>
    obtain ⟨i, f⟩ := e
    have hij : ¬i = j := by
      rintro rfl
      exact htarget (by rw [target?, hchange]; rfl)
    rw [after_of_change? hchange, List.getElem?_modify]
    simp [hij]
  | none =>
    cases hmade : call.made sets with
    | error refusal => rw [after_of_refused hchange hmade]
    | ok new => rw [after_of_made hchange hmade, List.getElem?_append_left hj]

/-! ## Combining -/

theorem combined_some (op : FlagSet → FlagSet → FlagSet) {a b : FlagSet}
    (h : a.flagClass = b.flagClass) : combined op (some a) (some b) = .ok (some (op a b)) := by
  simp only [combined, FlagSet.combine, if_pos h]

theorem combined_of_ne (op : FlagSet → FlagSet → FlagSet) {a b : FlagSet}
    (h : a.flagClass ≠ b.flagClass) : combined op (some a) (some b) =
      .error (.classes ⟨a.flagClass.name, b.flagClass.name⟩) := by
  simp only [combined, FlagSet.combine, if_neg h]

theorem combined_eq_some {op : FlagSet → FlagSet → FlagSet} {x y : Option FlagSet}
    (h : combined op x y = .ok (some s)) :
    ∃ a b, x = some a ∧ y = some b ∧ a.flagClass = b.flagClass ∧ s = op a b := by
  cases x with
  | none => cases h
  | some a =>
    cases y with
    | none => cases h
    | some b =>
      by_cases hclass : a.flagClass = b.flagClass
      · rw [combined_some op hclass] at h
        exact ⟨a, b, rfl, rfl, hclass, (Option.some.inj (Except.ok.inj h)).symm⟩
      · rw [combined_of_ne op hclass] at h
        cases h

theorem view_after_of_made {new : Option FlagSet} (hchange : call.change? = none)
    (h : call.made sets = .ok new) : (call.after sets).map FlagSet.view =
      sets.map FlagSet.view ++ (new.map FlagSet.view).toList := by
  rw [after_of_made hchange h, List.map_append]
  cases new <;> rfl

/-- Combining sets is combining their views, if the operation is one on views. -/
theorem view_after_combined {op : FlagSet → FlagSet → FlagSet} {opView : FlagView → FlagView → FlagView}
    (hop : ∀ a b, (op a b).view = opView a.view b.view) {x y : Option FlagSet}
    (hchange : call.change? = none) (hmade : call.made sets = combined op x y) :
    (call.after sets).map FlagSet.view = sets.map FlagSet.view ++
      (combinedViews opView (x.map FlagSet.view) (y.map FlagSet.view)).toList := by
  cases x with
  | none => exact view_after_of_made hchange hmade
  | some a =>
    cases y with
    | none => exact view_after_of_made hchange hmade
    | some b =>
      by_cases hclass : a.flagClass = b.flagClass
      · rw [combined_some op hclass] at hmade
        have hviews : a.view.flagClass = b.view.flagClass := hclass
        rw [view_after_of_made hchange hmade, Option.map_some, hop]
        simp only [Option.map_some, combinedViews, if_pos hviews]
      · rw [combined_of_ne op hclass] at hmade
        have hviews : ¬a.view.flagClass = b.view.flagClass := hclass
        rw [after_of_refused hchange hmade]
        simp only [Option.map_some, combinedViews, if_neg hviews, Option.toList_none, List.append_nil]

/-! ## Sound sets stay sound -/

/-- The sets are sound, and their classes name bits of a word. -/
def AllSound (sets : List FlagSet) : Prop := ∀ s ∈ sets, s.Sound ∧ s.flagClass.InWord

theorem AllSound.getElem? (hs : AllSound sets) {i : Nat} (h : sets[i]? = some s) :
    s.Sound ∧ s.flagClass.InWord :=
  hs s (List.mem_of_getElem? h)

/-- A set that a step makes is sound. -/
theorem AllSound.sound_of_made (hs : AllSound sets) (hfits : call.Fits sets)
    (h : call.made sets = .ok (some s)) : s.Sound ∧ s.flagClass.InWord := by
  cases call with
  | empty c =>
    obtain rfl := Option.some.inj (Except.ok.inj h)
    exact ⟨FlagSet.sound_empty c, hfits⟩
  | build c flags unknown =>
    obtain rfl := Option.some.inj (Except.ok.inj h)
    exact ⟨FlagSet.sound_ofFlags hfits.1 hfits.2 unknown, hfits.1⟩
  | ofMask c mask keep =>
    simp only [made] at h
    split at h
    · next r hread =>
      obtain rfl := Option.some.inj (Except.ok.inj h)
      obtain ⟨hclass, hsound⟩ := FlagSet.sound_of_ofMask_ok hread
      exact ⟨hsound, hclass ▸ hfits⟩
    · cases h
  | copy i =>
    obtain ⟨a, ha, rfl⟩ := Option.map_eq_some_iff.1 (Except.ok.inj h)
    rw [(hs.getElem? ha).1.copy_eq]
    exact hs.getElem? ha
  | union i j =>
    obtain ⟨a, b, ha, hb, hclass, rfl⟩ := combined_eq_some h
    exact ⟨(hs.getElem? ha).1.union (hs.getElem? hb).1 hclass, (hs.getElem? ha).2⟩
  | difference i j =>
    obtain ⟨a, b, ha, -, -, rfl⟩ := combined_eq_some h
    exact ⟨(hs.getElem? ha).1.difference b, (hs.getElem? ha).2⟩
  | add i flag | remove i flag | dropUnknown i => cases h

/-- A set that a step changes stays sound. -/
theorem AllSound.sound_of_change (hs : AllSound sets) (hfits : call.Fits sets) {i : Nat}
    {f : FlagSet → FlagSet} (h : call.change? = some (i, f)) {old : FlagSet}
    (hold : sets[i]? = some old) : (f old).Sound ∧ (f old).flagClass.InWord := by
  obtain ⟨hsound, hclass⟩ := hs.getElem? hold
  cases call with
  | add j flag =>
    obtain ⟨rfl, rfl⟩ := Prod.mk.inj (Option.some.inj h)
    exact ⟨hsound.add hclass (hfits old hold), hclass⟩
  | remove j flag =>
    obtain ⟨rfl, rfl⟩ := Prod.mk.inj (Option.some.inj h)
    exact ⟨hsound.remove flag, hclass⟩
  | dropUnknown j =>
    obtain ⟨rfl, rfl⟩ := Prod.mk.inj (Option.some.inj h)
    exact ⟨hsound.dropUnknown, hclass⟩
  | empty | build | ofMask | copy | union | difference => cases h

theorem AllSound.after (hs : AllSound sets) (hfits : call.Fits sets) :
    AllSound (call.after sets) := by
  intro s hmem
  obtain hold | hmade | ⟨i, f, old, hchange, hold, rfl⟩ := mem_after hmem
  · exact hs s hold
  · exact hs.sound_of_made hfits hmade
  · exact hs.sound_of_change hfits hchange hold

theorem AllSound.run (hs : AllSound sets) (h : FitsAll sets calls) :
    AllSound (calls.foldl FlagCall.after sets) := by
  induction calls generalizing sets with
  | nil => exact hs
  | cons call rest ih => exact ih (hs.after h.1) h.2

/-! ## What a step does to sets of positions -/

/-- A change of one set changes its view, if it is one of views. -/
theorem map_view_modify {i : Nat} {f : FlagSet → FlagSet} {g : FlagView → FlagView}
    (h : ∀ s, sets[i]? = some s → (f s).view = g s.view) :
    (sets.modify i f).map FlagSet.view = (sets.map FlagSet.view).modify i g := by
  refine List.ext_getElem? fun j => ?_
  rw [List.getElem?_map, List.getElem?_modify, List.getElem?_modify, List.getElem?_map]
  cases hj : sets[j]? with
  | none => rfl
  | some s =>
    by_cases hij : i = j
    · subst hij
      simp [h s hj]
    · simp [hij]

/-- A step does to sets of positions what it tells. -/
theorem view_after (hs : AllSound sets) (hfits : call.Fits sets) :
    (call.after sets).map FlagSet.view = call.tell (sets.map FlagSet.view) := by
  cases call with
  | empty c =>
    have hmade : (empty c).made sets = .ok (some (.empty c)) := rfl
    rw [view_after_of_made rfl hmade, Option.map_some, FlagSet.view_empty]
    rfl
  | build c flags unknown =>
    have hnonneg (flag : Int) (hflag : flag ∈ flags) : 0 ≤ flag := (hfits.2 flag hflag).nonneg
    have hmade : (build c flags unknown).made sets = .ok (some (.ofFlags c flags unknown)) := rfl
    rw [view_after_of_made rfl hmade, Option.map_some, FlagSet.view_ofFlags hnonneg]
    rfl
  | ofMask c mask keep =>
    cases hread : FlagSet.ofMask c mask keep with
    | ok r =>
      have hmade : (ofMask c mask keep).made sets = .ok (some r.1) := by simp only [made, hread]
      rw [view_after_of_made rfl hmade, Option.map_some, FlagSet.view_ofMask hread, tell,
        if_pos (FlagSet.fitsWord_of_ofMask hread)]
      rfl
    | error refusal =>
      have hmade : (ofMask c mask keep).made sets = .error (.mask refusal) := by
        simp only [made, hread]
      rw [after_of_refused rfl hmade, tell, if_neg (FlagSet.not_fitsWord_of_ofMask hread)]
  | copy i =>
    have hmade : (copy i).made sets = .ok (sets[i]?.map FlagSet.copy) := rfl
    rw [view_after_of_made rfl hmade, tell, List.getElem?_map]
    cases hi : sets[i]? with
    | none => rfl
    | some s => rw [Option.map_some, (hs.getElem? hi).1.copy_eq]
  | union i j =>
    rw [view_after_combined FlagSet.view_union rfl rfl, tell, List.getElem?_map, List.getElem?_map]
  | difference i j =>
    rw [view_after_combined FlagSet.view_difference rfl rfl, tell, List.getElem?_map,
      List.getElem?_map]
  | add i flag =>
    rw [after_of_change? rfl]
    exact map_view_modify fun s hi => FlagSet.view_add (hfits s hi).nonneg
  | remove i flag =>
    rw [after_of_change? rfl]
    exact map_view_modify fun s hi => FlagSet.view_remove (hfits s hi).nonneg
  | dropUnknown i =>
    rw [after_of_change? rfl]
    exact map_view_modify fun s _ => FlagSet.view_dropUnknown s

theorem view_run (hs : AllSound sets) (h : FitsAll sets calls) :
    (calls.foldl after sets).map FlagSet.view = calls.foldl tell (sets.map FlagSet.view) := by
  induction calls generalizing sets with
  | nil => rfl
  | cons call rest ih => rw [List.foldl_cons, List.foldl_cons, ih (hs.after h.1) h.2, view_after hs h.1]

/-! ## After any program -/

theorem perform_copy (hs : AllSound sets) {i : Nat} (h : sets[i]? = some s) :
    (copy i).perform sets = .ok (sets ++ [s]) := by
  change Except.ok (sets ++ (sets[i]?.map FlagSet.copy).toList) = _
  rw [h, Option.map_some, (hs.getElem? h).1.copy_eq]
  rfl

theorem perform_combined {op : FlagSet → FlagSet → FlagSet} {i j : Nat} {a b : FlagSet}
    (hchange : call.change? = none) (hmade : call.made sets = combined op sets[i]? sets[j]?)
    (ha : sets[i]? = some a) (hb : sets[j]? = some b) :
    call.perform sets = if a.flagClass = b.flagClass then .ok (sets ++ [op a b])
      else .error (.classes ⟨a.flagClass.name, b.flagClass.name⟩) := by
  simp only [perform, hchange]
  rw [hmade, ha, hb]
  by_cases hclass : a.flagClass = b.flagClass
  · rw [combined_some op hclass, if_pos hclass]
    rfl
  · rw [combined_of_ne op hclass, if_neg hclass]
    rfl

/-- After any steps whose flags have names, each set has the members that follow from the steps as
for finite sets of positions, and keeps bits without a name apart from them. A copy is equal to
its set, what is combined has no other bits and must be of one class, and each set reads back from
its wire form. Further steps change no set but the one that they are meant to change. -/
theorem sets_of_run (h : FitsAll [] calls) :
    (run calls).map FlagSet.view = calls.foldl tell [] ∧
    (∀ s ∈ run calls, s.Sound ∧ s.bitCount = s.members.card ∧
      (∀ m ∈ s.flagClass.members, s.contains (2 ^ m.2 : Nat) = true ↔ m.2 ∈ s.members) ∧
      FlagSet.ofMask s.flagClass s.toMask true = .ok (s, s.unknown != 0)) ∧
    (∀ a ∈ run calls, ∀ b ∈ run calls, a = b ↔ a.flagClass = b.flagClass ∧
      (∀ m ∈ a.flagClass.members, a.contains (2 ^ m.2 : Nat) = b.contains (2 ^ m.2 : Nat)) ∧
      a.unknown = b.unknown) ∧
    (∀ i s, (run calls)[i]? = some s → (copy i).perform (run calls) = .ok (run calls ++ [s])) ∧
    (∀ i j a b, (run calls)[i]? = some a → (run calls)[j]? = some b →
      if a.flagClass = b.flagClass then
        (union i j).perform (run calls) = .ok (run calls ++ [a.union b]) ∧ (a.union b).unknown = 0 ∧
        (difference i j).perform (run calls) = .ok (run calls ++ [a.difference b]) ∧
        (a.difference b).unknown = 0
      else ∀ call ∈ [union i j, difference i j], call.after (run calls) = run calls ∧
        call.perform (run calls) = .error (.classes ⟨a.flagClass.name, b.flagClass.name⟩)) ∧
    ∀ call : FlagCall, ∀ j < (run calls).length, call.target? ≠ some j →
      (call.after (run calls))[j]? = (run calls)[j]? := by
  have hnone : AllSound [] := fun s hs => by cases hs
  have hs : AllSound (run calls) := hnone.run h
  refine ⟨view_run hnone h, fun s hmem => ?_, fun a ha b hb => (hs a ha).1.eq_iff (hs b hb).1,
    fun i s hi => perform_copy hs hi, fun i j a b ha hb => ?_,
    fun call j hj htarget => getElem?_after hj htarget⟩
  · exact ⟨(hs s hmem).1, s.bitCount_eq_card, fun m _ => FlagSet.contains_two_pow_iff,
      FlagSet.ofMask_toMask (hs s hmem).1⟩
  · have hunion : (union i j).perform (run calls) = _ := perform_combined rfl rfl ha hb
    have hdifference : (difference i j).perform (run calls) = _ := perform_combined rfl rfl ha hb
    split
    · next hclass =>
      rw [if_pos hclass] at hunion hdifference
      exact ⟨hunion, rfl, hdifference, rfl⟩
    · next hclass =>
      rw [if_neg hclass] at hunion hdifference
      simp only [List.forall_mem_cons, after, hunion, hdifference]
      exact ⟨⟨trivial, trivial⟩, ⟨trivial, trivial⟩, fun call hmem => by cases hmem⟩

/-- A set with bit 63 is read, copied and combined, and loses that bit and the one without a
name. -/
theorem sets_of_run_of_sign :
    let c : FlagClass := ⟨"Flags", [("low", 0), ("sign", 63)]⟩
    let calls : List FlagCall := [.ofMask c (-(2 ^ 63 : Int) + 4) true, .build c [1] 6, .copy 0,
      .union 0 1, .remove 0 (2 ^ 63 : Nat), .dropUnknown 2]
    (run calls).map FlagSet.view =
      [⟨c, ∅, {2}⟩, ⟨c, {0}, {1, 2}⟩, ⟨c, {63}, ∅⟩, ⟨c, {0, 63}, ∅⟩] := by
  intro c calls
  have hclass : c.InWord := by
    unfold FlagClass.InWord
    decide
  have hsign : c.Combines (2 ^ 63 : Nat) := ⟨2 ^ 63, rfl, by rw [maskBits_two_pow]; decide⟩
  have hlow : c.Combines 1 := ⟨2 ^ 0, rfl, by rw [maskBits_two_pow]; decide⟩
  have hcalls : FitsAll [] calls := by
    refine ⟨hclass, ⟨hclass, fun flag hflag => ?_⟩, trivial, trivial, fun s hs => ?_, trivial, trivial⟩
    · rw [List.mem_singleton.1 hflag]
      exact hlow
    · obtain rfl := Option.some.inj hs
      exact hsign
  rw [(sets_of_run hcalls).1]
  decide +kernel

/-! ## Wire forms, also of sets with unnamed members -/

/-- The flags that a step is given fit in a word; they need not have names. -/
def FlagsInWord (call : FlagCall) : Prop := ∀ flag ∈ call.flags, 0 ≤ flag ∧ flag < (2 ^ 64 : Int)

/-- Both masks of each set fit in a word. Named and kept bits need not be apart. -/
def AllInWord (sets : List FlagSet) : Prop := ∀ s ∈ sets, s.mask < 2 ^ 64 ∧ s.unknown < 2 ^ 64

theorem bitsOf_lt {c : FlagClass} {flag : Int} (h : 0 ≤ flag ∧ flag < (2 ^ 64 : Int)) :
    c.bitsOf flag < 2 ^ 64 := by
  rw [FlagClass.bitsOf_of_nonneg h.1]
  omega

theorem foldl_bitsOf_lt {c : FlagClass} {flags : List Int}
    (h : ∀ flag ∈ flags, 0 ≤ flag ∧ flag < (2 ^ 64 : Int)) {mask : Nat} (hmask : mask < 2 ^ 64) :
    flags.foldl (fun mask flag => mask ||| c.bitsOf flag) mask < 2 ^ 64 := by
  induction flags generalizing mask with
  | nil => exact hmask
  | cons flag rest ih =>
    rw [List.forall_mem_cons] at h
    exact ih h.2 (Nat.or_lt_two_pow hmask (bitsOf_lt h.1))

theorem AllInWord.getElem? (hs : AllInWord sets) {i : Nat} (h : sets[i]? = some s) :
    s.mask < 2 ^ 64 ∧ s.unknown < 2 ^ 64 :=
  hs s (List.mem_of_getElem? h)

theorem AllInWord.of_made (hs : AllInWord sets) (hflags : call.FlagsInWord)
    (h : call.made sets = .ok (some s)) : s.mask < 2 ^ 64 ∧ s.unknown < 2 ^ 64 := by
  cases call with
  | empty c =>
    obtain rfl := Option.some.inj (Except.ok.inj h)
    exact ⟨Nat.two_pow_pos 64, Nat.two_pow_pos 64⟩
  | build c flags unknown =>
    obtain rfl := Option.some.inj (Except.ok.inj h)
    exact ⟨foldl_bitsOf_lt hflags (Nat.two_pow_pos 64), maskDiff_lt (FlagSet.word_lt unknown) _⟩
  | ofMask c mask keep =>
    simp only [made] at h
    split at h
    · next r hread =>
      obtain rfl := Option.some.inj (Except.ok.inj h)
      have hsound := (FlagSet.sound_of_ofMask_ok hread).2
      exact ⟨hsound.mask_lt, hsound.unknown_lt⟩
    · cases h
  | copy i =>
    obtain ⟨a, ha, rfl⟩ := Option.map_eq_some_iff.1 (Except.ok.inj h)
    exact ⟨(hs.getElem? ha).1, maskDiff_lt (FlagSet.word_lt a.unknown) _⟩
  | union i j =>
    obtain ⟨a, b, ha, hb, -, rfl⟩ := combined_eq_some h
    exact ⟨Nat.or_lt_two_pow (hs.getElem? ha).1 (hs.getElem? hb).1, Nat.two_pow_pos 64⟩
  | difference i j =>
    obtain ⟨a, b, ha, -, -, rfl⟩ := combined_eq_some h
    exact ⟨maskDiff_lt (hs.getElem? ha).1 _, Nat.two_pow_pos 64⟩
  | add i flag | remove i flag | dropUnknown i => cases h

theorem AllInWord.of_change (hs : AllInWord sets) (hflags : call.FlagsInWord) {i : Nat}
    {f : FlagSet → FlagSet} (h : call.change? = some (i, f)) {old : FlagSet}
    (hold : sets[i]? = some old) : (f old).mask < 2 ^ 64 ∧ (f old).unknown < 2 ^ 64 := by
  obtain ⟨hmask, hunknown⟩ := hs.getElem? hold
  cases call with
  | add j flag =>
    obtain ⟨rfl, rfl⟩ := Prod.mk.inj (Option.some.inj h)
    exact ⟨Nat.or_lt_two_pow hmask (bitsOf_lt (hflags flag (List.mem_singleton.2 rfl))), hunknown⟩
  | remove j flag =>
    obtain ⟨rfl, rfl⟩ := Prod.mk.inj (Option.some.inj h)
    exact ⟨maskDiff_lt hmask _, hunknown⟩
  | dropUnknown j =>
    obtain ⟨rfl, rfl⟩ := Prod.mk.inj (Option.some.inj h)
    exact ⟨hmask, Nat.two_pow_pos 64⟩
  | empty | build | ofMask | copy | union | difference => cases h

theorem AllInWord.after (hs : AllInWord sets) (hflags : call.FlagsInWord) :
    AllInWord (call.after sets) := by
  intro s hmem
  obtain hold | hmade | ⟨i, f, old, hchange, hold, rfl⟩ := mem_after hmem
  · exact hs s hold
  · exact hs.of_made hflags hmade
  · exact hs.of_change hflags hchange hold

theorem AllInWord.run (hs : AllInWord sets) (h : ∀ call ∈ calls, call.FlagsInWord) :
    AllInWord (calls.foldl FlagCall.after sets) := by
  induction calls generalizing sets with
  | nil => exact hs
  | cons call rest ih =>
    rw [List.forall_mem_cons] at h
    exact ih (hs.after h.1) h.2

/-- A wire form is any integer that fits in a word with a sign, and all its bits come back if they
are kept. After any steps with flags of a word, named or not, each set has a wire form, and what is
read from it has the same. -/
theorem masks_of_run (h : ∀ call ∈ calls, call.FlagsInWord) :
    (∀ (c : FlagClass) (mask : Int) (keep : Bool),
      if FlagSet.FitsWord mask then
        ∃ s lossy, FlagSet.ofMask c mask keep = .ok (s, lossy) ∧ s.flagClass = c ∧
          s.mask = FlagSet.word mask &&& c.knownMask ∧
          (lossy = true ↔
            ∃ i, (FlagSet.word mask).testBit i = true ∧ c.knownMask.testBit i = false) ∧
          s.toMask = if keep then mask else FlagSet.signed (FlagSet.word mask &&& c.knownMask)
      else FlagSet.ofMask c mask keep = .error (.outOfRange mask)) ∧
    ∀ s ∈ run calls, FlagSet.FitsWord s.toMask ∧
      ∃ r, FlagSet.ofMask s.flagClass s.toMask true = .ok r ∧ r.1.toMask = s.toMask := by
  refine ⟨fun c mask keep => ?_, fun s hs => ?_⟩
  · split
    · next hfits => exact FlagSet.ofMask_of_fitsWord c keep hfits
    · next hfits => exact FlagSet.ofMask_of_not_fitsWord c keep hfits
  · have hword : AllInWord (run calls) := AllInWord.run (fun s hs => by cases hs) h
    obtain ⟨hmask, hunknown⟩ := hword s hs
    have hfits : FlagSet.FitsWord s.toMask :=
      FlagSet.fitsWord_signed (Nat.or_lt_two_pow hmask hunknown)
    obtain ⟨r, lossy, hread, -⟩ := FlagSet.ofMask_of_fitsWord s.flagClass true hfits
    exact ⟨hfits, (r, lossy), hread, FlagSet.toMask_of_ofMask hread⟩

/-- Bit 63 has no name here, and stands both among the members and among the kept bits. -/
theorem masks_of_run_of_unnamed :
    let c : FlagClass := ⟨"Flags", [("low", 0)]⟩
    let calls : List FlagCall := [.build c [(2 ^ 63 : Nat), 4] (2 ^ 63 : Nat), .copy 0, .remove 1 4,
      .dropUnknown 0, .union 0 1]
    (run calls).map FlagSet.toMask = [-(2 ^ 63 : Int) + 4, -(2 ^ 63 : Int), -(2 ^ 63 : Int) + 4] ∧
      ∀ s ∈ run calls, FlagSet.FitsWord s.toMask ∧
        ∃ r, FlagSet.ofMask s.flagClass s.toMask true = .ok r ∧ r.1.toMask = s.toMask := by
  intro c calls
  have hword : ∀ call ∈ calls, call.FlagsInWord := by
    unfold FlagsInWord
    decide
  exact ⟨by decide +kernel, (masks_of_run hword).2⟩

end FlagCall
end ChatRecords
