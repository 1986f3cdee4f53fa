import ChatRecords.Keyed
import Mathlib.Data.List.Nodup

/-!
# Places in lists searched by a key

In a list whose keys are distinct, a key is in one place or in none. Every operation on the list is
described by that place: what stands before it and what stands after it stays as it is.

## Main definitions

* `Keyed.Distinct`: no two items have one key.
* `Keyed.Slot`: the place of a key.
* `Keyed.Lacks`: no item has a key.
-/

namespace ChatRecords
namespace Keyed

variable {α κ : Type} {key : α → Option κ} {k : κ} {items before after : List α} {a : α}

/-- No two items have one key. Items without a key do not matter. -/
def Distinct (key : α → Option κ) (items : List α) : Prop := (items.filterMap key).Nodup

/-- An item has a key, and those before it and after it do not. -/
structure Slot (key : α → Option κ) (k : κ) (items before : List α) (a : α) (after : List α) :
    Prop where
  split : items = before ++ a :: after
  key_eq : key a = some k
  not_before : ∀ b ∈ before, key b ≠ some k
  not_after : ∀ b ∈ after, key b ≠ some k

/-- No item has a key. -/
def Lacks (key : α → Option κ) (k : κ) (items : List α) : Prop := ∀ a ∈ items, key a ≠ some k

theorem lacks_iff : Lacks key k items ↔ k ∉ items.filterMap key := by
  simp [Lacks, List.mem_filterMap]

/-- Where keys are distinct, each is in one place or in none. -/
theorem Distinct.slot_or_lacks (h : Distinct key items) (k : κ) :
    (∃ before a after, Slot key k items before a after) ∨ Lacks key k items := by
  by_cases hk : k ∈ items.filterMap key
  · left
    obtain ⟨a, hmem, hkey⟩ := List.mem_filterMap.1 hk
    obtain ⟨before, after, hsplit⟩ := List.append_of_mem hmem
    have hnodup : (before.filterMap key ++ k :: after.filterMap key).Nodup := by
      simpa [Distinct, hsplit, hkey] using h
    have hout := (List.nodup_middle.1 hnodup).notMem
    rw [List.mem_append, not_or] at hout
    exact ⟨before, a, after, hsplit, hkey, lacks_iff.2 hout.1, lacks_iff.2 hout.2⟩
  · right
    exact lacks_iff.2 hk

theorem Slot.mem (h : Slot key k items before a after) : a ∈ items := by
  simp [h.split]

/-- The item in the place of a key is the only one with that key. -/
theorem Slot.eq_of_mem (h : Slot key k items before a after) {b : α} (hb : b ∈ items)
    (hkey : key b = some k) : b = a := by
  rw [h.split, List.mem_append, List.mem_cons] at hb
  rcases hb with hb | rfl | hb
  · exact absurd hkey (h.not_before b hb)
  · rfl
  · exact absurd hkey (h.not_after b hb)

/-- Without the item in its place, a key is nowhere. -/
theorem Slot.lacks_erased (h : Slot key k items before a after) :
    Lacks key k (before ++ after) := by
  intro b hb
  rcases List.mem_append.1 hb with hb | hb
  · exact h.not_before b hb
  · exact h.not_after b hb

/-- The place of a key once its item is replaced. -/
theorem Slot.replaced (h : Slot key k items before a after) {new : α} (hnew : key new = some k) :
    Slot key k (before ++ new :: after) before new after :=
  ⟨rfl, hnew, h.not_before, h.not_after⟩

/-- The place of a new key is the last one. -/
theorem Lacks.appended (h : Lacks key k items) {new : α} (hnew : key new = some k) :
    Slot key k (items ++ [new]) items new [] :=
  ⟨rfl, hnew, h, by simp⟩

theorem Slot.filterMap_eq (h : Slot key k items before a after) :
    items.filterMap key = before.filterMap key ++ k :: after.filterMap key := by
  simp [h.split, h.key_eq]

/-- Another item of the key in its place changes nothing in the keys. -/
theorem Slot.filterMap_replaced (h : Slot key k items before a after) {new : α}
    (hnew : key new = some k) : (before ++ new :: after).filterMap key = items.filterMap key := by
  rw [(h.replaced hnew).filterMap_eq, h.filterMap_eq]

section

variable [DecidableEq κ]

/-! ## Operations -/

theorem find?_eq_none_iff : find? key k items = none ↔ Lacks key k items := by
  simp only [find?, List.find?_eq_none, decide_eq_true_eq]
  rfl

theorem Lacks.find?_eq (h : Lacks key k items) : find? key k items = none :=
  find?_eq_none_iff.2 h

theorem find?_append_of_lacks (hbefore : Lacks key k before) (rest : List α) :
    find? key k (before ++ rest) = find? key k rest := by
  rw [find?, List.find?_append, ← find?, hbefore.find?_eq, Option.none_or, find?]

theorem Slot.find?_eq (h : Slot key k items before a after) : find? key k items = some a := by
  have ha : HasKey key k a := h.key_eq
  rw [h.split, find?_append_of_lacks h.not_before, find?]
  exact List.find?_cons_of_pos (by simpa using ha)

/-- A search depends on the items with the key alone. -/
theorem find?_eq_head? : find? key k items = (items.filter fun a => key a = some k).head? := by
  rw [List.head?_filter]
  rfl

theorem modify_append_of_lacks (f : α → α) (hbefore : Lacks key k before) (rest : List α) :
    modify key k f (before ++ rest) = before ++ modify key k f rest := by
  induction before with
  | nil => rfl
  | cons b before ih =>
    have hb : ¬HasKey key k b := hbefore b List.mem_cons_self
    rw [List.cons_append, modify, if_neg hb, ih fun c hc => hbefore c (List.mem_cons_of_mem _ hc)]
    rfl

theorem Slot.modify_eq (h : Slot key k items before a after) (f : α → α) :
    modify key k f items = before ++ f a :: after := by
  have ha : HasKey key k a := h.key_eq
  rw [h.split, modify_append_of_lacks f h.not_before, modify, if_pos ha]

theorem Slot.replace_eq (h : Slot key k items before a after) (new : α) :
    replace key k new items = before ++ new :: after :=
  h.modify_eq _

theorem erase_append_of_lacks (hbefore : Lacks key k before) (rest : List α) :
    erase key k (before ++ rest) = before ++ erase key k rest := by
  refine List.eraseP_append_right rest fun b hb => ?_
  rw [decide_eq_true_eq]
  exact hbefore b hb

theorem erase_append_of_isSome (hbefore : (find? key k before).isSome = true) (rest : List α) :
    erase key k (before ++ rest) = erase key k before ++ rest := by
  obtain ⟨a, hmem, ha⟩ := List.find?_isSome.1 hbefore
  exact List.eraseP_append_left (p := fun a => decide (HasKey key k a)) ha rest hmem

theorem Slot.erase_eq (h : Slot key k items before a after) :
    erase key k items = before ++ after := by
  have ha : HasKey key k a := h.key_eq
  rw [h.split, erase_append_of_lacks h.not_before, erase, List.eraseP_cons_of_pos (by simpa using ha)]

theorem Lacks.erase_eq (h : Lacks key k items) : erase key k items = items := by
  simpa only [erase, List.eraseP_nil, List.append_nil] using erase_append_of_lacks h []

theorem Slot.upsert_eq (h : Slot key k items before a after) (new : α) :
    upsert key k new items = before ++ new :: after := by
  rw [upsert, h.find?_eq, Option.isSome_some, if_pos rfl, h.replace_eq]

theorem Lacks.upsert_eq (h : Lacks key k items) (new : α) :
    upsert key k new items = items ++ [new] := by
  simp [upsert, h.find?_eq]

/-- Changing the item of a key changes nothing where there is none. -/
theorem Lacks.modify_eq (h : Lacks key k items) (f : α → α) : modify key k f items = items := by
  simpa only [modify, List.append_nil] using modify_append_of_lacks f h []

theorem modify_append_of_isSome (f : α → α) (hbefore : (find? key k before).isSome = true)
    (rest : List α) : modify key k f (before ++ rest) = modify key k f before ++ rest := by
  induction before with
  | nil => cases hbefore
  | cons b before ih =>
    rw [List.cons_append, modify, modify]
    by_cases hb : HasKey key k b
    · rw [if_pos hb, if_pos hb, List.cons_append]
    · rw [if_neg hb, if_neg hb, List.cons_append, ih]
      rwa [find?, List.find?_cons_of_neg (by simpa using hb)] at hbefore

/-- An item of the changed list was there before, or it is the one that was changed. -/
theorem mem_modify {f : α → α} {b : α} (h : b ∈ modify key k f items) :
    b ∈ items ∨ ∃ a, find? key k items = some a ∧ b = f a := by
  induction items with
  | nil => exact .inl h
  | cons a rest ih =>
    rw [modify] at h
    split at h
    · next ha =>
      rcases List.mem_cons.1 h with rfl | hrest
      · exact .inr ⟨a, List.find?_cons_of_pos (by simpa using ha), rfl⟩
      · exact .inl (List.mem_cons_of_mem a hrest)
    · next ha =>
      rcases List.mem_cons.1 h with rfl | hrest
      · exact .inl List.mem_cons_self
      · refine (ih hrest).imp (List.mem_cons_of_mem a) fun ⟨c, hc, hb⟩ => ⟨c, ?_, hb⟩
        rwa [find?, List.find?_cons_of_neg (by simpa using ha)]

section

variable {f : α → α} (hf : ∀ a, key a = some k → key (f a) = some k)

include hf

/-- A change that keeps the key keeps all keys. -/
theorem filterMap_modify (items : List α) :
    (modify key k f items).filterMap key = items.filterMap key := by
  induction items with
  | nil => rfl
  | cons a rest ih =>
    rw [modify]
    split
    · next ha => rw [List.filterMap_cons_some (hf a ha), List.filterMap_cons_some ha]
    · rw [List.filterMap_cons, List.filterMap_cons, ih]

/-- A change that keeps the key is seen under that key alone. -/
theorem find?_modify (items : List α) (k' : κ) :
    find? key k' (modify key k f items) =
      if k' = k then (find? key k items).map f else find? key k' items := by
  induction items with
  | nil => simp [find?, modify]
  | cons a rest ih =>
    rw [modify]
    split
    · next ha =>
      have ha' : key a = some k := ha
      by_cases hk : k' = k
      · subst hk
        simp [find?, HasKey, ha', hf a ha']
      · simp [find?, HasKey, ha', hf a ha', hk, Ne.symm hk]
    · next ha =>
      have ha' : ¬key a = some k := ha
      rw [find?, List.find?_cons, ← find?, ih]
      by_cases hk : k' = k
      · subst hk
        simp [find?, HasKey, ha']
      · simp [find?, HasKey, hk, List.find?_cons]

end

/-- Without the item of a key, the other keys are found as before. -/
theorem Distinct.find?_erase (h : Distinct key items) (k k' : κ) :
    find? key k' (erase key k items) = if k' = k then none else find? key k' items := by
  rcases h.slot_or_lacks k with ⟨before, a, after, hslot⟩ | hlacks
  · rw [hslot.erase_eq]
    split
    · next hk => rw [hk, hslot.lacks_erased.find?_eq]
    · next hk =>
      have ha : ¬key a = some k' := by
        rw [hslot.key_eq, Option.some.injEq]
        exact Ne.symm hk
      simp [find?, hslot.split, HasKey, ha]
  · rw [hlacks.erase_eq]
    split
    · next hk => rw [hk, hlacks.find?_eq]
    · rfl

/-- In a list of distinct keys, an item is found under its key. -/
theorem Distinct.find?_eq_some_iff (h : Distinct key items) :
    find? key k items = some a ↔ a ∈ items ∧ key a = some k := by
  rcases h.slot_or_lacks k with ⟨before, b, after, hslot⟩ | hlacks
  · rw [hslot.find?_eq, Option.some.injEq]
    constructor
    · rintro rfl
      exact ⟨hslot.mem, hslot.key_eq⟩
    · rintro ⟨hmem, hkey⟩
      exact (hslot.eq_of_mem hmem hkey).symm
  · simp only [hlacks.find?_eq, reduceCtorEq, false_iff, not_and]
    exact hlacks a

/-! ## Keys stay distinct -/

omit [DecidableEq κ] in
theorem Distinct.of_perm {items' : List α} (h : Distinct key items) (hperm : items.Perm items') :
    Distinct key items' :=
  (hperm.filterMap key).nodup_iff.1 h

omit [DecidableEq κ] in
theorem Distinct.of_sublist {items' : List α} (h : Distinct key items)
    (hsub : items'.Sublist items) : Distinct key items' :=
  List.Nodup.sublist (hsub.filterMap key) h

/-- Distinct keys are found whatever the order of the items. -/
theorem Distinct.find?_of_perm {items' : List α} (h : Distinct key items)
    (hperm : items.Perm items') (k : κ) : find? key k items' = find? key k items := by
  apply Option.ext
  intro a
  rw [(h.of_perm hperm).find?_eq_some_iff, h.find?_eq_some_iff, hperm.mem_iff]


omit [DecidableEq κ] in
/-- Replacing the item of a key by another of that key keeps the keys distinct. -/
theorem Slot.distinct_replaced (h : Slot key k items before a after) (hitems : Distinct key items)
    {new : α} (hnew : key new = some k) : Distinct key (before ++ new :: after) := by
  rwa [Distinct, h.filterMap_replaced hnew]

omit [DecidableEq κ] in
theorem Slot.distinct_erased (h : Slot key k items before a after) (hitems : Distinct key items) :
    Distinct key (before ++ after) := by
  rw [Distinct, h.filterMap_eq] at hitems
  rw [Distinct, List.filterMap_append]
  exact (List.nodup_middle.1 hitems).of_cons

omit [DecidableEq κ] in
theorem Lacks.distinct_appended (h : Lacks key k items) (hitems : Distinct key items) {new : α}
    (hnew : key new = some k) : Distinct key (items ++ [new]) := by
  have hnew' : [new].filterMap key = [k] := by simp [hnew]
  rw [Distinct, List.filterMap_append, hnew', ← List.concat_eq_append, List.nodup_concat]
  exact ⟨lacks_iff.1 h, hitems⟩

end

end Keyed
end ChatRecords
