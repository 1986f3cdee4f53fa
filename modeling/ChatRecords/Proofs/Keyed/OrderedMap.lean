import ChatRecords.Entries
import ChatRecords.Proofs.Keyed.Slot

/-!
# Lists searched by a key as ordered maps

As long as keys are distinct, a list searched by a key is a map that remembers the order of
insertion, next to a list of items without a key that no operation on a key ever touches.

## Main definitions

* `Keyed.Call`: the steps of a program with such a list, with `Keyed.Call.perform`.
* `Keyed.toMap`, `Keyed.keyless`: the two parts of the list.
* `Keyed.Call.tell`, `Keyed.Call.tellKeyless`: what a step does to each of them.
* `Keyed.Call.Fits`: an added item has a new key, and a replacement the key that it is addressed by.
* `Keyed.Call.Resets`: the items that take the place of all have distinct keys.

## Main results

* `Keyed.Distinct.find?_eq_get?`: a search is a search in the map.
* `Keyed.Distinct.perform`, `Keyed.Distinct.toMap_perform`, `Keyed.Distinct.keyless_perform`: what a
  step does.
* `Keyed.Distinct.run`, `Keyed.Distinct.toMap_run`, `Keyed.Distinct.keyless_run`: what any steps do.
-/

namespace ChatRecords
namespace Keyed

/-- A step of a program with a list searched by a key. -/
inductive Call (α κ : Type) where
  | add (a : α)
  | replace (k : κ) (new : α)
  | erase (k : κ)
  /-- The item of the same key is replaced, and if there is none the new one comes last. -/
  | put (new : α)
  /-- Other items take the place of all. -/
  | reset (items : List α)

variable {α κ : Type} {key : α → Option κ} {k : κ} {items before after : List α} {a : α}

/-- The items with a key, in order. -/
def toMap (key : α → Option κ) (items : List α) : List (κ × α) :=
  items.filterMap fun a => (key a).map fun k => (k, a)

/-- The items without a key, in order. -/
def keyless (key : α → Option κ) (items : List α) : List α := items.filter fun a => (key a).isNone

namespace Call

/-- An added item has a new key or none, and a replacement has the key that it is addressed by. -/
def Fits (key : α → Option κ) (items : List α) : Call α κ → Prop
  | add a => ∀ k, key a = some k → Lacks key k items
  | replace k new => key new = some k
  | erase _ | put _ | reset _ => True

/-- The items that take the place of all have distinct keys. -/
def Resets (key : α → Option κ) : Call α κ → Prop
  | reset items => Distinct key items
  | _ => True

def tellKeyless (key : α → Option κ) : Call α κ → List α → List α
  | add a, rest | put a, rest => rest ++ keyless key [a]
  | replace .. , rest | erase _, rest => rest
  | reset items, _ => keyless key items

variable [DecidableEq κ]

def perform (key : α → Option κ) : Call α κ → List α → List α
  | add a, items => items ++ [a]
  | replace k new, items => Keyed.replace key k new items
  | erase k, items => Keyed.erase key k items
  | put new, items =>
    match key new with
    | some k => upsert key k new items
    | none => items ++ [new]
  | reset items, _ => items

/-- What a step does to the map: a key that is set keeps its place or comes last. -/
def tell (key : α → Option κ) : Call α κ → List (κ × α) → List (κ × α)
  | add a, m | put a, m => (key a).elim m fun k => Entries.put k a m
  | replace k new, m => if (Entries.get? k m).isSome then Entries.put k new m else m
  | erase k, m => Entries.erase k m
  | reset items, _ => toMap key items

/-- Each of some steps fits the list that it is performed on. -/
def FitsAll (key : α → Option κ) : List α → List (Call α κ) → Prop
  | _, [] => True
  | items, call :: rest => call.Fits key items ∧ FitsAll key (call.perform key items) rest

/-- The list after some steps. -/
def run (key : α → Option κ) (calls : List (Call α κ)) (items : List α) : List α :=
  calls.foldl (fun items call => call.perform key items) items

end Call

/-! ## The map -/

theorem keys_toMap (key : α → Option κ) (items : List α) :
    (toMap key items).map Prod.fst = items.filterMap key := by
  rw [toMap, List.map_filterMap]
  congr 1
  funext a
  cases key a <;> rfl

theorem mem_toMap_iff : (k, a) ∈ toMap key items ↔ a ∈ items ∧ key a = some k := by
  simp [toMap, List.mem_filterMap, Option.map_eq_some_iff]

theorem Lacks.notMem_keys (h : Lacks key k items) : k ∉ (toMap key items).map Prod.fst := by
  rw [keys_toMap]
  exact lacks_iff.1 h

theorem toMap_append (key : α → Option κ) (items items' : List α) :
    toMap key (items ++ items') = toMap key items ++ toMap key items' :=
  List.filterMap_append

theorem Slot.toMap_eq (h : Slot key k items before a after) :
    toMap key items = toMap key before ++ (k, a) :: toMap key after := by
  rw [h.split, toMap_append]
  simp [toMap, h.key_eq]

theorem Slot.keyless_eq (h : Slot key k items before a after) :
    keyless key items = keyless key (before ++ after) := by
  simp [keyless, h.split, h.key_eq]

/-- An item without a key has no key that is there already. -/
theorem lacks_of_keyless (hkey : key a = none) (items : List α) :
    ∀ k, key a = some k → Lacks key k items := by
  intro k hk
  rw [hkey] at hk
  cases hk

theorem Distinct.appended (hitems : Distinct key items)
    (h : ∀ k, key a = some k → Lacks key k items) : Distinct key (items ++ [a]) := by
  cases hkey : key a with
  | none => simpa [Distinct, List.filterMap_append, hkey] using hitems
  | some k => exact (h k hkey).distinct_appended hitems hkey

variable [DecidableEq κ]

/-- With distinct keys, a search is a search in the map. -/
theorem Distinct.find?_eq_get? (h : Distinct key items) (k : κ) :
    find? key k items = Entries.get? k (toMap key items) := by
  have hkeys : ((toMap key items).map Prod.fst).Nodup := by
    rw [keys_toMap]
    exact h
  apply Option.ext
  intro a
  rw [h.find?_eq_some_iff, Entries.get?_eq_some_iff hkeys, mem_toMap_iff]

theorem Slot.toMap_replaced (h : Slot key k items before a after) {new : α}
    (hnew : key new = some k) :
    toMap key (before ++ new :: after) = Entries.put k new (toMap key items) := by
  have hbefore : Lacks key k before := h.not_before
  rw [(h.replaced hnew).toMap_eq, h.toMap_eq, Entries.put_append_of_not_mem _ _ _ hbefore.notMem_keys]

theorem Slot.toMap_erased (h : Slot key k items before a after) :
    toMap key (before ++ after) = Entries.erase k (toMap key items) := by
  have hrest := Entries.erase_of_not_mem h.lacks_erased.notMem_keys
  rw [toMap_append, Entries.erase, List.filter_append] at hrest
  rw [toMap_append, h.toMap_eq, Entries.erase, List.filter_append, List.filter_cons_of_neg (by simp),
    hrest]

/-- An item of a new key, or of none, comes last in its part of the list. -/
theorem toMap_appended (h : ∀ k, key a = some k → Lacks key k items) :
    toMap key (items ++ [a]) = (key a).elim (toMap key items) fun k =>
      Entries.put k a (toMap key items) := by
  rw [toMap_append]
  cases hkey : key a with
  | none => simp [toMap, hkey]
  | some k =>
    rw [Option.elim_some, Entries.put_of_not_mem a (h k hkey).notMem_keys]
    simp [toMap, hkey]

/-- The item of a key, its place, and what replacing or erasing it makes of the list. -/
theorem Distinct.place_of_find? (h : Distinct key items) (hfound : find? key k items = some a) :
    ∃ before after, Slot key k items before a after ∧
      (∀ new, Keyed.replace key k new items = before ++ new :: after) ∧
      (∀ new, upsert key k new items = before ++ new :: after) ∧
      Keyed.erase key k items = before ++ after := by
  rcases h.slot_or_lacks k with ⟨before, b, after, hslot⟩ | hlacks
  · obtain rfl : b = a := by
      rw [hslot.find?_eq] at hfound
      exact Option.some.inj hfound
    exact ⟨before, after, hslot, hslot.replace_eq, hslot.upsert_eq, hslot.erase_eq⟩
  · rw [hlacks.find?_eq] at hfound
    cases hfound

/-! ## What a step does -/

section

variable {call : Call α κ} {calls : List (Call α κ)}

theorem Call.perform_put (hkey : key a = some k) (items : List α) :
    (put a).perform key items = upsert key k a items := by
  simp only [perform, hkey]

theorem Call.perform_put_keyless (hkey : key a = none) (items : List α) :
    (put a).perform key items = items ++ [a] := by
  simp only [perform, hkey]

theorem Distinct.perform (h : Distinct key items) (hfits : call.Fits key items)
    (hresets : call.Resets key) : Distinct key (call.perform key items) := by
  cases call with
  | add a => exact h.appended hfits
  | replace k new =>
    rcases h.slot_or_lacks k with ⟨before, b, after, hslot⟩ | hlacks
    · rw [Call.perform, hslot.replace_eq]
      exact hslot.distinct_replaced h hfits
    · rw [Call.perform, replace, hlacks.modify_eq]
      exact h
  | erase k => exact h.of_sublist List.eraseP_sublist
  | put new =>
    cases hkey : key new with
    | none =>
      rw [Call.perform_put_keyless hkey]
      exact h.appended (lacks_of_keyless hkey items)
    | some k =>
      rw [Call.perform_put hkey]
      rcases h.slot_or_lacks k with ⟨before, b, after, hslot⟩ | hlacks
      · rw [hslot.upsert_eq]
        exact hslot.distinct_replaced h hkey
      · rw [hlacks.upsert_eq]
        exact hlacks.distinct_appended h hkey
  | reset new => exact hresets

/-- A step does to the map what it tells. -/
theorem Distinct.toMap_perform (h : Distinct key items) (hfits : call.Fits key items) :
    toMap key (call.perform key items) = call.tell key (toMap key items) := by
  cases call with
  | add a => exact toMap_appended hfits
  | replace k new =>
    rw [Call.tell, ← h.find?_eq_get?]
    rcases h.slot_or_lacks k with ⟨before, b, after, hslot⟩ | hlacks
    · rw [hslot.find?_eq, Option.isSome_some, if_pos rfl, Call.perform, hslot.replace_eq,
        hslot.toMap_replaced hfits]
    · rw [hlacks.find?_eq, Option.isSome_none, if_neg Bool.false_ne_true, Call.perform, replace,
        hlacks.modify_eq]
  | erase k =>
    rcases h.slot_or_lacks k with ⟨before, b, after, hslot⟩ | hlacks
    · rw [Call.perform, hslot.erase_eq, hslot.toMap_erased, Call.tell]
    · rw [Call.perform, hlacks.erase_eq, Call.tell, Entries.erase_of_not_mem hlacks.notMem_keys]
  | put new =>
    rw [Call.tell]
    cases hkey : key new with
    | none =>
      rw [Call.perform_put_keyless hkey, toMap_appended (lacks_of_keyless hkey items), hkey]
    | some k =>
      rw [Call.perform_put hkey, Option.elim_some]
      rcases h.slot_or_lacks k with ⟨before, b, after, hslot⟩ | hlacks
      · rw [hslot.upsert_eq, hslot.toMap_replaced hkey]
      · rw [hlacks.upsert_eq, toMap_append, Entries.put_of_not_mem _ hlacks.notMem_keys]
        simp [toMap, hkey]
  | reset new => rfl

theorem keyless_replace (h : Distinct key items) {new : α} (hnew : key new = some k) :
    keyless key (Keyed.replace key k new items) = keyless key items := by
  rcases h.slot_or_lacks k with ⟨before, b, after, hslot⟩ | hlacks
  · rw [hslot.replace_eq, (hslot.replaced hnew).keyless_eq, hslot.keyless_eq]
  · rw [replace, hlacks.modify_eq]

/-- The items without a key stay as they are, but for one that a step adds. -/
theorem Distinct.keyless_perform (h : Distinct key items) (hfits : call.Fits key items) :
    keyless key (call.perform key items) = call.tellKeyless key (keyless key items) := by
  cases call with
  | add a => exact List.filter_append ..
  | replace k new => exact keyless_replace h hfits
  | erase k =>
    rcases h.slot_or_lacks k with ⟨before, b, after, hslot⟩ | hlacks
    · rw [Call.perform, hslot.erase_eq, ← hslot.keyless_eq, Call.tellKeyless]
    · rw [Call.perform, hlacks.erase_eq, Call.tellKeyless]
  | put new =>
    cases hkey : key new with
    | none =>
      rw [Call.perform_put_keyless hkey]
      exact List.filter_append ..
    | some k =>
      have hnone : keyless key [new] = [] := by simp [keyless, hkey]
      rw [Call.perform_put hkey, upsert, Call.tellKeyless, hnone, List.append_nil]
      split
      · exact keyless_replace h hkey
      · rw [keyless, List.filter_append]
        change keyless key items ++ keyless key [new] = _
        rw [hnone, List.append_nil]
  | reset new => rfl

/-! ## What any steps do -/

theorem Distinct.run (h : Distinct key items) (hcalls : Call.FitsAll key items calls)
    (hresets : ∀ call ∈ calls, call.Resets key) : Distinct key (Call.run key calls items) := by
  induction calls generalizing items with
  | nil => exact h
  | cons call rest ih =>
    rw [List.forall_mem_cons] at hresets
    exact ih (h.perform hcalls.1 hresets.1) hcalls.2 hresets.2

theorem Distinct.toMap_run (h : Distinct key items) (hcalls : Call.FitsAll key items calls)
    (hresets : ∀ call ∈ calls, call.Resets key) : toMap key (Call.run key calls items) =
      calls.foldl (fun m call => call.tell key m) (toMap key items) := by
  induction calls generalizing items with
  | nil => rfl
  | cons call rest ih =>
    rw [List.forall_mem_cons] at hresets
    rw [List.foldl_cons, ← h.toMap_perform hcalls.1]
    exact ih (h.perform hcalls.1 hresets.1) hcalls.2 hresets.2

theorem Distinct.keyless_run (h : Distinct key items) (hcalls : Call.FitsAll key items calls)
    (hresets : ∀ call ∈ calls, call.Resets key) : keyless key (Call.run key calls items) =
      calls.foldl (fun rest call => call.tellKeyless key rest) (keyless key items) := by
  induction calls generalizing items with
  | nil => rfl
  | cons call rest ih =>
    rw [List.forall_mem_cons] at hresets
    rw [List.foldl_cons, ← h.keyless_perform hcalls.1]
    exact ih (h.perform hcalls.1 hresets.1) hcalls.2 hresets.2

end

end Keyed
end ChatRecords
