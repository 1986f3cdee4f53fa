import ChatRecords.Entries

/-!
# The entries of one key

Where the entry of a key stands among others, what is answered for the other keys, and the entries
with the keys settled, do not depend on the value of the entry.

## Main results

* `Entries.get?_middle_self`, `Entries.get?_middle_of_ne`: what is answered for the key of an entry
  and for other keys.
* `Entries.settle_middle`: the last entry of a key is the one that is left when keys are settled.
-/

namespace ChatRecords
namespace Entries

variable {κ α : Type} [DecidableEq κ]

theorem get?_append (k : κ) (entries entries' : List (κ × α)) :
    get? k (entries ++ entries') = (get? k entries').or (get? k entries) := by
  induction entries with
  | nil => simp
  | cons e rest ih =>
    rw [List.cons_append, get?, ih, get?]
    cases get? k entries' <;> rfl

theorem get?_middle_self {k : κ} {before after : List (κ × α)} (h : k ∉ after.map Prod.fst)
    (v : α) :
    get? k (before ++ (k, v) :: after) = some v := by
  rw [get?_append, get?, get?_eq_none_iff.2 h, if_pos rfl, Option.some_or]

/-- An entry does not matter for other keys. -/
theorem get?_middle_of_ne {k k' : κ} (h : k' ≠ k) (before after : List (κ × α)) (v : α) :
    get? k' (before ++ (k, v) :: after) = get? k' (before ++ after) := by
  rw [get?_append, get?_append, get?, if_neg h.symm]
  cases get? k' after <;> rfl

/-- The entry that a key is found with is the last one of the key. -/
theorem exists_middle_of_get? {k : κ} {v : α} {entries : List (κ × α)}
    (h : get? k entries = some v) :
    ∃ before after, entries = before ++ (k, v) :: after ∧ k ∉ after.map Prod.fst := by
  induction entries with
  | nil => cases h
  | cons e rest ih =>
    rw [get?] at h
    cases hrest : get? k rest with
    | some w =>
      rw [hrest] at h
      obtain ⟨before, after, rfl, hlast⟩ := ih (hrest.trans h)
      exact ⟨e :: before, after, rfl, hlast⟩
    | none =>
      rw [hrest] at h
      simp only [Option.ite_none_right_eq_some, Option.some.injEq] at h
      obtain ⟨rfl, rfl⟩ := h
      exact ⟨[], rest, rfl, get?_eq_none_iff.1 hrest⟩

/-- Setting a key leaves the entry of another where it is. -/
theorem put_middle_of_ne {k k' : κ} (h : k' ≠ k) (v : α) (before after : List (κ × α)) :
    ∃ before' after', ∀ x, put k' v (before ++ (k, x) :: after) = before' ++ (k, x) :: after' := by
  induction before with
  | nil => exact ⟨[], put k' v after, fun x => if_neg h.symm⟩
  | cons e rest ih =>
    obtain ⟨before', after', hput⟩ := ih
    by_cases he : e.1 = k'
    · exact ⟨(e.1, v) :: rest, after, fun x => if_pos he⟩
    · exact ⟨e :: before', after', fun x => by simp [put, he, hput]⟩

/-- Setting a key gives it one entry, whose place does not depend on the value. -/
theorem put_eq_middle (k : κ) (entries : List (κ × α)) :
    ∃ before after, ∀ x, put k x entries = before ++ (k, x) :: after := by
  induction entries with
  | nil => exact ⟨[], [], fun x => rfl⟩
  | cons e rest ih =>
    obtain ⟨before, after, hput⟩ := ih
    by_cases he : e.1 = k
    · exact ⟨[], rest, fun x => by simp [put, he]⟩
    · exact ⟨e :: before, after, fun x => by simp [put, he, hput]⟩

/-- The entries that are put after the last one of a key leave it where it is. -/
theorem foldl_put_middle {k : κ} {after : List (κ × α)} (h : k ∉ after.map Prod.fst)
    (bs as : List (κ × α)) :
    ∃ bs' as', ∀ x, after.foldl (fun done e => put e.1 e.2 done) (bs ++ (k, x) :: as) =
      bs' ++ (k, x) :: as' := by
  induction after generalizing bs as with
  | nil => exact ⟨bs, as, fun x => rfl⟩
  | cons e rest ih =>
    rw [List.map_cons, List.mem_cons, not_or] at h
    obtain ⟨bs', as', hput⟩ := put_middle_of_ne (Ne.symm h.1) e.2 bs as
    obtain ⟨bs'', as'', hrest⟩ := ih h.2 bs' as'
    exact ⟨bs'', as'', fun x => by rw [List.foldl_cons, hput, hrest]⟩

/-- The last entry of a key is what settling leaves of the key. -/
theorem settle_middle {k : κ} (before : List (κ × α)) {after : List (κ × α)}
    (h : k ∉ after.map Prod.fst) :
    ∃ before' after', ∀ x,
      settle (before ++ (k, x) :: after) = before' ++ (k, x) :: after' := by
  obtain ⟨bs, as, hput⟩ := put_eq_middle k (settle before)
  obtain ⟨bs', as', hafter⟩ := foldl_put_middle h bs as
  refine ⟨bs', as', fun x => ?_⟩
  rw [← hafter, ← hput, settle, settle, List.foldl_append]
  rfl

end Entries
end ChatRecords
