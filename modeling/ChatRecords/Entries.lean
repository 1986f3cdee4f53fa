/-!
# Keyed entries in order

A list of key-value pairs, read as a mapping that remembers the order in which its keys
first came.

## Main definitions

* `Entries.get?`: the value of the last entry with a key.
* `Entries.put`: the entries with a key set: in place if it is there, else at the end.
* `Entries.erase`: the entries without a key.
* `Entries.settle`: one entry per key, in the order of first appearance.
-/

namespace ChatRecords
namespace Entries

variable {κ α : Type} [DecidableEq κ]

/-- The value of the last entry with the key `k`. -/
def get? (k : κ) : List (κ × α) → Option α
  | [] => none
  | (k', v) :: rest =>
    match get? k rest with
    | some v' => some v'
    | none => if k' = k then some v else none

def put (k : κ) (v : α) : List (κ × α) → List (κ × α)
  | [] => [(k, v)]
  | (k', v') :: rest => if k' = k then (k', v) :: rest else (k', v') :: put k v rest

/-- One entry per key: a repeated key keeps its first place and takes its last value. -/
def settle (entries : List (κ × α)) : List (κ × α) :=
  entries.foldl (fun done e => put e.1 e.2 done) []

def erase (k : κ) (entries : List (κ × α)) : List (κ × α) := entries.filter fun e => e.1 ≠ k

@[simp] theorem get?_nil (k : κ) : get? k ([] : List (κ × α)) = none := rfl

/-- An entry that a key answers with is there. -/
theorem mem_of_get? {k : κ} {v : α} {entries : List (κ × α)} (h : get? k entries = some v) :
    (k, v) ∈ entries := by
  induction entries with
  | nil => simp at h
  | cons e rest ih =>
    obtain ⟨k', v'⟩ := e
    simp only [get?] at h
    split at h
    · next v'' hrest =>
      obtain rfl : v'' = v := by simpa using h
      exact List.mem_cons_of_mem _ (ih hrest)
    · split at h
      · next hk =>
        obtain rfl : v' = v := by simpa using h
        simp [hk]
      · simp at h

/-- A key without an entry answers with nothing. -/
theorem get?_eq_none_iff {k : κ} {entries : List (κ × α)} :
    get? k entries = none ↔ k ∉ entries.map Prod.fst := by
  induction entries with
  | nil => simp
  | cons e rest ih =>
    obtain ⟨k', v'⟩ := e
    simp only [get?, List.map_cons, List.mem_cons, not_or]
    cases hrest : get? k rest with
    | some v => simp_all
    | none => simp [ih.1 hrest, eq_comm]

/-- Where keys are distinct, a key answers with its entry. -/
theorem get?_eq_some_iff {k : κ} {v : α} {entries : List (κ × α)}
    (h : (entries.map Prod.fst).Nodup) : get? k entries = some v ↔ (k, v) ∈ entries := by
  refine ⟨mem_of_get?, fun hmem => ?_⟩
  induction entries with
  | nil => simp at hmem
  | cons e rest ih =>
    obtain ⟨k', v'⟩ := e
    simp only [List.map_cons, List.nodup_cons] at h
    rcases List.mem_cons.1 hmem with heq | hmem
    · obtain ⟨rfl, rfl⟩ := Prod.mk.inj heq
      simp [get?, get?_eq_none_iff.2 h.1]
    · simp [get?, ih h.2 hmem]

/-- A key that is not there is put at the end. -/
theorem put_of_not_mem {k : κ} (v : α) {entries : List (κ × α)} (h : k ∉ entries.map Prod.fst) :
    put k v entries = entries ++ [(k, v)] := by
  induction entries with
  | nil => rfl
  | cons e rest ih =>
    obtain ⟨k', v'⟩ := e
    simp only [List.map_cons, List.mem_cons, not_or] at h
    simp [put, Ne.symm h.1, ih h.2]

/-- A key that is there takes its new value in its place. -/
theorem put_append_of_not_mem {k : κ} (v v' : α) {before : List (κ × α)} (after : List (κ × α))
    (h : k ∉ before.map Prod.fst) :
    put k v (before ++ (k, v') :: after) = before ++ (k, v) :: after := by
  induction before with
  | nil => simp [put]
  | cons e rest ih =>
    obtain ⟨k', v''⟩ := e
    simp only [List.map_cons, List.mem_cons, not_or] at h
    simp [put, Ne.symm h.1, ih h.2]

theorem erase_of_not_mem {k : κ} {entries : List (κ × α)} (h : k ∉ entries.map Prod.fst) :
    erase k entries = entries := by
  rw [erase, List.filter_eq_self]
  intro e he
  rw [decide_eq_true_eq]
  rintro rfl
  exact h (List.mem_map_of_mem he)

/-- A key that is there keeps its place. -/
theorem keys_put_of_mem {k : κ} (v : α) {entries : List (κ × α)} (h : k ∈ entries.map Prod.fst) :
    (put k v entries).map Prod.fst = entries.map Prod.fst := by
  induction entries with
  | nil => simp at h
  | cons e rest ih =>
    obtain ⟨k', v'⟩ := e
    simp only [put]
    split
    · rfl
    · next hk =>
      have hrest : k ∈ rest.map Prod.fst := by simpa [Ne.symm hk] using h
      simp [ih hrest]

theorem nodup_keys_put (k : κ) (v : α) {entries : List (κ × α)}
    (h : (entries.map Prod.fst).Nodup) : ((put k v entries).map Prod.fst).Nodup := by
  by_cases hk : k ∈ entries.map Prod.fst
  · rwa [keys_put_of_mem v hk]
  · rw [put_of_not_mem v hk, List.map_append, List.map_singleton]
    refine List.nodup_append.2 ⟨h, by simp, ?_⟩
    intro a ha b hb hab
    rw [hab, List.mem_singleton.1 hb] at ha
    exact hk ha

/-- The entries after a key is set: the new one, and those of other keys. -/
theorem mem_put_iff {k : κ} {v : α} {entries : List (κ × α)} (h : (entries.map Prod.fst).Nodup)
    {e : κ × α} : e ∈ put k v entries ↔ e = (k, v) ∨ (e ∈ entries ∧ e.1 ≠ k) := by
  induction entries with
  | nil => simp [put]
  | cons e' rest ih =>
    obtain ⟨k', v'⟩ := e'
    simp only [List.map_cons, List.nodup_cons] at h
    simp only [put]
    split
    · next hk =>
      subst hk
      -- no other entry has the key
      have hrest (he : e ∈ rest) : e.1 ≠ k' := fun heq => h.1 (heq ▸ List.mem_map_of_mem he)
      grind
    · next hk => grind

/-- Setting a key makes it answer with the new value. -/
theorem get?_put_self (k : κ) (v : α) (entries : List (κ × α))
    (h : (entries.map Prod.fst).Nodup) : get? k (put k v entries) = some v :=
  (get?_eq_some_iff (nodup_keys_put k v h)).2 ((mem_put_iff h).2 (.inl rfl))

/-- Setting a key changes the answer of no other. -/
theorem get?_put_of_ne {k k' : κ} (v : α) {entries : List (κ × α)} (hk : k' ≠ k)
    (h : (entries.map Prod.fst).Nodup) : get? k' (put k v entries) = get? k' entries := by
  apply Option.ext
  intro v'
  rw [get?_eq_some_iff (nodup_keys_put k v h), get?_eq_some_iff h, mem_put_iff h]
  simp [hk]

theorem nodup_keys_settle (entries : List (κ × α)) : ((settle entries).map Prod.fst).Nodup := by
  have hfold (done : List (κ × α)) (hdone : (done.map Prod.fst).Nodup) :
      ((entries.foldl (fun done e => put e.1 e.2 done) done).map Prod.fst).Nodup := by
    induction entries generalizing done with
    | nil => exact hdone
    | cons e rest ih => exact ih _ (nodup_keys_put e.1 e.2 hdone)
  exact hfold [] (by simp)

/-- The entries after a key is set: the new one and some of those before. -/
theorem mem_of_mem_put {k : κ} {v : α} {entries : List (κ × α)} {e : κ × α}
    (h : e ∈ put k v entries) : e = (k, v) ∨ e ∈ entries := by
  induction entries with
  | nil => exact .inl (List.mem_singleton.1 h)
  | cons e' rest ih =>
    obtain ⟨k', v'⟩ := e'
    simp only [put] at h
    split at h
    · next hk =>
      rcases List.mem_cons.1 h with rfl | hrest
      · exact .inl (by rw [hk])
      · exact .inr (List.mem_cons_of_mem _ hrest)
    · rcases List.mem_cons.1 h with rfl | hrest
      · exact .inr List.mem_cons_self
      · exact (ih hrest).imp_right (List.mem_cons_of_mem _)

theorem mem_of_mem_settle {entries : List (κ × α)} {e : κ × α} (h : e ∈ settle entries) :
    e ∈ entries := by
  have hfold {entries : List (κ × α)} (done : List (κ × α))
      (he : e ∈ entries.foldl (fun done e => put e.1 e.2 done) done) :
      e ∈ done ∨ e ∈ entries := by
    induction entries generalizing done with
    | nil => exact .inl he
    | cons e' rest ih =>
      rcases ih _ he with hdone | hrest
      · rcases mem_of_mem_put hdone with rfl | hdone
        · exact .inr List.mem_cons_self
        · exact .inl hdone
      · exact .inr (List.mem_cons_of_mem _ hrest)
  simpa using hfold [] h

/-- A key answers with the same value after settling. -/
theorem get?_settle (k : κ) (entries : List (κ × α)) :
    get? k (settle entries) = get? k entries := by
  have hfold (done : List (κ × α)) (hdone : (done.map Prod.fst).Nodup) :
      get? k (entries.foldl (fun done e => put e.1 e.2 done) done) =
        (get? k entries).or (get? k done) := by
    induction entries generalizing done with
    | nil => rfl
    | cons e rest ih =>
      obtain ⟨k', v⟩ := e
      rw [List.foldl_cons, ih _ (nodup_keys_put k' v hdone), get?]
      cases get? k rest with
      | some v' => rfl
      | none =>
        by_cases hk : k' = k
        · subst hk
          simp [get?_put_self k' v done hdone]
        · simp [hk, get?_put_of_ne v (Ne.symm hk) hdone]
  simpa [settle] using hfold [] (by simp)

theorem settle_eq_self {entries : List (κ × α)} (h : (entries.map Prod.fst).Nodup) :
    settle entries = entries := by
  have hfold (done : List (κ × α)) (hall : ((done ++ entries).map Prod.fst).Nodup) :
      entries.foldl (fun done e => put e.1 e.2 done) done = done ++ entries := by
    induction entries generalizing done with
    | nil => simp
    | cons e rest ih =>
      have hnew : e.1 ∉ done.map Prod.fst := by
        intro hmem
        rw [List.map_append, List.map_cons] at hall
        exact (List.nodup_append.1 hall).2.2 _ hmem _ (by simp) rfl
      have hstep : done ++ e :: rest = done ++ [(e.1, e.2)] ++ rest := by simp
      rw [List.foldl_cons, put_of_not_mem e.2 hnew, hstep]
      apply ih
      · rw [List.map_cons] at h
        exact (List.nodup_cons.1 h).2
      · rwa [← hstep]
  simpa [settle] using hfold [] (by simpa using h)

end Entries
end ChatRecords
