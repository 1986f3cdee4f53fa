import ChatRecords.Proofs.Json.RoundTrip
import ChatRecords.Record.Encoder
import Mathlib.Data.List.Forall2
import Mathlib.Data.List.Nodup

/-!
# Parts of values

Which values lie within one another, and how the parts of a value are encoded.

## Main definitions

* `Value.Within`: one value is a part of another, at any depth.
* `Value.ownFlags`: the flag sets of a value itself and of its items and entries.
* `Value.AllFinite`: all doubles of a value are finite.

## Main results

* `Value.encodeItems_ok_iff`, `Value.encodeEntries_ok_iff`, `Value.encodeFields_ok_iff`: a list, a
  map or a record is encoded part by part.
* `Value.AllFinite.encode`: the JSON value of finite doubles has finite doubles.
-/

namespace ChatRecords

theorem exists_left_of_forall₂ {α β : Type} {R : α → β → Prop} {xs : List α} {ys : List β}
    (h : List.Forall₂ R xs ys) {y : β} (hy : y ∈ ys) : ∃ x ∈ xs, R x y := by
  induction h with
  | nil => simp at hy
  | cons hr _ ih =>
    rcases List.mem_cons.1 hy with rfl | hy
    · exact ⟨_, List.mem_cons_self, hr⟩
    · obtain ⟨x, hx, hxy⟩ := ih hy
      exact ⟨x, List.mem_cons_of_mem _ hx, hxy⟩

theorem exists_right_of_forall₂ {α β : Type} {R : α → β → Prop} {xs : List α} {ys : List β}
    (h : List.Forall₂ R xs ys) {x : α} (hx : x ∈ xs) : ∃ y ∈ ys, R x y :=
  exists_left_of_forall₂ h.flip hx

theorem exists_mem_zip_of_mem {α β : Type} {xs : List α} {ys : List β}
    (hlength : xs.length = ys.length) {y : β} (hy : y ∈ ys) : ∃ x ∈ xs, (x, y) ∈ xs.zip ys :=
  exists_left_of_forall₂ (List.forall₂_iff_zip.2 ⟨hlength, fun hmem => hmem⟩) hy

theorem map_eq_map_iff_forall₂ {α β γ : Type} {f : α → γ} {g : β → γ} {xs : List α}
    {ys : List β} : xs.map f = ys.map g ↔ List.Forall₂ (fun x y => f x = g y) xs ys := by
  rw [← List.forall₂_eq_eq_eq, List.forall₂_map_left_iff, List.forall₂_map_right_iff]

/-- The items of two lists that are related pair by pair are in the lists. -/
theorem forall₂_mem {α β : Type} {R : α → β → Prop} {xs : List α} {ys : List β}
    (h : List.Forall₂ R xs ys) : List.Forall₂ (fun x y => x ∈ xs ∧ y ∈ ys ∧ R x y) xs ys := by
  rw [List.forall₂_iff_zip] at h ⊢
  exact ⟨h.1, fun hmem => ⟨(List.of_mem_zip hmem).1, (List.of_mem_zip hmem).2, h.2 hmem⟩⟩

theorem forall₂_getElem? {α β : Type} {R : α → β → Prop} {xs : List α} {ys : List β}
    (h : List.Forall₂ R xs ys) {i : Nat} {x : α} (hx : xs[i]? = some x) :
    ∃ y, ys[i]? = some y ∧ R x y := by
  induction h generalizing i with
  | nil => simp at hx
  | cons hr _ ih =>
    cases i with
    | zero =>
      obtain rfl := Option.some.inj hx
      exact ⟨_, rfl, hr⟩
    | succ i => exact ih hx

/-- A key answers in both of two lists of entries with the same keys, or in none. -/
theorem forall₂_get? {κ α β : Type} [DecidableEq κ] {R : κ → α → β → Prop}
    {xs : List (κ × α)} {ys : List (κ × β)}
    (h : List.Forall₂ (fun x y => y.1 = x.1 ∧ R x.1 x.2 y.2) xs ys) (k : κ) :
    (Entries.get? k xs = none ∧ Entries.get? k ys = none) ∨
      ∃ a b, Entries.get? k xs = some a ∧ Entries.get? k ys = some b ∧ R k a b := by
  induction h with
  | nil => exact .inl ⟨rfl, rfl⟩
  | @cons x y xs ys hr _ ih =>
    obtain ⟨k', a⟩ := x
    obtain ⟨k'', b⟩ := y
    obtain ⟨rfl, hr⟩ := hr
    simp only [Entries.get?]
    rcases ih with ⟨hx, hy⟩ | ⟨a', b', hx, hy, hab⟩
    · rw [hx, hy]
      by_cases hk : k'' = k
      · subst hk
        exact .inr ⟨a, b, by simp, by simp, hr⟩
      · simp [hk]
    · rw [hx, hy]
      exact .inr ⟨a', b', rfl, rfl, hab⟩

/-- Only nothing is written as `null`. -/
theorem Payload.wire?_eq_null {p : Payload} (h : p.wire? = some .null) : p = .null := by
  cases p with
  | null => rfl
  | ready v => cases v <;> simp [wire?] at h
  | _ => simp [wire?] at h

namespace Value

/-- Whether a value is a list, a map or a record. -/
def hasParts : Value → Bool
  | .list _ | .map _ | .record _ _ => true
  | _ => false

/-- Induction over the parts of a value. -/
@[elab_as_elim]
theorem induction {motive : Value → Prop} (leaf : ∀ v : Value, v.hasParts = false → motive v)
    (list : ∀ items, (∀ v ∈ items, motive v) → motive (.list items))
    (map : ∀ entries, (∀ e ∈ entries, motive e.2) → motive (.map entries))
    (record : ∀ kind fields, (∀ f ∈ fields, motive f.2) → motive (.record kind fields))
    (v : Value) : motive v := by
  refine @Value.rec motive (fun items => ∀ v ∈ items, motive v)
    (fun entries => ∀ e ∈ entries, motive e.2) (fun fields => ∀ f ∈ fields, motive f.2)
    (fun e => motive e.2) (fun f => motive f.2) (leaf _ rfl) (fun _ => leaf _ rfl)
    (fun _ => leaf _ rfl) (fun _ => leaf _ rfl) (fun _ => leaf _ rfl) (fun _ => leaf _ rfl)
    (fun _ => leaf _ rfl) (fun _ => leaf _ rfl) (fun _ => leaf _ rfl) (fun _ => leaf _ rfl)
    (fun _ => leaf _ rfl) list map record (fun _ => leaf _ rfl)
    (by simp) ?_ (by simp) ?_ (by simp) ?_ (fun _ _ h => h) (fun _ _ h => h) v
  · intro v items hv hitems
    simpa using ⟨hv, hitems⟩
  · intro e entries he hentries
    simpa only [List.mem_cons, forall_eq_or_imp] using ⟨he, hentries⟩
  · intro f fields hf hfields
    simpa only [List.mem_cons, forall_eq_or_imp] using ⟨hf, hfields⟩

/-! ## Parts -/

/-- The first value is the second or a part of it. -/
inductive Within : Value → Value → Prop
  | refl (v : Value) : Within v v
  /-- What is within an item is within the list. -/
  | item {v w : Value} {items : List Value} (hw : w ∈ items) (h : Within v w) :
      Within v (.list items)
  /-- What is within the value of an entry is within the map. -/
  | entry {v : Value} {e : MapKey × Value} {entries : List (MapKey × Value)} (he : e ∈ entries)
      (h : Within v e.2) : Within v (.map entries)
  /-- What is within a field is within the record. -/
  | field {v : Value} {kind : RecordKind} {f : String × Value} {fields : List (String × Value)}
      (hf : f ∈ fields) (h : Within v f.2) : Within v (.record kind fields)

theorem Within.eq_of_leaf {v w : Value} (h : Within v w) (hw : w.hasParts = false) : v = w := by
  cases h <;> simp [hasParts] at hw ⊢

mutual

/-- The flag sets of a value that lie in no record of its and in no part of a value of any type. -/
def ownFlags : Value → List FlagSet
  | .flags s | .any (.ready (.flags s)) => [s]
  | .list items => ownFlagsOfItems items
  | .map entries => ownFlagsOfEntries entries
  | _ => []

def ownFlagsOfItems : List Value → List FlagSet
  | [] => []
  | v :: rest => ownFlags v ++ ownFlagsOfItems rest

/-- The flag sets of the values of entries. -/
def ownFlagsOfEntries : List (MapKey × Value) → List FlagSet
  | [] => []
  | (_, v) :: rest => ownFlags v ++ ownFlagsOfEntries rest

end

theorem mem_ownFlags_list {s : FlagSet} {items : List Value} :
    s ∈ (Value.list items).ownFlags ↔ ∃ v ∈ items, s ∈ v.ownFlags := by
  rw [ownFlags]
  induction items with
  | nil => simp [ownFlagsOfItems]
  | cons v rest ih => simp [ownFlagsOfItems, ih]

/-- A value of any type has a flag set as its own only by being that set. -/
theorem eq_of_mem_ownFlags_any {s : FlagSet} {p : Payload} (hs : s ∈ (Value.any p).ownFlags) :
    p = .ready (.flags s) := by
  cases p with
  | ready v =>
    cases v with
    | flags s' => rw [List.mem_singleton.1 hs]
    | _ => cases hs
  | _ => cases hs

theorem mem_ownFlags_map {s : FlagSet} {entries : List (MapKey × Value)} :
    s ∈ (Value.map entries).ownFlags ↔ ∃ e ∈ entries, s ∈ e.2.ownFlags := by
  rw [ownFlags]
  induction entries with
  | nil => simp [ownFlagsOfEntries]
  | cons e rest ih =>
    rw [ownFlagsOfEntries, List.mem_append, ih]
    simp only [List.mem_cons, exists_eq_or_imp]

/-! ## Encoding -/

theorem encodeAny_eq_ok_iff {p : Payload} {j : Json} : encodeAny p = .ok j ↔ p.wire? = some j := by
  rw [encodeAny]
  split
  · next h => simp [h]
  · next h => simp [h]

/-- A list is encoded item by item. -/
theorem encodeItems_ok_iff {items : List Value} {js : List Json} :
    encodeItems items = .ok js ↔ List.Forall₂ (fun v j => v.encode = .ok j) items js := by
  induction items generalizing js with
  | nil => simp [encodeItems, eq_comm]
  | cons v rest ih =>
    rw [encodeItems, List.forall₂_cons_left_iff]
    simp only [← ih]
    cases v.encode <;> cases encodeItems rest <;> simp [eq_comm]

/-- A map is encoded entry by entry. -/
theorem encodeEntries_ok_iff {entries : List (MapKey × Value)} {es : List (String × Json)} :
    encodeEntries entries = .ok es ↔
      List.Forall₂ (fun e j => j.1 = e.1.wire ∧ e.2.encode = .ok j.2) entries es := by
  induction entries generalizing es with
  | nil => simp [encodeEntries, eq_comm]
  | cons e rest ih =>
    obtain ⟨k, v⟩ := e
    rw [encodeEntries, List.forall₂_cons_left_iff]
    simp only [← ih]
    cases v.encode <;> cases encodeEntries rest <;> simp [Prod.exists, eq_comm, and_assoc]

/-- A record is encoded field by field, without those that hold nothing. -/
theorem encodeFields_ok_iff {fields : List (String × Value)} {es : List (String × Json)} :
    encodeFields fields = .ok es ↔ List.Forall₂ (fun f j => j.1 = f.1 ∧ f.2.encode = .ok j.2)
      (fields.filter fun f => !f.2.isNull) es := by
  induction fields generalizing es with
  | nil => simp [encodeFields, eq_comm]
  | cons f rest ih =>
    obtain ⟨name, v⟩ := f
    by_cases hnull : v = .null
    · subst hnull
      rw [encodeFields, ih]
      rfl
    · have hkeep : (!v.isNull) = true := by cases v <;> first | rfl | exact absurd rfl hnull
      rw [encodeFields, List.filter_cons, if_pos hkeep, List.forall₂_cons_left_iff]
      · simp only [← ih]
        cases v.encode <;> cases encodeFields rest <;> simp [Prod.exists, eq_comm, and_assoc]
      · exact hnull

/-- The JSON value of a list is an array, item by item. -/
theorem encode_list_ok {items : List Value} {j : Json} (h : (Value.list items).encode = .ok j) :
    ∃ js, j = .array js ∧ List.Forall₂ (fun v j => v.encode = .ok j) items js := by
  rw [encode] at h
  cases hitems : encodeItems items with
  | error e => simp [hitems, Except.map] at h
  | ok js =>
    rw [hitems] at h
    exact ⟨js, (Except.ok.inj h).symm, encodeItems_ok_iff.1 hitems⟩

/-- The JSON value of a map is an object, entry by entry. -/
theorem encode_map_ok {entries : List (MapKey × Value)} {j : Json}
    (h : (Value.map entries).encode = .ok j) : ∃ es, j = .object es ∧
      List.Forall₂ (fun e j => j.1 = e.1.wire ∧ e.2.encode = .ok j.2) entries es := by
  rw [encode] at h
  cases hentries : encodeEntries entries with
  | error e => simp [hentries, Except.map] at h
  | ok es =>
    rw [hentries] at h
    exact ⟨es, (Except.ok.inj h).symm, encodeEntries_ok_iff.1 hentries⟩

/-- The JSON value of a record is an object, with an entry for each field that holds something. -/
theorem encode_record_ok {kind : RecordKind} {fields : List (String × Value)} {j : Json}
    (h : (Value.record kind fields).encode = .ok j) : ∃ es, j = .object es ∧
      List.Forall₂ (fun f j => j.1 = f.1 ∧ f.2.encode = .ok j.2)
        (fields.filter fun f => !f.2.isNull) es := by
  rw [encode] at h
  split at h
  · simp at h
  · cases hfields : encodeFields fields with
    | error e => simp [hfields, Except.map] at h
    | ok es =>
      rw [hfields] at h
      exact ⟨es, (Except.ok.inj h).symm, encodeFields_ok_iff.1 hfields⟩

/-- Only nothing is encoded as `null`, whether as a value or as one of any type. -/
theorem encode_eq_null {v : Value} (h : v.encode = .ok .null) : v = .null ∨ v = .any .null := by
  cases v with
  | null => exact .inl rfl
  | any p => exact .inr (congrArg Value.any (Payload.wire?_eq_null (encodeAny_eq_ok_iff.1 h)))
  | list items =>
    obtain ⟨_, hj, -⟩ := encode_list_ok h
    cases hj
  | map entries =>
    obtain ⟨_, hj, -⟩ := encode_map_ok h
    cases hj
  | record kind fields =>
    obtain ⟨_, hj, -⟩ := encode_record_ok h
    cases hj
  | choice c => cases c <;> cases h
  | code c => cases c <;> cases h
  | _ => cases h

/-- The keys of the JSON value of a record are the names of its fields that hold something. -/
theorem keys_encoded {fields : List (String × Value)} {es : List (String × Json)}
    (h : List.Forall₂ (fun f j => j.1 = f.1 ∧ f.2.encode = .ok j.2)
      (fields.filter fun f => !f.2.isNull) es) :
    es.map Prod.fst = (fields.filter fun f => !f.2.isNull).map Prod.fst :=
  map_eq_map_iff_forall₂.2 (h.imp fun _ _ hj => hj.1).flip

/-- No two of those keys are the same if no two names are. -/
theorem nodup_keys_encoded {fields : List (String × Value)} {es : List (String × Json)}
    (hnodup : (fields.map Prod.fst).Nodup)
    (h : List.Forall₂ (fun f j => j.1 = f.1 ∧ f.2.encode = .ok j.2)
      (fields.filter fun f => !f.2.isNull) es) : (es.map Prod.fst).Nodup := by
  rw [keys_encoded h]
  exact hnodup.sublist (List.filter_sublist.map _)

/-- The entry of a field among those of its record: there is none if the field holds nothing. -/
theorem get?_encoded {fields : List (String × Value)} {es : List (String × Json)}
    (hnodup : (fields.map Prod.fst).Nodup)
    (h : List.Forall₂ (fun f j => j.1 = f.1 ∧ f.2.encode = .ok j.2)
      (fields.filter fun f => !f.2.isNull) es) {f : String × Value} (hf : f ∈ fields) :
    (f.2 = .null ∧ Entries.get? f.1 es = none) ∨
      (f.2 ≠ .null ∧ ∃ j, f.2.encode = .ok j ∧ Entries.get? f.1 es = some j) := by
  by_cases hnull : f.2 = .null
  · refine .inl ⟨hnull, Entries.get?_eq_none_iff.2 ?_⟩
    rw [keys_encoded h, List.mem_map]
    rintro ⟨g, hg, hname⟩
    -- no other field has the name
    obtain rfl := List.inj_on_of_nodup_map hnodup (List.mem_of_mem_filter hg) hf hname
    simp [hnull, isNull] at hg
  · have hkeep : (!f.2.isNull) = true := by
      cases hv : f.2 <;> first | rfl | exact absurd hv hnull
    obtain ⟨e, he, hname, hencode⟩ := exists_right_of_forall₂ h (List.mem_filter.2 ⟨hf, hkeep⟩)
    refine .inr ⟨hnull, e.2, hencode, ?_⟩
    rw [← hname, Entries.get?_eq_some_iff]
    · exact he
    · exact nodup_keys_encoded hnodup h

/-! ## Finite doubles -/

/-- The doubles that a value without parts holds, if it can be written, are finite. -/
def IsFinite : Value → Prop
  | .real x | .choice (.number x) => x.isFinite = true
  | .any p => ∀ j, p.wire? = some j → j.AllFinite
  | _ => True

/-- All doubles of a value are finite. -/
def AllFinite (v : Value) : Prop := ∀ w : Value, w.Within v → w.IsFinite

theorem allFinite_of_leaf {v : Value} (hleaf : v.hasParts = false) (h : v.IsFinite) :
    v.AllFinite := fun _ hw => hw.eq_of_leaf hleaf ▸ h

theorem allFinite_record {kind : RecordKind} {fields : List (String × Value)}
    (h : ∀ f ∈ fields, f.2.AllFinite) : (Value.record kind fields).AllFinite := by
  intro w hw
  cases hw with
  | refl => trivial
  | field hf hw => exact h _ hf w hw

/-- The JSON value of finite doubles has finite doubles. -/
theorem AllFinite.encode {v : Value} (hfinite : v.AllFinite) {j : Json} (h : v.encode = .ok j) :
    j.AllFinite := by
  induction v using Value.induction generalizing j with
  | leaf v hleaf =>
    have hself := hfinite v (.refl v)
    -- a value without parts is encoded as a leaf, apart from those of any type
    have hsingle {j : Json} (hj : j.leaves = [j]) (hreal : ∀ x, j = .real x → x.isFinite = true) :
        j.AllFinite := by
      intro x hx
      rw [hj, List.mem_singleton] at hx
      exact hreal x hx.symm
    cases v with
    | list _ | map _ | record _ _ => simp [hasParts] at hleaf
    | any p => exact hself j (encodeAny_eq_ok_iff.1 h)
    | real x =>
      obtain rfl := Except.ok.inj h
      exact hsingle rfl (by rintro _ ⟨⟩; exact hself)
    | choice c =>
      cases c <;> obtain rfl := Except.ok.inj h
      · exact hsingle rfl (by simp)
      · exact hsingle rfl (by simp)
      · exact hsingle rfl (by rintro _ ⟨⟩; exact hself)
    | code c => cases c <;> obtain rfl := Except.ok.inj h <;> exact hsingle rfl (by simp)
    | _ =>
      obtain rfl := Except.ok.inj h
      exact hsingle rfl (by simp)
  | list items ih =>
    obtain ⟨js, rfl, hjs⟩ := encode_list_ok h
    rw [Json.allFinite_array_iff]
    intro j hj
    obtain ⟨v, hv, hencode⟩ := exists_left_of_forall₂ hjs hj
    exact ih v hv (fun w hw => hfinite w (.item hv hw)) hencode
  | map entries ih =>
    obtain ⟨es, rfl, hes⟩ := encode_map_ok h
    rw [Json.allFinite_object_iff]
    intro e he
    obtain ⟨kv, hkv, -, hencode⟩ := exists_left_of_forall₂ hes he
    exact ih kv hkv (fun w hw => hfinite w (.entry hkv hw)) hencode
  | record kind fields ih =>
    obtain ⟨es, rfl, hes⟩ := encode_record_ok h
    rw [Json.allFinite_object_iff]
    intro e he
    obtain ⟨f, hf, -, hencode⟩ := exists_left_of_forall₂ hes he
    have hmem := List.mem_of_mem_filter hf
    exact ih f hmem (fun w hw => hfinite w (.field hmem hw)) hencode

end Value

/-- A record that is not too deep is encoded as the value that it is. -/
theorem Record.encode_ok {r : Record} {j : Json} (h : r.encode = .ok j) :
    r.toValue.encode = .ok j := by
  rw [encode] at h
  split at h
  · simp at h
  · exact h

end ChatRecords
