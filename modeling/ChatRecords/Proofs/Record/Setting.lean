import ChatRecords.Proofs.Record.Rebuilding

/-!
# Setting fields of a record

Fields that are set one after another, each once, hold what they were set to, and the other fields
hold what they held.

## Main definitions

* `Record.setAll`: a record with some fields set, one after another.

## Main results

* `Record.setAll_eq`: the fields are set all at once.
* `Record.setAll_setAll`: fields that are set again hold what they were set to last.
* `Record.Conforms.setAll`: set to values that its fields admit, a record stays one of its kind.
-/

namespace ChatRecords
namespace Record

/-- A record with some fields set, one after another. -/
def setAll (entries : List (String × Value)) (r : Record) : Record :=
  entries.foldl (fun r e => r.set e.1 e.2) r

variable {entries entries' : List (String × Value)} {kind : RecordKind} {r : Record} {name : String}

theorem lookup_eq_none_iff_notMem {β : Type} {entries : List (String × β)} :
    entries.lookup name = none ↔ name ∉ entries.map Prod.fst := by
  rw [List.lookup_eq_none_iff, List.mem_map, not_exists]
  refine forall_congr' fun e => ?_
  rw [bne_iff_ne, not_and, ne_comm]

/-- In a list with other values, a key has the value that is made of its own. -/
theorem lookup_map_values (g : String → Value → Value) (fields : List (String × Value)) :
    (fields.map fun f => (f.1, g f.1 f.2)).lookup name = (fields.lookup name).map (g name) := by
  induction fields with
  | nil => rfl
  | cons f rest ih =>
    rw [List.map_cons, List.lookup_cons, List.lookup_cons, ih]
    cases hname : name == f.1 with
    | true =>
      obtain rfl := eq_of_beq hname
      rfl
    | false => rfl

/-- Fields that are set one after another, each once, are set all at once. -/
theorem setAll_eq (hnodup : (entries.map Prod.fst).Nodup) (r : Record) :
    r.setAll entries = ⟨r.kind, r.fields.map fun f => (f.1, (entries.lookup f.1).getD f.2)⟩ := by
  induction entries generalizing r with
  | nil => exact congrArg (Record.mk r.kind) (List.map_id _).symm
  | cons e rest ih =>
    obtain ⟨name, v⟩ := e
    rw [List.map_cons, List.nodup_cons] at hnodup
    have hrest := ih hnodup.2 (r.set name v)
    rw [set, List.map_map] at hrest
    refine hrest.trans (congrArg (Record.mk r.kind) (List.map_congr_left fun f _ => ?_))
    by_cases hname : f.1 = name
    · simp [hname, lookup_eq_none_iff_notMem.2 hnodup.1]
    · have hne : (f.1 == name) = false := beq_eq_false_iff_ne.2 hname
      simp [hname, List.lookup_cons, hne]

/-- A field holds what it was set to, or else what it held. -/
theorem get_setAll (hnodup : (entries.map Prod.fst).Nodup) (hname : name ∈ r.fields.map Prod.fst) :
    (r.setAll entries).get name = (entries.lookup name).getD (r.get name) := by
  have hlookup := mt lookup_eq_none_iff_notMem.1 (not_not_intro hname)
  obtain ⟨v, hv⟩ := Option.ne_none_iff_exists'.1 hlookup
  rw [setAll_eq hnodup, get, get, lookup_map_values fun name v => (entries.lookup name).getD v, hv]
  rfl

/-- Fields that are set again hold what they were set to last. -/
theorem setAll_setAll (hnodup : (entries.map Prod.fst).Nodup)
    (hnames : entries'.map Prod.fst = entries.map Prod.fst) (r : Record) :
    (r.setAll entries).setAll entries' = r.setAll entries' := by
  have hnodup' : (entries'.map Prod.fst).Nodup := hnames ▸ hnodup
  rw [setAll_eq hnodup, setAll_eq hnodup', setAll_eq hnodup', List.map_map]
  refine congrArg (Record.mk r.kind) (List.map_congr_left fun f _ => Prod.ext rfl ?_)
  simp only [Function.comp_apply]
  cases hlookup : entries'.lookup f.1 with
  | some v => rfl
  | none =>
    rw [lookup_eq_none_iff_notMem, hnames, ← lookup_eq_none_iff_notMem] at hlookup
    rw [hlookup]
    rfl

/-- A record in which a field is set to what it holds stays as it is. -/
theorem set_get (hnames : (r.fields.map Prod.fst).Nodup) (name : String) :
    r.set name (r.get name) = r := by
  refine congrArg (Record.mk r.kind) ((List.map_congr_left fun f hf => ?_).trans (List.map_id _))
  split
  · next hname =>
    have hlookup := (lookup_eq_some_iff_mem (k := f.1) (v := f.2) hnames).2 hf
    rw [← hname, get, hlookup]
    rfl
  · rfl

theorem setAll_eq_self (hnames : (r.fields.map Prod.fst).Nodup)
    (h : ∀ e ∈ entries, r.get e.1 = e.2) : r.setAll entries = r := by
  induction entries with
  | nil => rfl
  | cons e rest ih =>
    rw [List.forall_mem_cons] at h
    have hself := set_get hnames e.1
    rw [h.1] at hself
    change (r.set e.1 e.2).setAll rest = r
    rw [hself]
    exact ih h.2

/-- A record stays one of its kind if a field is set to a value that it admits. -/
theorem Conforms.set (h : r.Conforms kind) {f : Field} (hf : f ∈ kind.fields) {v : Value}
    (hv : f.Admits kind v) : (r.set f.name v).Conforms kind := by
  obtain ⟨hkind, hfields⟩ := conforms_iff.1 h
  refine conforms_iff.2 ⟨hkind, List.forall₂_map_right_iff.2 ((forall₂_mem hfields).imp ?_)⟩
  rintro f' e ⟨hf', -, hname, hadmits⟩
  by_cases hset : e.1 = f.name
  · obtain rfl : f' = f := List.inj_on_of_nodup_map kind.nodup_names hf' hf (hname.symm.trans hset)
    rw [if_pos hset]
    exact ⟨rfl, hv⟩
  · rw [if_neg hset]
    exact ⟨hname, hadmits⟩

theorem Conforms.setAll (h : r.Conforms kind)
    (hentries : ∀ e ∈ entries, ∃ f ∈ kind.fields, f.name = e.1 ∧ f.Admits kind e.2) :
    (r.setAll entries).Conforms kind := by
  induction entries generalizing r with
  | nil => exact h
  | cons e rest ih =>
    rw [List.forall_mem_cons] at hentries
    obtain ⟨⟨f, hf, hname, hadmits⟩, hrest⟩ := hentries
    have hset := h.set hf hadmits
    rw [hname] at hset
    exact ih hset hrest

end Record
end ChatRecords
