import ChatRecords.Proofs.Record.Leaves
import ChatRecords.Proofs.Record.Parts

/-!
# Payloads and their decoded parts

Parts of a payload that come already decoded are taken over as they are, so what holds of them is
a parameter. A payload without such parts is a JSON value, and is written as that value where its
type is not known.

## Main definitions

* `Ready.Closed`: properties of decoded parts that decoding itself establishes.
* `Ready.Sound`: the flag sets and choice values that the wire can carry.
* `Payload.AllReady`: all decoded parts of a payload have a property.
* `Payload.Holds`: a part of a payload is a decoded part.
* `Payload.IsPlain`: nothing in a payload is decoded already.
* `Payload.IsSettled`: no object in a payload has a key twice.

## Main results

* `Payload.allReady_ofJson`: JSON values have no decoded parts.
* `Payload.isSettled_settle`: merging repeated keys leaves none.
* `Payload.wire?_ofJson`, `Payload.IsPlain.eq_ofJson`: JSON values are written as they are, and what
  has no decoded parts is one.
* `Payload.wire?_eq_none_iff`: payloads with flag sets cannot be written.
-/

namespace ChatRecords

/-! ## Properties of decoded parts -/

/-- A property that decoding establishes for the parts it makes. -/
structure Ready.Closed (good : Ready → Prop) : Prop where
  /-- The set of a mask has it. -/
  mask : ∀ {c : FlagClass} {m : Int} {r : FlagSet × Bool},
    FlagSet.ofMask c m true = .ok r → good (.flags r.1)
  empty : ∀ c : FlagClass, good (.flags (.empty c))
  dropUnknown : ∀ {s : FlagSet}, good (.flags s) → good (.flags s.dropUnknown)
  flag : ∀ (c : FlagClass) (mask : Nat), good (.flag c mask)
  choice : ∀ {c : Choice}, c.InRange → good (.choice c)

/-- A flag set has named members and separate unknown bits, and a choice value is in range. -/
def Ready.Sound : Ready → Prop
  | .flags s => s.Sound
  | .choice c => c.InRange
  | _ => True

theorem Ready.closed_sound : Ready.Closed Ready.Sound where
  mask h := (FlagSet.sound_of_ofMask h).2
  empty := FlagSet.sound_empty
  dropUnknown := FlagSet.Sound.dropUnknown
  flag _ _ := trivial
  choice h := h

theorem Ready.closed_true : Ready.Closed fun _ => True :=
  ⟨fun _ => trivial, fun _ => trivial, fun _ => trivial, fun _ _ => trivial, fun _ => trivial⟩

namespace Payload

/-- All parts of a payload that are already decoded have a property. -/
inductive AllReady (good : Ready → Prop) : Payload → Prop
  | null : AllReady good .null
  | bool (b : Bool) : AllReady good (.bool b)
  | integer (n : Int) : AllReady good (.integer n)
  | real (x : Double) : AllReady good (.real x)
  | string (s : String) : AllReady good (.string s)
  | array {items : List Payload} (h : ∀ q ∈ items, AllReady good q) : AllReady good (.array items)
  /-- The values of all entries of an object. -/
  | object {entries : List (String × Payload)} (h : ∀ e ∈ entries, AllReady good e.2) :
      AllReady good (.object entries)
  | ready {v : Ready} (h : good v) : AllReady good (.ready v)

variable {good : Ready → Prop}

theorem ofJson_eq_null_iff {v : Json} : ofJson v = .null ↔ v = .null := by
  cases v <;> simp [ofJson]

theorem ofItems_eq (items : List Json) : ofItems items = items.map ofJson := by
  induction items with
  | nil => rfl
  | cons v rest ih => rw [ofItems, ih, List.map_cons]

theorem ofEntries_eq (entries : List (String × Json)) :
    ofEntries entries = entries.map fun e => (e.1, ofJson e.2) := by
  induction entries with
  | nil => rfl
  | cons e rest ih =>
    obtain ⟨k, v⟩ := e
    rw [ofEntries, ih, List.map_cons]

theorem get?_ofEntries (k : String) (entries : List (String × Json)) :
    Entries.get? k (ofEntries entries) = (Entries.get? k entries).map ofJson := by
  induction entries with
  | nil => rfl
  | cons e rest ih =>
    obtain ⟨k', v⟩ := e
    simp only [ofEntries, Entries.get?, ih]
    cases Entries.get? k rest with
    | some v' => rfl
    | none =>
      simp only [Option.map_none]
      split <;> rfl

/-- JSON values have no decoded parts. -/
theorem allReady_ofJson (good : Ready → Prop) (v : Json) : (ofJson v).AllReady good := by
  induction v using Json.induction with
  | null => exact .null
  | bool b => exact .bool b
  | integer n => exact .integer n
  | real x => exact .real x
  | string s => exact .string s
  | array items ih =>
    refine .array fun q hq => ?_
    rw [ofItems_eq] at hq
    obtain ⟨v, hv, rfl⟩ := List.mem_map.1 hq
    exact ih v hv
  | object entries ih =>
    refine .object fun e he => ?_
    rw [ofEntries_eq] at he
    obtain ⟨e', he', rfl⟩ := List.mem_map.1 he
    exact ih e' he'

/-- A part of a payload, at any depth, is the decoded part. -/
inductive Holds (v : Ready) : Payload → Prop
  | here : Holds v (.ready v)
  | item {q : Payload} {items : List Payload} (hq : q ∈ items) (h : Holds v q) :
      Holds v (.array items)
  | entry {e : String × Payload} {entries : List (String × Payload)} (he : e ∈ entries)
      (h : Holds v e.2) : Holds v (.object entries)

theorem AllReady.of_holds {p : Payload} (h : p.AllReady good) {v : Ready} (hv : p.Holds v) :
    good v := by
  induction hv with
  | here =>
    cases h with
    | ready h => exact h
  | item hq _ ih =>
    cases h with
    | array h => exact ih (h _ hq)
  | entry he _ ih =>
    cases h with
    | object h => exact ih (h _ he)

/-- Nothing in a payload is decoded already. -/
def IsPlain (p : Payload) : Prop := p.AllReady fun _ => False

theorem isPlain_ofJson (v : Json) : (ofJson v).IsPlain := allReady_ofJson _ v

theorem AllReady.of_items? (hgood : Ready.Closed good) {p : Payload} (h : p.AllReady good)
    {items : List Payload} (hitems : p.items? = some items) : ∀ q ∈ items, q.AllReady good := by
  unfold items? at hitems
  split at hitems
  · obtain rfl := Option.some.inj hitems
    cases h with
    | array h => exact h
  · obtain rfl := Option.some.inj hitems
    intro q hq
    obtain ⟨flag, -, rfl⟩ := List.mem_map.1 hq
    exact .ready (hgood.flag _ _)
  · simp at hitems

theorem AllReady.of_recordEntries? {p : Payload} (h : p.AllReady good) {kind : RecordKind}
    {entries : List (String × Payload)} (hentries : Decoding.recordEntries? kind p = some entries) :
    ∀ e ∈ entries, e.2.AllReady good := by
  unfold Decoding.recordEntries? at hentries
  split at hentries
  · obtain rfl := Option.some.inj hentries
    cases h with
    | object h => exact h
  · split at hentries
    · obtain rfl := Option.some.inj hentries
      intro e he
      rw [List.mem_singleton.1 he]
      exact .string _
    · simp at hentries
  · simp at hentries

/-! ## Depth -/

theorem depth_le_of_mem_items {items : List Payload} {q : Payload} (h : q ∈ items) :
    q.depth ≤ depthItems items := by
  induction items with
  | nil => simp at h
  | cons p rest ih =>
    rw [depthItems]
    rcases List.mem_cons.1 h with rfl | hrest
    · exact le_max_left _ _
    · exact (ih hrest).trans (le_max_right _ _)

theorem depth_ofJson_lt_of_mem_items {js : List Json} {j : Json} (h : j ∈ js) :
    (ofJson j).depth < (ofJson (.array js)).depth := by
  rw [ofJson, depth, ofItems_eq]
  exact Nat.lt_succ_of_le (depth_le_of_mem_items (List.mem_map_of_mem h))

theorem depth_le_of_mem_entries {entries : List (String × Payload)} {e : String × Payload}
    (h : e ∈ entries) : e.2.depth ≤ depthEntries entries := by
  induction entries with
  | nil => simp at h
  | cons e' rest ih =>
    obtain ⟨k, p⟩ := e'
    rw [depthEntries]
    rcases List.mem_cons.1 h with rfl | hrest
    · exact le_max_left _ _
    · exact (ih hrest).trans (le_max_right _ _)

theorem depth_ofJson_lt_of_mem_entries {es : List (String × Json)} {e : String × Json}
    (h : e ∈ es) : (ofJson e.2).depth < (ofJson (.object es)).depth := by
  rw [ofJson, depth, ofEntries_eq]
  exact Nat.lt_succ_of_le (depth_le_of_mem_entries
    (List.mem_map_of_mem (f := fun e => (e.1, ofJson e.2)) h))

/-! ## Parts of payloads -/

/-- Induction over the parts of a payload. -/
@[elab_as_elim]
theorem induction {motive : Payload → Prop} (null : motive .null) (bool : ∀ b, motive (.bool b))
    (integer : ∀ n, motive (.integer n)) (real : ∀ x, motive (.real x))
    (string : ∀ s, motive (.string s))
    (array : ∀ items, (∀ q ∈ items, motive q) → motive (.array items))
    (object : ∀ entries, (∀ e ∈ entries, motive e.2) → motive (.object entries))
    (ready : ∀ v, motive (.ready v)) (p : Payload) : motive p := by
  refine @Payload.rec motive (fun items => ∀ q ∈ items, motive q)
    (fun entries => ∀ e ∈ entries, motive e.2) (fun e => motive e.2) null bool integer real string
    array object ready (by simp) ?_ (by simp) ?_ (fun _ _ h => h) p
  · intro q items hq hitems
    simpa using ⟨hq, hitems⟩
  · intro e entries he hentries
    simpa only [List.mem_cons, forall_eq_or_imp] using ⟨he, hentries⟩

theorem allReady_true (p : Payload) : p.AllReady fun _ => True := by
  induction p using Payload.induction with
  | null => exact .null
  | bool b => exact .bool b
  | integer n => exact .integer n
  | real x => exact .real x
  | string s => exact .string s
  | array items ih => exact .array ih
  | object entries ih => exact .object ih
  | ready v => exact .ready trivial

/-! ## Settled payloads -/

theorem settleItems_eq (items : List Payload) : settleItems items = items.map settle := by
  induction items with
  | nil => rfl
  | cons p rest ih => rw [settleItems, ih, List.map_cons]

theorem settleEntries_eq (entries : List (String × Payload)) :
    settleEntries entries = entries.map fun e => (e.1, e.2.settle) := by
  induction entries with
  | nil => rfl
  | cons e rest ih =>
    obtain ⟨k, p⟩ := e
    rw [settleEntries, ih, List.map_cons]

/-- No object in a payload has a key twice. -/
inductive IsSettled : Payload → Prop
  | null : IsSettled .null
  | bool (b : Bool) : IsSettled (.bool b)
  | integer (n : Int) : IsSettled (.integer n)
  | real (x : Double) : IsSettled (.real x)
  | string (s : String) : IsSettled (.string s)
  | array {items : List Payload} (h : ∀ q ∈ items, IsSettled q) : IsSettled (.array items)
  /-- The keys of the object are distinct, and its values have no key twice. -/
  | object {entries : List (String × Payload)} (hkeys : (entries.map Prod.fst).Nodup)
      (h : ∀ e ∈ entries, IsSettled e.2) : IsSettled (.object entries)
  | ready (v : Ready) : IsSettled (.ready v)

theorem isSettled_settle (p : Payload) : p.settle.IsSettled := by
  induction p using Payload.induction with
  | null => exact .null
  | bool b => exact .bool b
  | integer n => exact .integer n
  | real x => exact .real x
  | string s => exact .string s
  | array items ih =>
    rw [settle, settleItems_eq]
    refine .array fun q hq => ?_
    obtain ⟨p, hp, rfl⟩ := List.mem_map.1 hq
    exact ih p hp
  | object entries ih =>
    rw [settle, settleEntries_eq]
    refine .object (Entries.nodup_keys_settle _) fun e he => ?_
    obtain ⟨e, hmem, rfl⟩ := List.mem_map.1 (Entries.mem_of_mem_settle he)
    exact ih e hmem
  | ready v => exact .ready v

theorem IsSettled.settle_eq {p : Payload} (h : p.IsSettled) : p.settle = p := by
  induction h with
  | array h ih =>
    rw [settle, settleItems_eq]
    exact congrArg Payload.array ((List.map_congr_left ih).trans (List.map_id _))
  | @object entries hkeys h ih =>
    have hmap : entries.map (fun e => (e.1, e.2.settle)) = entries := by
      refine (List.map_congr_left ?_).trans (List.map_id _)
      exact fun e he => Prod.ext rfl (ih e he)
    rw [settle, settleEntries_eq, hmap, Entries.settle_eq_self hkeys]
  | _ => rfl

theorem AllReady.settle {p : Payload} (h : p.AllReady good) : p.settle.AllReady good := by
  induction h with
  | array h ih =>
    rw [Payload.settle, settleItems_eq]
    refine .array fun q hq => ?_
    obtain ⟨p, hp, rfl⟩ := List.mem_map.1 hq
    exact ih p hp
  | object h ih =>
    rw [Payload.settle, settleEntries_eq]
    refine .object fun e he => ?_
    obtain ⟨e, hmem, rfl⟩ := List.mem_map.1 (Entries.mem_of_mem_settle he)
    exact ih e hmem
  | null => exact .null
  | bool b => exact .bool b
  | integer n => exact .integer n
  | real x => exact .real x
  | string s => exact .string s
  | ready h => exact .ready h

theorem settle_eq_null_iff {p : Payload} : p.settle = .null ↔ p = .null := by
  cases p <;> simp [settle]

/-! ## What payloads are written as -/

theorem wireItems?_eq_some_iff {items : List Payload} {js : List Json} :
    wireItems? items = some js ↔ List.Forall₂ (fun p j => p.wire? = some j) items js := by
  induction items generalizing js with
  | nil => simp [wireItems?, eq_comm]
  | cons p rest ih =>
    rw [wireItems?, List.forall₂_cons_left_iff]
    simp only [Option.bind_eq_some_iff, Option.map_eq_some_iff, ih]
    constructor
    · rintro ⟨j, hj, js, hjs, rfl⟩
      exact ⟨j, js, hj, hjs, rfl⟩
    · rintro ⟨j, js, hj, hjs, rfl⟩
      exact ⟨j, hj, js, hjs, rfl⟩

theorem wireEntries?_eq_some_iff {entries : List (String × Payload)}
    {es : List (String × Json)} : wireEntries? entries = some es ↔
      List.Forall₂ (fun e j => j.1 = e.1 ∧ e.2.wire? = some j.2) entries es := by
  induction entries generalizing es with
  | nil => simp [wireEntries?, eq_comm]
  | cons e rest ih =>
    obtain ⟨k, p⟩ := e
    rw [wireEntries?, List.forall₂_cons_left_iff]
    simp only [Option.bind_eq_some_iff, Option.map_eq_some_iff, ih]
    constructor
    · rintro ⟨j, hj, es, hes, rfl⟩
      exact ⟨(k, j), es, ⟨rfl, hj⟩, hes, rfl⟩
    · rintro ⟨⟨_, j⟩, es, ⟨rfl, hj⟩, hes, rfl⟩
      exact ⟨j, hj, es, hes, rfl⟩

theorem wire?_array_eq_some {items : List Payload} {j : Json}
    (h : (Payload.array items).wire? = some j) :
    ∃ js, j = .array js ∧ List.Forall₂ (fun p j => p.wire? = some j) items js := by
  rw [wire?, Option.map_eq_some_iff] at h
  obtain ⟨js, hjs, rfl⟩ := h
  exact ⟨js, rfl, wireItems?_eq_some_iff.1 hjs⟩

theorem wire?_object_eq_some {entries : List (String × Payload)} {j : Json}
    (h : (Payload.object entries).wire? = some j) : ∃ es, j = .object es ∧
      List.Forall₂ (fun e j => j.1 = e.1 ∧ e.2.wire? = some j.2) entries es := by
  rw [wire?, Option.map_eq_some_iff] at h
  obtain ⟨es, hes, rfl⟩ := h
  exact ⟨es, rfl, wireEntries?_eq_some_iff.1 hes⟩

theorem wireItems?_eq_none_iff {items : List Payload} :
    wireItems? items = none ↔ ∃ p ∈ items, p.wire? = none := by
  induction items with
  | nil => simp [wireItems?]
  | cons p rest ih => cases hp : p.wire? <;> simp [wireItems?, hp, ih]

theorem wireEntries?_eq_none_iff {entries : List (String × Payload)} :
    wireEntries? entries = none ↔ ∃ e ∈ entries, e.2.wire? = none := by
  induction entries with
  | nil => simp [wireEntries?]
  | cons e rest ih =>
    obtain ⟨k, p⟩ := e
    cases hp : p.wire? <;> simp only [wireEntries?, hp, List.exists_mem_cons_iff] <;> simp [ih]

/-- What cannot be written holds a flag set. -/
theorem wire?_eq_none_iff {p : Payload} : p.wire? = none ↔ ∃ s, p.Holds (.flags s) := by
  induction p using Payload.induction with
  | array items ih =>
    rw [wire?, Option.map_eq_none_iff, wireItems?_eq_none_iff]
    constructor
    · rintro ⟨q, hq, hnone⟩
      obtain ⟨s, hs⟩ := (ih q hq).1 hnone
      exact ⟨s, .item hq hs⟩
    · rintro ⟨s, hs⟩
      cases hs with
      | item hq hs => exact ⟨_, hq, (ih _ hq).2 ⟨s, hs⟩⟩
  | object entries ih =>
    rw [wire?, Option.map_eq_none_iff, wireEntries?_eq_none_iff]
    constructor
    · rintro ⟨e, he, hnone⟩
      obtain ⟨s, hs⟩ := (ih e he).1 hnone
      exact ⟨s, .entry he hs⟩
    · rintro ⟨s, hs⟩
      cases hs with
      | entry he hs => exact ⟨_, he, (ih _ he).2 ⟨s, hs⟩⟩
  | ready v =>
    cases v with
    | flags s => exact iff_of_true rfl ⟨s, .here⟩
    | _ => exact iff_of_false (by simp [wire?]) (by rintro ⟨s, ⟨⟩⟩)
  | _ => exact iff_of_false (by simp [wire?]) (by rintro ⟨s, ⟨⟩⟩)

/-- A JSON value is written as it is. -/
theorem wire?_ofJson (v : Json) : (ofJson v).wire? = some v := by
  induction v using Json.induction with
  | array items ih =>
    rw [ofJson, wire?, Option.map_eq_some_iff, ofItems_eq]
    refine ⟨items, wireItems?_eq_some_iff.2 ?_, rfl⟩
    rw [List.forall₂_map_left_iff, List.forall₂_same]
    exact ih
  | object entries ih =>
    rw [ofJson, wire?, Option.map_eq_some_iff, ofEntries_eq]
    refine ⟨entries, wireEntries?_eq_some_iff.2 ?_, rfl⟩
    rw [List.forall₂_map_left_iff, List.forall₂_same]
    exact fun e he => ⟨rfl, ih e he⟩
  | _ => rfl

/-- What has no decoded parts is the JSON value that it is written as. -/
theorem IsPlain.eq_ofJson {p : Payload} (h : p.IsPlain) {j : Json} (hj : p.wire? = some j) :
    p = ofJson j := by
  induction h generalizing j with
  | array _ ih =>
    obtain ⟨js, rfl, hjs⟩ := wire?_array_eq_some hj
    rw [ofJson, ofItems_eq]
    refine congrArg Payload.array ((List.map_id _).symm.trans (map_eq_map_iff_forall₂.2 ?_))
    exact (forall₂_mem hjs).imp fun q j h => ih q h.1 h.2.2
  | object _ ih =>
    obtain ⟨es, rfl, hes⟩ := wire?_object_eq_some hj
    rw [ofJson, ofEntries_eq]
    refine congrArg Payload.object ((List.map_id _).symm.trans (map_eq_map_iff_forall₂.2 ?_))
    exact (forall₂_mem hes).imp fun e j h => Prod.ext h.2.2.1.symm (ih e h.1 h.2.2.2)
  | ready h => exact h.elim
  | _ =>
    obtain rfl := Option.some.inj hj
    rfl

/-- What is written of a payload without repeated keys has none. -/
theorem IsSettled.ofJson {p : Payload} (h : p.IsSettled) {j : Json} (hj : p.wire? = some j) :
    (ofJson j).IsSettled := by
  induction h generalizing j with
  | array _ ih =>
    obtain ⟨js, rfl, hjs⟩ := wire?_array_eq_some hj
    rw [Payload.ofJson, ofItems_eq]
    refine .array fun q hq => ?_
    obtain ⟨j, hmem, rfl⟩ := List.mem_map.1 hq
    obtain ⟨p, hp, hj⟩ := exists_left_of_forall₂ hjs hmem
    exact ih p hp hj
  | object hkeys _ ih =>
    obtain ⟨es, rfl, hes⟩ := wire?_object_eq_some hj
    rw [Payload.ofJson, ofEntries_eq]
    refine .object ?_ fun q hq => ?_
    · rw [List.map_map]
      exact map_eq_map_iff_forall₂.2 (hes.imp fun _ _ h => h.1.symm) ▸ hkeys
    · obtain ⟨e, hmem, rfl⟩ := List.mem_map.1 hq
      obtain ⟨p, hp, -, hj⟩ := exists_left_of_forall₂ hes hmem
      exact ih p hp hj
  | ready v =>
    cases v with
    | choice c =>
      obtain rfl := Option.some.inj hj
      refine .object (by simp [ofEntries]) fun q hq => ?_
      rw [List.mem_singleton.1 hq]
      cases c <;> constructor
    | flags s => cases hj
    | _ =>
      obtain rfl := Option.some.inj hj
      constructor
  | _ =>
    obtain rfl := Option.some.inj hj
    constructor

end Payload

/-- A JSON value of any type has the doubles that it has as a JSON value. -/
theorem Value.allFinite_any_ofJson {v : Json} (h : v.AllFinite) :
    (Value.any (.ofJson v)).AllFinite := by
  refine allFinite_of_leaf rfl fun j hj => ?_
  rw [Payload.wire?_ofJson] at hj
  exact Option.some.inj hj ▸ h

end ChatRecords
