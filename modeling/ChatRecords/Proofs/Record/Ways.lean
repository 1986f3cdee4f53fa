import ChatRecords.Proofs.Json.Limits
import ChatRecords.Proofs.Record.Causes
import ChatRecords.Proofs.Record.Levels
import ChatRecords.Proofs.Record.RoundTrip

/-!
# Texts and mappings

A JSON object may come as text, as bytes of text or as a mapping that is read already. What is
decoded of it is the same, with two exceptions: a text is bound by the limits of the reader, and an
integer beyond all finite doubles is infinite in a text and refused in a mapping, where a real is
expected.

## Main definitions

* `Fault.ofKind`, `Decoding.blank`: what of a fault does not depend on the form of a payload.
* `Decoding.Agree`: two results are the same but for what a fault shows.
* `FieldType.takesReals`: the types of values that make a real of an integer.
* `Decoding.BeyondReals`: a payload has an integer in such a place that is beyond all finite doubles.

## Main results

* `Decoding.blank_record`: texts and mappings are decoded alike.
* `Decoding.refused_of_beyondReals`: what tells them apart.
* `Record.ways_of_decode`: the same of whole payloads, however they come.
-/

namespace ChatRecords

/-! ## Payloads within the limits of the reader -/

namespace Payload

theorem depthItems_le_iff {items : List Payload} {n : Nat} :
    depthItems items ≤ n ↔ ∀ q ∈ items, q.depth ≤ n := by
  induction items with
  | nil => simp [depthItems]
  | cons q rest ih => simp [depthItems, ih]

theorem depthEntries_le_iff {entries : List (String × Payload)} {n : Nat} :
    depthEntries entries ≤ n ↔ ∀ e ∈ entries, e.2.depth ≤ n := by
  induction entries with
  | nil => simp [depthEntries]
  | cons e rest ih =>
    obtain ⟨k, q⟩ := e
    simp only [depthEntries, max_le_iff, ih, List.mem_cons, forall_eq_or_imp]

/-- Containers that are empty count for the depth of a payload, and not for the reader. -/
theorem depth_ofJson_le (v : Json) : (ofJson v).depth ≤ v.nesting + 1 := by
  induction v using Json.induction with
  | array items ih =>
    rw [ofJson, depth, Nat.succ_le_succ_iff, ofItems_eq, depthItems_le_iff]
    intro q hq
    obtain ⟨w, hw, rfl⟩ := List.mem_map.1 hq
    cases items with
    | nil => cases hw
    | cons w' rest =>
      obtain ⟨hpos, hnesting⟩ := Json.nesting_array_le_iff.1 (le_refl (Json.array (w' :: rest)).nesting)
      have hle := hnesting w hw
      exact (ih w hw).trans (by omega)
  | object entries ih =>
    rw [ofJson, depth, Nat.succ_le_succ_iff, ofEntries_eq, depthEntries_le_iff]
    intro q hq
    obtain ⟨e, he, rfl⟩ := List.mem_map.1 hq
    cases entries with
    | nil => cases he
    | cons e' rest =>
      obtain ⟨hpos, hnesting⟩ := Json.nesting_object_le_iff.1 (le_refl (Json.object (e' :: rest)).nesting)
      have hle := hnesting e he
      exact (ih e he).trans (by omega)
  | _ => exact Nat.zero_le _

end Payload

/-- Settling changes nothing where no object has a key twice. -/
theorem Json.settle_eq_self {v : Json} (h : (Payload.ofJson v).IsSettled) : v.settle = v := by
  induction v using Json.induction with
  | array items ih =>
    rw [Payload.ofJson, Payload.ofItems_eq] at h
    cases h with
    | array hitems =>
      rw [settle, settleItems_eq]
      refine congrArg Json.array ((List.map_congr_left fun w hw => ?_).trans (List.map_id _))
      exact ih w hw (hitems _ (List.mem_map_of_mem hw))
  | object entries ih =>
    rw [Payload.ofJson, Payload.ofEntries_eq] at h
    cases h with
    | object hkeys hvalues =>
      have hsame : settleEntries entries = entries := by
        rw [settleEntries_eq]
        refine (List.map_congr_left fun e he => ?_).trans (List.map_id _)
        have hsettled := hvalues _ (List.mem_map_of_mem (f := fun e => (e.1, Payload.ofJson e.2)) he)
        exact Prod.ext rfl (ih e he hsettled)
      rw [List.map_map] at hkeys
      rw [settle, hsame, Entries.settle_eq_self hkeys]
  | _ => rfl

/-! ## Faults but for what they show -/

namespace Fault

/-- A fault of a kind that shows nothing. -/
def ofKind : FaultKind → Fault
  | .schemaMismatch => .mismatch .value .null
  | .malformedId => .malformedId .null
  | .malformedChoice => .malformedChoice .null
  | .unknownMessageType => .unknownMessageType 0
  | .invalidEmoji => .invalidEmoji
  | .invalidResponse => .invalidResponse (.described "")
  | .general => .described ""

@[simp] theorem kind_ofKind (k : FaultKind) : (ofKind k).kind = k := by
  cases k <;> rfl

end Fault

namespace Decoding

variable {α β γ : Type}

/-- The result with a fault of which only the kind is left. -/
def blank (d : Decoding α) : Decoding α :=
  ⟨d.warnings, d.outcome.mapError fun r => ⟨.ofKind r.fault.kind, r.path⟩⟩

theorem blank_map (d : Decoding α) (f : α → β) : (d.map f).blank = d.blank.map f := by
  obtain ⟨warnings, outcome⟩ := d
  cases outcome <;> rfl

theorem blank_under (d : Decoding α) (step : Step) : (d.under step).blank = d.blank.under step := by
  obtain ⟨warnings, outcome⟩ := d
  cases outcome <;> rfl

theorem blank_both (f : α → β → γ) (a : Decoding α) (b : Decoding β) :
    (both f a b).blank = both f a.blank b.blank := by
  obtain ⟨_, x⟩ := a
  obtain ⟨_, y⟩ := b
  cases x <;> cases y <;> rfl

theorem blank_collect (ds : List (Decoding α)) : (collect ds).blank = collect (ds.map blank) := by
  induction ds with
  | nil => rfl
  | cons d rest ih => rw [collect, blank_both, ih, List.map_cons, collect]

/-- Faults of one kind cannot be told apart. -/
theorem blank_failed {fault fault' : Fault} (h : fault.kind = fault'.kind) :
    (failed fault : Decoding α).blank = (failed fault').blank := by
  simp only [blank, failed, refused, Except.mapError, h]

theorem blank_mismatch (expected expected' : Expectation) (p : Payload) :
    (failed (.mismatch expected p) : Decoding α).blank = (failed (.mismatch expected' p)).blank :=
  blank_failed rfl

/-- Two results agree: the same warnings, and the same value or two faults of one kind at one
place. -/
def Agree (d d' : Decoding α) : Prop :=
  d.warnings = d'.warnings ∧ ((∃ a, d.outcome = .ok a ∧ d'.outcome = .ok a) ∨
    ∃ r r', d.outcome = .error r ∧ d'.outcome = .error r' ∧
      r'.fault.kind = r.fault.kind ∧ r'.path = r.path)

/-- Results agree if they are the same but for what faults show. -/
theorem agree_of_blank_eq {d d' : Decoding α} (h : d.blank = d'.blank) : d.Agree d' := by
  obtain ⟨warnings, outcome⟩ := d
  obtain ⟨warnings', outcome'⟩ := d'
  obtain ⟨hwarnings, houtcome⟩ := Decoding.mk.inj h
  refine ⟨hwarnings, ?_⟩
  cases outcome with
  | ok a =>
    cases outcome' with
    | ok a' =>
      obtain rfl : a = a' := Except.ok.inj houtcome
      exact .inl ⟨a, rfl, rfl⟩
    | error r' => cases houtcome
  | error r =>
    cases outcome' with
    | ok a' => cases houtcome
    | error r' =>
      obtain ⟨hfault, hpath⟩ := Refusal.mk.inj (Except.error.inj houtcome)
      have hkind := congrArg Fault.kind hfault
      rw [Fault.kind_ofKind, Fault.kind_ofKind] at hkind
      exact .inr ⟨r, r', rfl, rfl, hkind.symm, hpath.symm⟩

/-- A value has the same warnings in each result that agrees. -/
theorem Agree.eq_of_ok {d d' : Decoding α} (h : d.Agree d') {a : α} (ha : d'.outcome = .ok a) :
    d = d' := by
  obtain ⟨warnings, outcome⟩ := d
  obtain ⟨warnings', outcome'⟩ := d'
  obtain ⟨rfl, ⟨b, rfl, rfl⟩ | ⟨r, r', rfl, rfl, -⟩⟩ := h
  · rfl
  · cases ha

end Decoding

/-! ## Conversions -/

/-- Whether values of a type make a real of an integer. Where an integer is one of several types, it
stays an integer. -/
def FieldType.takesReals : FieldType → Bool
  | .scalar .real => true
  | .union first rest => decide (.real ∈ first :: rest ∧ .integer ∉ first :: rest)
  | _ => false

/-- The calendar has the days of the years from 1 to 9999. -/
theorem Moment.ofInstant?_eq_none {n : Int}
    (h : n < -62135596800000000 ∨ 253402300800000000 ≤ n) : ofInstant? n = none := by
  have hstart : ((epochOrdinal * microsecondsPerDay : Nat) : Int) = 62135596800000000 := by decide
  have hend : Date.dayCount * microsecondsPerDay = 315537897600000000 := by decide
  rw [ofInstant?, hstart]
  generalize hsince : n + 62135596800000000 = since
  by_cases hneg : since < 0
  · rw [if_pos hneg]
  · have hday : ¬since.toNat / microsecondsPerDay < Date.dayCount := by
      rw [Nat.div_lt_iff_lt_mul (by decide), hend]
      omega
    rw [if_neg hneg, Date.ofOrdinal?, if_neg hday]

/-- An integer beyond 64 bits counts neither seconds nor milliseconds of any moment. -/
theorem Moment.ofCount?_eq_none {n : Int} (h : ¬Choice.FitsInteger n) : ofCount? n = none := by
  unfold Choice.FitsInteger at h
  have hlarge : ¬n.natAbs ≤ secondsLimit := by
    unfold secondsLimit
    omega
  rw [ofCount?, if_neg hlarge, ofSeconds?, Int.fdiv_eq_ediv_of_nonneg _ (by decide),
    Int.fmod_eq_emod_of_nonneg _ (by decide)]
  exact ofInstant?_eq_none (by omega)

namespace Conversion

variable {p : Payload}

/-- An integer is a real alike in texts and in mappings if it is one of the finite doubles. -/
theorem real_eq (h : ∀ n, p.integer? = some n → (Double.ofInt n).isFinite = true) :
    real .text p = real .mapping p := by
  unfold real
  split
  · rfl
  · rfl
  · rfl
  · cases hn : p.integer? with
    | none => rfl
    | some n => simp [h n hn]

theorem scalar_eq {t : ScalarType} (h : t = .real → ∀ n, p.integer? = some n →
    (Double.ofInt n).isFinite = true) : scalar .text t p = scalar .mapping t p := by
  cases t with
  | real => rw [scalar, scalar, real_eq (h rfl)]
  | text | integer | truth => rw [scalar, scalar]

theorem union_eq {first : ScalarType} {rest : List ScalarType}
    (h : ∀ t ∈ first :: rest, scalar .text t p = scalar .mapping t p) :
    union .text first rest p = union .mapping first rest p := by
  have hfind {types : List ScalarType} (htypes : types ⊆ first :: rest) :
      (types.findSome? fun t => (scalar .text t p).toOption) =
        types.findSome? fun t => (scalar .mapping t p).toOption := by
    induction types with
    | nil => rw [List.findSome?_nil, List.findSome?_nil]
    | cons t types ih =>
      rw [List.cons_subset] at htypes
      rw [List.findSome?_cons, List.findSome?_cons, h t htypes.1, ih htypes.2]
  simp only [union, hfind (List.Subset.refl _), h first List.mem_cons_self]

theorem real_integer (form : PayloadForm) (n : Int) : real form (.integer n) =
    if form = .mapping ∧ !(Double.ofInt n).isFinite then refuse .number (.integer n)
    else .ok (Double.ofInt n) := by
  rw [real]
  · rfl
  all_goals nofun

/-- An integer beyond all finite doubles converts to nothing but an integer. -/
theorem scalar_integer_ne_ok {n : Int} (hn : (Double.ofInt n).isFinite = false) {t : ScalarType}
    (ht : t ≠ .integer) (v : Value) : scalar .mapping t (.integer n) ≠ .ok v := by
  intro hok
  cases t with
  | integer => exact ht rfl
  | text => simp [scalar, text, Payload.text?, refuse, Except.map] at hok
  | real =>
    have hbeyond : PayloadForm.mapping = .mapping ∧ (!(Double.ofInt n).isFinite) = true := by
      rw [hn]
      exact ⟨rfl, rfl⟩
    rw [scalar, real_integer, if_pos hbeyond] at hok
    cases hok
  | truth =>
    have hsmall : (Double.ofInt 0).isFinite = true ∧ (Double.ofInt 1).isFinite = true := by
      decide +kernel
    have hzero : n ≠ 0 := by
      rintro rfl
      rw [hsmall.1] at hn
      cases hn
    have hone : n ≠ 1 := by
      rintro rfl
      rw [hsmall.2] at hn
      cases hn
    simp only [scalar, truth, Payload.integer?, truthOfInteger, if_neg hzero, if_neg hone] at hok
    split at hok <;> simp [refuse, Except.map] at hok

/-- Where an integer is one of several types, an integer is taken as it is. -/
theorem union_integer {first : ScalarType} {rest : List ScalarType}
    (h : .integer ∈ first :: rest) (n : Int) (form : PayloadForm) :
    union form first rest (.integer n) = .ok (.integer n) := by
  have hfind {types : List ScalarType} (htypes : .integer ∈ types) :
      (types.findSome? fun t => asIs? t (.integer n)) = some (.integer n) := by
    induction types with
    | nil => cases htypes
    | cons t types ih =>
      cases t with
      | integer => rfl
      | _ => exact ih (by simpa using htypes)
  simp only [union, hfind h]

theorem blank_moment (p : Payload) :
    (Decoding.ofConversion ((moment .text p).map Value.moment)).blank =
      (Decoding.ofConversion ((moment .mapping p).map Value.moment)).blank := by
  unfold moment
  split
  · rfl
  · rfl
  · cases p.integer? with
    | none => rfl
    | some n =>
      by_cases hsize : Choice.FitsInteger n
      · simp [hsize]
      · simp only [hsize, decide_false, Bool.not_false, and_self, if_true, reduceCtorEq, false_and,
          if_false, Moment.ofCount?_eq_none hsize]
        rfl

end Conversion

/-! ## Parts -/

namespace Payload

theorem eq_integer_of_integer? {v : Json} {n : Int} (h : (ofJson v).integer? = some n) :
    ofJson v = .integer n := by
  cases v <;> simp_all [ofJson, integer?]

theorem items?_ofJson {v : Json} {items : List Payload} (h : (ofJson v).items? = some items) :
    ∃ vs : List Json, items = vs.map ofJson := by
  cases v with
  | array vs =>
    refine ⟨vs, ?_⟩
    rw [← ofItems_eq]
    exact (Option.some.inj h).symm
  | _ => cases h

end Payload

namespace Decoding

open Payload (ofJson ofEntries)

/-- In a payload for a type of values, an integer is beyond all finite doubles where a real is
expected. -/
def BeyondReals (t : FieldType) (p : Payload) : Prop :=
  ∃ path u n, PartAt t p path u (.integer n) ∧ u.takesReals = true ∧
    (Double.ofInt n).isFinite = false

/-- What is beyond the reals in a part is so in the whole. -/
theorem BeyondReals.of_part {t t' : FieldType} {p p' : Payload} (h : BeyondReals t' p')
    (step : Path)
    (hstep : ∀ {path u q}, PartAt t' p' path u q → PartAt t p (step ++ path) u q) :
    BeyondReals t p := by
  obtain ⟨path, u, n, hpart, hu, hn⟩ := h
  exact ⟨step ++ path, u, n, hstep hpart, hu, hn⟩

/-- A text has no parts but itself. -/
theorem not_beyondReals_string (t : FieldType) (s : String) : ¬BeyondReals t (.string s) := by
  have hpart {t u : FieldType} {p q : Payload} {path : Path} (h : PartAt t p path u q)
      (hp : p = .string s) : q = .string s := by
    induction h with
    | here => exact hp
    | nullable _ _ ih => exact ih hp
    | item hitems =>
      rw [hp] at hitems
      cases hitems
    | entry | field => cases hp
  rintro ⟨path, u, n, h, -⟩
  cases hpart h rfl

theorem isFinite_of_not_beyondReals {t : FieldType} {v : Json} (h : ¬BeyondReals t (ofJson v))
    (ht : t.takesReals = true) {n : Int} (hn : (ofJson v).integer? = some n) :
    (Double.ofInt n).isFinite = true := by
  by_contra hbeyond
  rw [Payload.eq_integer_of_integer? hn] at h
  exact h ⟨[], t, n, .here _ _, ht, by simpa using hbeyond⟩

section

variable {decode decode' : RecordKind → Payload → Decoding Value} (hrecord : ∀ kind v,
  ¬BeyondReals (.record kind) (ofJson v) →
    (decode kind (ofJson v)).blank = (decode' kind (ofJson v)).blank)

include hrecord

/-- What is decoded for a type of values is alike in texts and in mappings, if it is so for
records. -/
theorem blank_field {t : FieldType} {v : Json} (h : ¬BeyondReals t (ofJson v)) (name : String) :
    (field .text decode name t (ofJson v)).blank =
      (field .mapping decode' name t (ofJson v)).blank := by
  induction t generalizing v with
  | scalar t =>
    have hscalar : Conversion.scalar .text t (ofJson v) = Conversion.scalar .mapping t (ofJson v) :=
      Conversion.scalar_eq fun ht n hn => isFinite_of_not_beyondReals h (by rw [ht]; rfl) hn
    rw [field, field, hscalar]
  | union first rest =>
    rw [field, field]
    by_cases hinteger : .integer ∈ first :: rest ∧ ∃ n, ofJson v = .integer n
    · obtain ⟨hmem, n, hn⟩ := hinteger
      rw [hn, Conversion.union_integer hmem, Conversion.union_integer hmem]
    · rw [Conversion.union_eq fun t ht => Conversion.scalar_eq fun hreal n hn => ?_]
      refine isFinite_of_not_beyondReals h (decide_eq_true ⟨hreal ▸ ht, fun hmem => ?_⟩) hn
      exact hinteger ⟨hmem, n, Payload.eq_integer_of_integer? hn⟩
  | moment => exact Conversion.blank_moment _
  | list item ih =>
    rw [field, field]
    cases hitems : (ofJson v).items? with
    | none => exact blank_mismatch _ _ _
    | some items =>
      obtain ⟨vs, rfl⟩ := Payload.items?_ofJson hitems
      simp only [blank_map, blank_collect]
      congr 2
      refine List.ext_getElem (by simp) fun i hi _ => ?_
      have hi' : i < vs.length := by simpa using hi
      have hitem : ¬BeyondReals item (ofJson vs[i]) := fun hbeyond =>
        h (hbeyond.of_part [.index i] (.item hitems (by simp [hi'])))
      simp only [List.getElem_map, List.getElem_mapIdx, blank_under, ih hitem]
  | map key item ih =>
    cases v with
    | object entries =>
      rw [Payload.ofJson, Payload.ofEntries_eq] at h ⊢
      rw [field, field]
      simp only [blank_map, blank_collect, List.map_map]
      congr 2
      refine List.map_congr_left fun e he => ?_
      have hentry : ¬BeyondReals item (ofJson e.2) := fun hbeyond =>
        h (hbeyond.of_part [.key e.1] (.entry (List.mem_map_of_mem he)))
      simp only [Function.comp_apply, blank_both, blank_under, ih hentry]
    | _ => exact blank_mismatch _ _ _
  | record kind => exact hrecord kind v h
  | nullable inner ih =>
    by_cases hnull : ofJson v = .null
    · rw [hnull, field, field]
    · rw [field_nullable_of_ne hnull, field_nullable_of_ne hnull]
      exact ih fun hbeyond => h (hbeyond.of_part [] (.nullable hnull))
  | any => cases v <;> rfl
  | id | flags | choice | messageType | code => rw [field, field]

theorem blank_recordField {f : Field} {entries : List (String × Json)}
    (h : ∀ w, Entries.get? f.name entries = some w → ¬BeyondReals f.type (ofJson w)) :
    (recordField .text decode (ofEntries entries) f).blank =
      (recordField .mapping decode' (ofEntries entries) f).blank := by
  rw [recordField, recordField, Payload.get?_ofEntries]
  cases hget : Entries.get? f.name entries with
  | none => cases f.fallback <;> rfl
  | some w =>
    simp only [Option.map_some, blank_map, blank_under, blank_field hrecord (h w hget)]

end

/-- The entries that a JSON value has as a record of a kind, if it has any, are JSON values with
nothing beyond the reals where the whole has nothing. -/
theorem recordEntries?_ofJson {kind : RecordKind} {v : Json} {entries : List (String × Payload)}
    (hentries : recordEntries? kind (ofJson v) = some entries)
    (h : ¬BeyondReals (.record kind) (ofJson v)) :
    ∃ es : List (String × Json), entries = ofEntries es ∧
      ∀ f ∈ kind.fields, ∀ w, Entries.get? f.name es = some w → ¬BeyondReals f.type (ofJson w) := by
  cases v with
  | object es =>
    refine ⟨es, (Option.some.inj hentries).symm, fun f hf w hget hbeyond => ?_⟩
    refine h (hbeyond.of_part [.key f.name] (.field hf ?_))
    rw [Payload.get?_ofEntries, hget]
    rfl
  | string s =>
    rw [Payload.ofJson, recordEntries?] at hentries
    split at hentries
    · refine ⟨[("label", .string s)], (Option.some.inj hentries).symm, fun f _ w hget => ?_⟩
      have hmem := Entries.mem_of_get? hget
      rw [List.mem_singleton] at hmem
      rw [(Prod.mk.inj hmem).2]
      exact not_beyondReals_string _ s
    · cases hentries
  | _ => cases hentries

/-- Records are decoded alike from texts and from mappings where no kind counts. -/
theorem blank_record (depth left : Nat) {kind : RecordKind} {v : Json}
    (h : ¬BeyondReals (.record kind) (ofJson v)) :
    (record .text [] depth left kind (ofJson v)).blank =
      (record .mapping [] depth left kind (ofJson v)).blank := by
  induction depth generalizing kind v with
  | zero => exact blank_mismatch _ _ _
  | succ depth ih =>
    rw [record, record, Nesting.enter_nil]
    cases hentries : recordEntries? kind (ofJson v) with
    | none => exact blank_mismatch _ _ _
    | some entries =>
      obtain ⟨es, rfl, hes⟩ := recordEntries?_ofJson hentries h
      simp only [blank_map, blank_collect, List.map_map]
      congr 2
      exact List.map_congr_left fun f hf => blank_recordField (fun _ _ => ih) (hes f hf)

/-! ## What tells texts and mappings apart -/

theorem field_ne_ok_of_takesReals {decode : RecordKind → Payload → Decoding Value} {t : FieldType}
    (ht : t.takesReals = true) {n : Int} (hn : (Double.ofInt n).isFinite = false) (name : String)
    (v : Value) : (field .mapping decode name t (.integer n)).outcome ≠ .ok v := by
  intro hok
  unfold FieldType.takesReals at ht
  split at ht
  · rw [field] at hok
    exact Conversion.scalar_integer_ne_ok hn (t := .real) (by decide) v (ofConversion_ok_iff.1 hok)
  · next first rest =>
    obtain ⟨-, hinteger⟩ := of_decide_eq_true ht
    obtain ⟨t, hmem, hasIs | hscalar⟩ := Conversion.exists_of_union_ok hok
    · cases t with
      | integer => exact hinteger hmem
      | _ => cases hasIs
    · exact Conversion.scalar_integer_ne_ok hn (fun heq => hinteger (heq ▸ hmem)) v hscalar
  · cases ht

/-- A mapping with an integer beyond the reals is refused, whatever else is in it. -/
theorem field_ne_ok_of_partAt {t u : FieldType} {p q : Payload} {path : Path}
    (h : PartAt t p path u q) (hu : u.takesReals = true) {n : Int} (hq : q = .integer n)
    (hn : (Double.ofInt n).isFinite = false) {counted : List RecordKind} {depth left : Nat}
    (name : String) {v : Value} :
    (field .mapping (record .mapping counted depth left) name t p).outcome ≠ .ok v := by
  induction h generalizing depth left name v with
  | here t p =>
    rw [hq]
    exact field_ne_ok_of_takesReals hu hn name v
  | nullable hp _ ih =>
    rw [field_nullable_of_ne hp]
    exact ih hu hq name
  | item hitems hi _ ih =>
    intro hok
    obtain ⟨items, vs, hitems', -, hall⟩ := field_list_ok hok
    obtain rfl := Option.some.inj (hitems.symm.trans hitems')
    obtain ⟨w, -, hw⟩ := forall₂_getElem? hall hi
    exact ih hu hq name hw
  | entry he _ ih =>
    intro hok
    obtain ⟨entries, kvs, hentries, -, hall⟩ := field_map_ok hok
    obtain rfl := Payload.object.inj hentries
    obtain ⟨kv, -, -, hw⟩ := exists_right_of_forall₂ hall he
    exact ih hu hq name hw
  | field hf hget _ ih =>
    intro hok
    obtain ⟨depth', left', entries, fields, rfl, -, hentries, -, hall⟩ := record_ok hok
    obtain rfl := Option.some.inj hentries
    obtain ⟨e, -, -, hholds⟩ := exists_right_of_forall₂ hall hf
    rcases hholds with ⟨w, hw, hvalue⟩ | ⟨hnone, -⟩
    · obtain rfl := Option.some.inj (hget.symm.trans hw)
      exact ih hu hq _ hvalue
    · rw [hget] at hnone
      cases hnone

/-- An integer beyond the reals is refused in mappings. -/
theorem refused_of_beyondReals {kind : RecordKind} {p : Payload}
    (h : BeyondReals (.record kind) p) : ∃ r, (Record.decode .mapping kind p).outcome = .error r := by
  obtain ⟨path, u, n, hpart, hu, hn⟩ := h
  cases hdecode : (Record.decode .mapping kind p).outcome with
  | error r => exact ⟨r, rfl⟩
  | ok r =>
    have hok := (decode_ok hdecode).1
    exact absurd hok (field_ne_ok_of_partAt hpart hu rfl hn "")

/-- In a JSON value all of whose integers are finite as doubles, none is beyond the reals. -/
theorem not_beyondReals_of_leaves {t : FieldType} {v : Json}
    (h : ∀ n, .integer n ∈ v.leaves → (Double.ofInt n).isFinite = true) :
    ¬BeyondReals t (ofJson v) := by
  have hleaf {t u : FieldType} {p q : Payload} {path : Path} (hpart : PartAt t p path u q)
      {n : Int} (hq : q = .integer n) {v : Json} (hp : p = ofJson v) : .integer n ∈ v.leaves := by
    induction hpart generalizing v with
    | here t p =>
      cases v with
      | integer m =>
        obtain rfl := Payload.integer.inj (hp.symm.trans hq)
        exact List.mem_singleton_self _
      | _ => cases hp.symm.trans hq
    | nullable _ _ ih => exact ih hq hp
    | item hitems hi _ ih =>
      subst hp
      cases v with
      | array vs =>
        obtain rfl := Option.some.inj hitems
        rw [Payload.ofItems_eq, List.getElem?_map] at hi
        obtain ⟨w, hw, rfl⟩ := Option.map_eq_some_iff.1 hi
        rw [Json.leaves, Json.leavesOfItems_eq]
        exact List.mem_flatMap_of_mem (List.mem_of_getElem? hw) (ih hq rfl)
      | _ => cases hitems
    | entry he _ ih =>
      cases v with
      | object es =>
        obtain rfl := Payload.object.inj hp
        rw [Payload.ofEntries_eq] at he
        obtain ⟨e, hmem, heq⟩ := List.mem_map.1 he
        obtain ⟨-, rfl⟩ := Prod.mk.inj heq
        rw [Json.leaves, Json.leavesOfEntries_eq]
        exact List.mem_flatMap_of_mem hmem (ih hq rfl)
      | _ => cases hp
    | field _ hget _ ih =>
      cases v with
      | object es =>
        obtain rfl := Payload.object.inj hp
        rw [Payload.get?_ofEntries] at hget
        obtain ⟨w, hw, rfl⟩ := Option.map_eq_some_iff.1 hget
        rw [Json.leaves, Json.leavesOfEntries_eq]
        exact List.mem_flatMap_of_mem (Entries.mem_of_get? hw) (ih hq rfl)
      | _ => cases hp
  rintro ⟨path, u, n, hpart, -, hn⟩
  rw [h n (hleaf hpart rfl rfl)] at hn
  cases hn

end Decoding

/-! ## The ways in -/

namespace Text

/-- The bytes from a place on are collected in order. -/
theorem loop_bytes (b : ByteArray) (i : Nat) (collected : List UInt8) :
    ByteArray.toList.loop b i collected = collected.reverse ++ b.data.toList.drop i := by
  fun_induction ByteArray.toList.loop b i collected with
  | case1 i collected h ih =>
    have hi : i < b.data.toList.length := h
    have hget : b.get! i = b.data.toList[i] := getElem!_pos b.data i h
    rw [ih, List.reverse_cons, List.append_assoc, List.drop_eq_getElem_cons hi, hget]
    rfl
  | case2 i collected h => rw [List.drop_eq_nil_of_le (Nat.le_of_not_lt h), List.append_nil]

theorem fromUTF8?_bytes (text : String) :
    String.fromUTF8? ⟨text.toUTF8.toList.toArray⟩ = some text := by
  rw [ByteArray.toList, loop_bytes]
  exact dif_pos text.isValidUTF8

end Text

namespace Record

open Decoding (BeyondReals)
open Payload (ofJson)

/-- The bytes of a text are decoded as the text. -/
theorem decodeBytes_toUTF8 (kind : RecordKind) (text : String) :
    decodeBytes kind text.toUTF8.toList = decodeText kind text := by
  rw [decodeBytes, Text.fromUTF8?_bytes]

/-- A payload within the limits of the reader is decoded alike from texts and from mappings. -/
theorem agree_decode {kind : RecordKind} {v : Json} (hreadable : v.isReadable Json.depthLimit = true)
    (h : ¬BeyondReals (.record kind) (ofJson v)) :
    (decode .text kind (ofJson v)).Agree (decode .mapping kind (ofJson v)) := by
  have hshallow : (ofJson v).depth < Nesting.limit := by
    have hnesting := Json.nesting_le_of_isReadable hreadable
    have hlimits : Json.depthLimit + 1 < Nesting.limit := by decide
    have hdepth := Payload.depth_ofJson_le v
    omega
  have huncounted (form : PayloadForm) : decode form kind (ofJson v) =
      (Decoding.record form [] ((ofJson v).depth + 1) 0 kind (ofJson v)).asRecord kind :=
    congrArg (Decoding.asRecord kind) (Decoding.record_uncounted hshallow)
  refine Decoding.agree_of_blank_eq ?_
  rw [huncounted, huncounted, Decoding.asRecord, Decoding.asRecord, Decoding.blank_map,
    Decoding.blank_map, Decoding.blank_record _ _ h]

/-- A JSON object that has no key twice is decoded alike from its text, from the bytes of its text
and from a mapping, if it lies within the limits of the reader and no integer in it is beyond all
finite doubles where a real is expected. The text gives the same record to those who ask for no
warnings. Beyond those limits the text is refused, and with such an integer the mapping is. -/
theorem ways_of_decode (kind : RecordKind) {entries : List (String × Json)} {text : String}
    (hkeys : (ofJson (.object entries)).IsSettled) (htext : (Json.object entries).Spells text) :
    let v := Json.object entries
    decodeBytes kind text.toUTF8.toList = decodeText kind text ∧
      (v.isReadable Json.depthLimit = true → ¬BeyondReals (.record kind) (ofJson v) →
        (decodeText kind text).Agree (decodeMapping kind v) ∧
        ∀ r, validateText kind text = .ok r ↔ (decodeMapping kind v).outcome = .ok r) ∧
      (v.isReadable Json.depthLimit = false →
        decodeText kind text = .failed (.invalidJson text.toUTF8.toList) ∧
        validateText kind text = .error ⟨.invalidJson text.toUTF8.toList, []⟩) ∧
      (BeyondReals (.record kind) (ofJson v) →
        ∃ r, (decodeMapping kind v).outcome = .error r) := by
  intro v
  have hread : Json.read text = if v.isReadable Json.depthLimit then some v else none :=
    Json.read_of_spells htext
  have hsettle : v.settle = v := Json.settle_eq_self hkeys
  rw [decodeMapping, hsettle]
  refine ⟨decodeBytes_toUTF8 kind text, fun hreadable hreals => ?_, fun hreadable => ?_,
    Decoding.refused_of_beyondReals⟩
  · have htext : decodeText kind text = decode .text kind (ofJson v) := by
      rw [decodeText, hread, if_pos hreadable]
    have hagree := agree_decode hreadable hreals
    rw [validateText, htext]
    refine ⟨hagree, fun r => ?_⟩
    rcases hagree.2 with ⟨r', hr, hr'⟩ | ⟨refusal, refusal', hr, hr', -⟩
    · rw [hr, hr']
    · rw [hr, hr']
      simp only [reduceCtorEq]
  · have hfailed : decodeText kind text = .failed (.invalidJson text.toUTF8.toList) := by
      rw [decodeText, hread, hreadable]
      rfl
    exact ⟨hfailed, by rw [validateText, hfailed]; rfl⟩

/-- The length of a recording in whole seconds is a real, and its unknown flags are warned of, both
in a text and in a mapping. -/
theorem ways_of_decode_of_attachment :
    let v := Json.object [("id", .string "1"), ("filename", .string "a"), ("url", .string "u"),
      ("duration_secs", .integer 3), ("flags", .string "-1")]
    let text := Json.write none v
    (ofJson v).IsSettled ∧ v.Spells text ∧ ∃ r,
      (decodeMapping .attachment v).outcome = .ok r ∧
      (decodeMapping .attachment v).warnings ≠ [] ∧
      decodeBytes .attachment text.toUTF8.toList = decodeMapping .attachment v ∧
      decodeText .attachment text = decodeMapping .attachment v ∧
      validateText .attachment text = .ok r := by
  intro v text
  have hkeys : (ofJson v).IsSettled := by
    refine .object (by decide) ?_
    simp only [Payload.ofEntries, ofJson, List.forall_mem_cons]
    exact ⟨.string _, .string _, .string _, .integer _, .string _, by simp⟩
  have htext : v.Spells text := by
    refine .inr ⟨?_, none, rfl⟩
    simp [v, Json.AllFinite, Json.leaves, Json.leavesOfEntries]
  have hreals : ¬BeyondReals (.record .attachment) (ofJson v) := by
    refine Decoding.not_beyondReals_of_leaves fun n hn => ?_
    obtain rfl : n = 3 := by simpa [v, Json.leaves, Json.leavesOfEntries] using hn
    decide +kernel
  have hok : (decodeMapping .attachment v).outcome.isOk = true := by decide +kernel
  have hwarnings : (decodeMapping .attachment v).warnings ≠ [] := by decide +kernel
  obtain ⟨hbytes, hwithin, -⟩ := ways_of_decode .attachment hkeys htext
  obtain ⟨hagree, hvalid⟩ := hwithin (by decide +kernel) hreals
  cases hr : (decodeMapping .attachment v).outcome with
  | ok r =>
    have hsame := hagree.eq_of_ok hr
    exact ⟨hkeys, htext, r, rfl, hwarnings, hbytes.trans hsame, hsame, (hvalid r).2 hr⟩
  | error r =>
    rw [hr] at hok
    cases hok

theorem isSettled_wrap (n : Nat) {v : Json} (h : (ofJson v).IsSettled) :
    (ofJson (.wrap n v)).IsSettled := by
  induction n with
  | zero => exact h
  | succ n ih =>
    rw [Json.wrap, ofJson, Payload.ofItems_eq]
    exact .array (List.forall_mem_singleton.2 ih)

/-- A mapping is taken that lies too deep for the text of it, and a text is taken with a number that
is refused in the mapping of it. -/
theorem ways_of_decode_failed :
    let deep := Json.object [("key", .string "x"), ("new_value", .wrap 200 (.integer 0))]
    let large := Json.object [("id", .string "1"), ("filename", .string "a"), ("url", .string "u"),
      ("duration_secs", .integer (10 ^ 400))]
    ((ofJson deep).IsSettled ∧ (decodeMapping .auditLogChange deep).outcome.isOk = true ∧
      (decodeText .auditLogChange (Json.write none deep)).outcome.isOk = false) ∧
    ((ofJson large).IsSettled ∧ (decodeMapping .attachment large).outcome.isOk = false ∧
      (decodeText .attachment (Json.write none large)).outcome.isOk = true) := by
  intro deep large
  refine ⟨⟨?_, by decide +kernel, ?_⟩, ⟨?_, by decide +kernel, ?_⟩⟩
  · refine .object (by decide) ?_
    simp only [Payload.ofEntries, List.forall_mem_cons]
    exact ⟨.string _, isSettled_wrap 200 (.integer _), by simp⟩
  · have hfinite : deep.AllFinite := by
      rw [Json.allFinite_object_iff]
      simp only [List.forall_mem_cons]
      refine ⟨?_, Json.allFinite_wrap 200 ?_, by simp⟩ <;> simp [Json.AllFinite, Json.leaves]
    have hunreadable : deep.isReadable Json.depthLimit = false := by decide +kernel
    rw [decodeText, Json.read, Json.readWithin_write none Json.depthLimit hfinite, hunreadable]
    rfl
  · refine .object (by decide) ?_
    simp only [Payload.ofEntries, ofJson, List.forall_mem_cons]
    exact ⟨.string _, .string _, .string _, .integer _, by simp⟩
  · have hfinite : large.AllFinite := by
      simp [large, Json.AllFinite, Json.leaves, Json.leavesOfEntries, -Int.reducePow]
    have hreadable : large.isReadable Json.depthLimit = true := by decide +kernel
    rw [decodeText, Json.read, Json.readWithin_write none Json.depthLimit hfinite, if_pos hreadable]
    decide +kernel

end Record
end ChatRecords
