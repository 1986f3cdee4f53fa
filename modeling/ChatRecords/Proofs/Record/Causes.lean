import ChatRecords.Proofs.Record.Showing

/-!
# Causes of refusals

The path of a refusal leads to its cause: through the keys of objects and the positions of lists to
the value that the fault carries, or to an object that lacks a key. After a value of several types
the path names the first of them, and after the key of a map it has one more step. If the payload
can be shown, so can the cause, and the refusal is raised as an error of the library.

## Main definitions

* `Payload.at?`: the part of a payload that a path leads to.
* `Fault.Carries`: the value that a fault carries.
* `Decoding.PartAt`: a part of a payload, the path to it and the type that it is decoded for.
* `Decoding.Blames`, `Decoding.BlamesInteger`: what a part is refused for, by itself.

## Main results

* `Decoding.hasCause_of_field`, `Decoding.hasCause_of_record`: every refusal has a cause.
* `Decoding.at?_of_partAt`: the path to a part leads to it.
* `Decoding.canShow_of_partAt`: the parts of a payload that can be shown can be shown.
* `Record.cause_of_decode`: where the cause of a refusal is.
-/

namespace ChatRecords
namespace Payload

/-- The part of a payload that a path leads to. -/
def at? : Path → Payload → Option Payload
  | [], p => some p
  | .key name :: rest, .object entries => (Entries.get? name entries).bind (at? rest)
  | .index i :: rest, p => if i < 0 then none else (p.items?.bind (·[i.toNat]?)).bind (at? rest)
  | .key _ :: _, _ => none

variable {p : Payload}

theorem IsSettled.of_items? (h : p.IsSettled) {items : List Payload}
    (hitems : p.items? = some items) : ∀ q ∈ items, q.IsSettled := by
  unfold items? at hitems
  split at hitems
  · obtain rfl := Option.some.inj hitems
    cases h with
    | array h => exact h
  · obtain rfl := Option.some.inj hitems
    intro q hq
    obtain ⟨flag, -, rfl⟩ := List.mem_map.1 hq
    exact .ready _
  · cases hitems

theorem IsSettled.of_entry {entries : List (String × Payload)}
    (h : (Payload.object entries).IsSettled) {e : String × Payload} (he : e ∈ entries) :
    e.2.IsSettled := by
  cases h with
  | object _ h => exact h e he

end Payload

theorem Json.settleItems_eq (items : List Json) : settleItems items = items.map settle := by
  induction items with
  | nil => rfl
  | cons v rest ih => rw [settleItems, ih, List.map_cons]

theorem Json.settleEntries_eq (entries : List (String × Json)) :
    settleEntries entries = entries.map fun e => (e.1, e.2.settle) := by
  induction entries with
  | nil => rfl
  | cons e rest ih => rw [settleEntries, ih, List.map_cons]

/-- A settled JSON value is a settled payload. -/
theorem Payload.isSettled_ofJson_settle (v : Json) : (ofJson v.settle).IsSettled := by
  induction v using Json.induction with
  | null => exact .null
  | bool b => exact .bool b
  | integer n => exact .integer n
  | real x => exact .real x
  | string s => exact .string s
  | array items ih =>
    rw [Json.settle, ofJson, ofItems_eq, Json.settleItems_eq, List.map_map]
    refine .array fun q hq => ?_
    obtain ⟨v, hv, rfl⟩ := List.mem_map.1 hq
    exact ih v hv
  | object entries ih =>
    rw [Json.settle, ofJson, ofEntries_eq, Json.settleEntries_eq]
    refine .object ?_ fun e he => ?_
    · rw [List.map_map]
      exact Entries.nodup_keys_settle _
    · obtain ⟨_, hsettled, rfl⟩ := List.mem_map.1 he
      obtain ⟨e, hmem, rfl⟩ := List.mem_map.1 (Entries.mem_of_mem_settle hsettled)
      exact ih e hmem

/-- The value that a fault carries, as the payload or as the integer that it is. -/
inductive Fault.Carries : Fault → Payload → Prop
  /-- Something else was expected, and not just any value. -/
  | mismatch {expected : Expectation} {p : Payload} (h : expected ≠ .value) :
      Carries (.mismatch expected p) p
  | unreadableMoment (p : Payload) : Carries (.unreadableMoment p) p
  | malformedId (p : Payload) : Carries (.malformedId p) p
  | malformedChoice (p : Payload) : Carries (.malformedChoice p) p
  | unknownMessageType {n : Int} {p : Payload} (h : p.integer? = some n) :
      Carries (.unknownMessageType n) p

/-- A fault can be shown if the value that it carries can. -/
theorem Fault.Carries.unshowable? {fault : Fault} {p : Payload} {room : Nat}
    (h : fault.Carries p) (hshow : p.CanShow room) : fault.unshowable? room = none := by
  cases h with
  | unknownMessageType hn => exact hshow.ofInteger?_of_integer? hn
  | _ => exact hshow.shown

/-- The refusal as seen from the start of a path. -/
def Refusal.below (path : Path) (r : Refusal) : Refusal := ⟨r.fault, path ++ r.path⟩

theorem Refusal.raised_eq_library {r : Refusal} {room : Nat}
    (h : r.fault.unshowable? room = none) : r.raised room = .library r := by
  rw [raised, h]

namespace Decoding

/-- In a payload for a type of values, a part, the path to it and the type that it is decoded
for. -/
inductive PartAt : FieldType → Payload → Path → FieldType → Payload → Prop
  | here (t : FieldType) (p : Payload) : PartAt t p [] t p
  /-- One in a payload that may be nothing. -/
  | nullable {inner u : FieldType} {p q : Payload} {path : Path} (hp : p ≠ .null)
      (h : PartAt inner p path u q) : PartAt (.nullable inner) p path u q
  | item {item u : FieldType} {p p' q : Payload} {path : Path} {items : List Payload} {i : Nat}
      (hitems : p.items? = some items) (hi : items[i]? = some p') (h : PartAt item p' path u q) :
      PartAt (.list item) p (.index i :: path) u q
  /-- One in the value of an entry. -/
  | entry {key : KeyType} {item u : FieldType} {entries : List (String × Payload)} {k : String}
      {p' q : Payload} {path : Path} (he : (k, p') ∈ entries) (h : PartAt item p' path u q) :
      PartAt (.map key item) (.object entries) (.key k :: path) u q
  | field {kind : RecordKind} {f : Field} {u : FieldType} {entries : List (String × Payload)}
      {p' q : Payload} {path : Path} (hf : f ∈ kind.fields)
      (hget : Entries.get? f.name entries = some p') (h : PartAt f.type p' path u q) :
      PartAt (.record kind) (.object entries) (.key f.name :: path) u q

/-- What a part of a payload is refused for, with a path that starts at the part. -/
inductive Blames : FieldType → Payload → Refusal → Prop
  /-- The fault carries the part. -/
  | value {t : FieldType} {q : Payload} {fault : Fault} (h : fault.Carries q) :
      Blames t q ⟨fault, []⟩
  /-- The fault carries the part, which may have one of several types. -/
  | alternative {first : ScalarType} {rest : List ScalarType} {q : Payload} {fault : Fault}
      (h : fault.Carries q) :
      Blames (.union first rest) q ⟨fault, [.key (Conversion.branchName first)]⟩
  /-- The fault carries a key of the part. -/
  | key {key : KeyType} {item : FieldType} {entries : List (String × Payload)} {k : String}
      {fault : Fault} (hk : k ∈ entries.map Prod.fst) (h : fault.Carries (.string k)) :
      Blames (.map key item) (.object entries) ⟨fault, [.key k, .key "[key]"]⟩
  /-- The part lacks the key of a required field. -/
  | missing {kind : RecordKind} {f : Field} {entries : List (String × Payload)}
      (hf : f ∈ kind.fields) (hrequired : f.fallback = none)
      (hk : f.name ∉ entries.map Prod.fst) :
      Blames (.record kind) (.object entries) ⟨.mismatch .value .null, [.key f.name]⟩

/-- A part or a key of it stands for an integer beyond 64 bits where a member of an enumeration of
numbers is expected. The fault carries the integer. -/
inductive BlamesInteger : FieldType → Payload → Refusal → Prop
  | value {e : Enumeration} {q : Payload} {n : Int} (he : e.isWords = false)
      (hn : Conversion.integer q = .ok n) (hsize : ¬Choice.FitsInteger n) :
      BlamesInteger (.code e) q ⟨.mismatch .integerSize (.integer n), []⟩
  /-- The key of an entry does. -/
  | key {e : Enumeration} {item : FieldType} {entries : List (String × Payload)} {k : String}
      {n : Int} (he : e.isWords = false) (hk : k ∈ entries.map Prod.fst)
      (hn : Conversion.integer (.string k) = .ok n) (hsize : ¬Choice.FitsInteger n) :
      BlamesInteger (.map (.code e) item) (.object entries)
        ⟨.mismatch .integerSize (.integer n), [.key k, .key "[key]"]⟩

/-- The cause of a refusal lies in a part of the payload. -/
def HasCause (t : FieldType) (p : Payload) (r : Refusal) : Prop :=
  ∃ path u q own, PartAt t p path u q ∧ (Blames u q own ∨ BlamesInteger u q own) ∧
    r = own.below path

end Decoding

/-! ## Expectations -/

namespace PayloadForm

variable (form : PayloadForm)

theorem listExpectation_ne : form.listExpectation ≠ .value := by
  cases form <;> simp [listExpectation]

theorem mapExpectation_ne : form.mapExpectation ≠ .value := by
  cases form <;> simp [mapExpectation]

theorem recordExpectation_ne (kind : RecordKind) : form.recordExpectation kind ≠ .value := by
  cases form <;> simp [recordExpectation]

end PayloadForm

/-! ## Conversions -/

namespace Conversion

variable {form : PayloadForm} {p : Payload} {fault : Fault}

theorem except_map_error_iff {ε α β : Type} {f : α → β} {r : Except ε α} {e : ε} :
    r.map f = .error e ↔ r = .error e := by
  cases r <;> simp [Except.map]

theorem carries_of_text : text p = .error fault → fault.Carries p := by
  fun_cases text p <;> grind [refuse, Fault.Carries]

theorem carries_of_integer : integer p = .error fault → fault.Carries p := by
  fun_cases integer p <;> grind [refuse, Fault.Carries]

theorem carries_of_real : real form p = .error fault → fault.Carries p := by
  fun_cases real form p <;> grind [refuse, Fault.Carries]

theorem carries_of_truth : truth p = .error fault → fault.Carries p := by
  fun_cases truth p <;> grind [truthOfInteger, refuse, Fault.Carries]

theorem carries_of_scalar {t : ScalarType} (h : scalar form t p = .error fault) :
    fault.Carries p := by
  cases t with
  | text => exact carries_of_text (except_map_error_iff.1 h)
  | integer => exact carries_of_integer (except_map_error_iff.1 h)
  | real => exact carries_of_real (except_map_error_iff.1 h)
  | truth => exact carries_of_truth (except_map_error_iff.1 h)

/-- A value that is of none of several types is refused for the first of them. -/
theorem union_error {first : ScalarType} {rest : List ScalarType} {r : Refusal}
    (h : union form first rest p = .error r) :
    ∃ fault, scalar form first p = .error fault ∧ r = ⟨fault, [.key (branchName first)]⟩ := by
  simp only [union] at h
  split at h
  · cases h
  · split at h
    · cases h
    · split at h
      · cases h
      · next fault hfault => exact ⟨fault, hfault, (Except.error.inj h).symm⟩

theorem carries_of_id : id p = .error fault → fault.Carries p := by
  fun_cases id p <;> grind [refuse, Fault.Carries]

theorem carries_of_flags {c : FlagClass} : flags c p = .error fault → fault.Carries p := by
  fun_cases flags c p <;> grind [flagsOfMask, refuse, Fault.Carries]

theorem carries_of_choice : choice p = .error fault → fault.Carries p := by
  fun_cases choice p <;> grind [Fault.Carries]

theorem carries_of_messageType : messageType p = .error fault → fault.Carries p := by
  fun_cases messageType p <;> grind [refuse, Fault.Carries]

theorem carries_of_moment : moment form p = .error fault → fault.Carries p := by
  fun_cases moment form p <;> grind [refuse, Fault.Carries]

theorem carries_of_word {e : Enumeration} : word e p = .error fault → fault.Carries p := by
  fun_cases word e p <;> grind [refuse, Fault.Carries]

/-- The fault of a value that is no member of an enumeration carries the value or, for its size,
the integer that the value stands for. -/
theorem code_error {e : Enumeration} (h : code e p = .error fault) :
    fault.Carries p ∨ ∃ n, e.isWords = false ∧ integer p = .ok n ∧ ¬Choice.FitsInteger n ∧
      fault = .mismatch .integerSize (.integer n) := by
  unfold code at h
  split at h
  · exact .inl (carries_of_word h)
  · next hwords =>
    unfold number at h
    split at h
    · next n hn =>
      split at h
      · next hsize =>
        exact .inr ⟨n, by simpa using hwords, hn, by simpa using hsize, (Except.error.inj h).symm⟩
      · split at h
        · cases h
        · obtain rfl := Except.error.inj h
          exact .inl (.mismatch (by simp))
    · obtain rfl := Except.error.inj h
      exact .inl (.mismatch (by simp))

end Conversion

namespace Decoding

variable {α β γ : Type}

/-! ## Results -/

theorem result_error_iff {room : Nat} {d : Decoding α} {e : Raised} :
    d.result room = .error e ↔ ∃ r, d.outcome = .error r ∧ e = r.raised room := by
  obtain ⟨_, outcome⟩ := d
  cases outcome <;> simp [result, Except.mapError, eq_comm]

theorem map_error_iff {f : α → β} {d : Decoding α} {r : Refusal} :
    (d.map f).outcome = .error r ↔ d.outcome = .error r := by
  obtain ⟨_, outcome⟩ := d
  exact Conversion.except_map_error_iff

theorem under_error_iff {step : Step} {d : Decoding α} {r : Refusal} :
    (d.under step).outcome = .error r ↔ ∃ r', d.outcome = .error r' ∧ r = r'.under step := by
  obtain ⟨_, outcome⟩ := d
  cases outcome <;> simp [under, Except.mapError, eq_comm]

theorem both_error {f : α → β → γ} {a : Decoding α} {b : Decoding β} {r : Refusal}
    (h : (both f a b).outcome = .error r) : a.outcome = .error r ∨ b.outcome = .error r := by
  obtain ⟨_, x⟩ := a
  obtain ⟨_, y⟩ := b
  cases x <;> cases y <;> simp_all [both]

/-- Several parts are refused for one of them. -/
theorem collect_error {ds : List (Decoding α)} {r : Refusal} (h : (collect ds).outcome = .error r) :
    ∃ d ∈ ds, d.outcome = .error r := by
  induction ds with
  | nil => cases h
  | cons d ds ih =>
    rcases both_error h with hd | hds
    · exact ⟨d, List.mem_cons_self, hd⟩
    · obtain ⟨d', hd', hr⟩ := ih hds
      exact ⟨d', List.mem_cons_of_mem _ hd', hr⟩

theorem ofConversion_error {c : Except Fault α} {r : Refusal}
    (h : (ofConversion c).outcome = .error r) : ∃ fault, c = .error fault ∧ r = ⟨fault, []⟩ := by
  cases c with
  | ok a => cases h
  | error fault => exact ⟨fault, rfl, (Except.error.inj h).symm⟩

/-! ## Parts -/

variable {form : PayloadForm} {decode : RecordKind → Payload → Decoding Value} {name : String}

theorem HasCause.here {t : FieldType} {p : Payload} {r : Refusal}
    (h : Blames t p r ∨ BlamesInteger t p r) : HasCause t p r :=
  ⟨[], t, p, r, .here t p, h, rfl⟩

/-- A payload that a conversion refuses is the cause itself. -/
theorem hasCause_of_conversion {t : FieldType} {p : Payload} {c : Except Fault α} {f : α → Value}
    {r : Refusal} (hcarries : ∀ {fault}, c = .error fault → fault.Carries p)
    (h : (ofConversion (c.map f)).outcome = .error r) : HasCause t p r := by
  obtain ⟨fault, hfault, rfl⟩ := ofConversion_error h
  exact .here (.inl (.value (hcarries (Conversion.except_map_error_iff.1 hfault))))

/-- A cause in a part of a part. -/
theorem HasCause.step {t t' : FieldType} {p p' : Payload} {step : Step} {r : Refusal}
    (h : HasCause t' p' r)
    (hstep : ∀ {path u q}, PartAt t' p' path u q → PartAt t p (step :: path) u q) :
    HasCause t p (r.under step) := by
  obtain ⟨path, u, q, own, hpart, hown, rfl⟩ := h
  exact ⟨step :: path, u, q, own, hstep hpart, hown, rfl⟩

theorem hasCause_of_mapKey {key : KeyType} {item : FieldType} {entries : List (String × Payload)}
    {k : String} (hk : k ∈ entries.map Prod.fst) {r : Refusal}
    (h : (mapKey key k).outcome = .error r) : HasCause (.map key item) (.object entries) r := by
  unfold mapKey at h
  split at h
  · cases h
  · next fault hfault =>
    obtain rfl := Except.error.inj h
    apply HasCause.here
    cases key with
    | text => cases hfault
    | id =>
      have hid := Conversion.except_map_error_iff.1 hfault
      exact .inl (.key hk (Conversion.carries_of_id hid))
    | code e =>
      have hcode := Conversion.except_map_error_iff.1 hfault
      rcases Conversion.code_error hcode with hcarries | ⟨n, he, hn, hsize, rfl⟩
      · exact .inl (.key hk hcarries)
      · exact .inr (.key he hk hn hsize)

/-- The cause of a refusal lies in a part of the payload, if this holds of records. -/
theorem hasCause_of_field
    (hrecord : ∀ {kind p r}, (decode kind p).outcome = .error r → HasCause (.record kind) p r)
    {t : FieldType} {p : Payload} {r : Refusal}
    (h : (field form decode name t p).outcome = .error r) : HasCause t p r := by
  induction t generalizing p r with
  | scalar t =>
    obtain ⟨fault, hfault, rfl⟩ := ofConversion_error h
    exact .here (.inl (.value (Conversion.carries_of_scalar hfault)))
  | union first rest =>
    obtain ⟨fault, hfault, rfl⟩ := Conversion.union_error h
    exact .here (.inl (.alternative (Conversion.carries_of_scalar hfault)))
  | id => exact hasCause_of_conversion Conversion.carries_of_id h
  | flags c =>
    rw [field, flags] at h
    split at h
    · cases h
    · next fault hfault =>
      obtain rfl := Except.error.inj h
      exact .here (.inl (.value (Conversion.carries_of_flags hfault)))
  | choice => exact hasCause_of_conversion Conversion.carries_of_choice h
  | messageType => exact hasCause_of_conversion Conversion.carries_of_messageType h
  | code e =>
    obtain ⟨fault, hfault, rfl⟩ := ofConversion_error h
    have hcode := Conversion.except_map_error_iff.1 hfault
    rcases Conversion.code_error hcode with hcarries | ⟨n, he, hn, hsize, rfl⟩
    · exact .here (.inl (.value hcarries))
    · exact .here (.inr (.value he hn hsize))
  | moment => exact hasCause_of_conversion Conversion.carries_of_moment h
  | list item ih =>
    rw [field] at h
    split at h
    · next items hitems =>
      obtain ⟨d, hd, hr⟩ := collect_error (map_error_iff.1 h)
      obtain ⟨i, hi, rfl⟩ := List.mem_mapIdx.1 hd
      obtain ⟨r', hr', rfl⟩ := under_error_iff.1 hr
      exact (ih hr').step (.item hitems (List.getElem?_eq_getElem hi))
    · obtain rfl := Except.error.inj h
      exact .here (.inl (.value (.mismatch form.listExpectation_ne)))
  | map key item ih =>
    unfold field at h
    split at h
    · next entries =>
      obtain ⟨d, hd, hr⟩ := collect_error (map_error_iff.1 h)
      obtain ⟨e, he, rfl⟩ := List.mem_map.1 hd
      rcases both_error hr with hkey | hvalue
      · exact hasCause_of_mapKey (List.mem_map_of_mem he) hkey
      · obtain ⟨r', hr', rfl⟩ := under_error_iff.1 hvalue
        exact (ih hr').step (.entry he)
    · obtain rfl := Except.error.inj h
      exact .here (.inl (.value (.mismatch form.mapExpectation_ne)))
  | record kind =>
    rw [field] at h
    exact hrecord h
  | nullable inner ih =>
    unfold field at h
    split at h
    · cases h
    · next hp =>
      obtain ⟨path, u, q, own, hpart, hown, rfl⟩ := ih h
      exact ⟨path, u, q, own, .nullable hp hpart, hown, rfl⟩
  | any =>
    unfold field at h
    split at h <;> cases h

/-- A field of a record is refused for its entry, or because there is none. -/
theorem hasCause_of_recordField
    (hrecord : ∀ {kind p r}, (decode kind p).outcome = .error r → HasCause (.record kind) p r)
    {kind : RecordKind} {entries : List (String × Payload)} {f : Field} (hf : f ∈ kind.fields)
    {r : Refusal} (h : (recordField form decode entries f).outcome = .error r) :
    HasCause (.record kind) (.object entries) r := by
  unfold recordField at h
  split at h
  · next p hget =>
    obtain ⟨r', hr', rfl⟩ := under_error_iff.1 (map_error_iff.1 h)
    exact (hasCause_of_field hrecord hr').step (.field hf hget)
  · cases h
  · next hget hrequired =>
    obtain rfl := Except.error.inj h
    exact .here (.inl (.missing hf hrequired (Entries.get?_eq_none_iff.1 hget)))

/-- What may come as its label alone is decoded from it. -/
theorem recordFields_of_label {kind : RecordKind} (hkind : kind.acceptsLabel = true) (s : String) :
    ∃ fields, (collect (kind.fields.map
      (recordField form decode [("label", .string s)]))).outcome = .ok fields := by
  unfold RecordKind.acceptsLabel at hkind
  split at hkind
  · exact ⟨_, rfl⟩
  · cases hkind

theorem hasCause_of_record {counted : List RecordKind} {depth left : Nat} {kind : RecordKind}
    {p : Payload} {r : Refusal} (h : (record form counted depth left kind p).outcome = .error r) :
    HasCause (.record kind) p r := by
  induction depth generalizing left kind p r with
  | zero =>
    obtain rfl := Except.error.inj h
    exact .here (.inl (.value (.mismatch (form.recordExpectation_ne kind))))
  | succ depth ih =>
    rw [record] at h
    split at h
    · obtain rfl := Except.error.inj h
      exact .here (.inl (.value (.mismatch (by simp))))
    · obtain rfl := Except.error.inj h
      exact .here (.inl (.value (.mismatch (form.recordExpectation_ne kind))))
    · next left' entries hleft hentries =>
      have hfields := map_error_iff.1 h
      unfold recordEntries? at hentries
      split at hentries
      · obtain rfl := Option.some.inj hentries
        obtain ⟨d, hd, hr⟩ := collect_error hfields
        obtain ⟨f, hf, rfl⟩ := List.mem_map.1 hd
        exact hasCause_of_recordField ih hf hr
      · next s =>
        split at hentries
        · next hkind =>
          obtain rfl := Option.some.inj hentries
          obtain ⟨fields, hok⟩ := recordFields_of_label hkind s
          rw [hok] at hfields
          cases hfields
        · cases hentries
      · cases hentries

/-! ## Paths -/

/-- The path to a part leads to it. -/
theorem at?_of_partAt {t u : FieldType} {p q : Payload} {path : Path} (h : PartAt t p path u q)
    (hp : p.IsSettled) : p.at? path = some q := by
  induction h with
  | here t p => exact Payload.at?.eq_1 p
  | nullable _ _ ih => exact ih hp
  | @item _ _ _ _ _ _ _ i hitems hi _ ih =>
    rw [Payload.at?, if_neg (by omega), hitems, Int.toNat_natCast, Option.bind_some, hi]
    exact ih (hp.of_items? hitems _ (List.mem_of_getElem? hi))
  | entry he _ ih =>
    cases hp with
    | object hkeys hvalues =>
      rw [Payload.at?, (Entries.get?_eq_some_iff hkeys).2 he]
      exact ih (hvalues _ he)
  | field _ hget _ ih =>
    cases hp with
    | object _ hvalues =>
      rw [Payload.at?, hget]
      exact ih (hvalues _ (Entries.mem_of_get? hget))

/-! ## Showing -/

variable {room : Nat}

/-- The parts of a payload that can be shown can be shown. -/
theorem canShow_of_partAt {t u : FieldType} {p q : Payload} {path : Path}
    (h : PartAt t p path u q) (hp : p.IsSettled) (hshow : p.CanShow room) : q.CanShow room := by
  induction h with
  | here => exact hshow
  | nullable _ _ ih => exact ih hp hshow
  | item hitems hi _ ih =>
    have hmem := List.mem_of_getElem? hi
    exact ih (hp.of_items? hitems _ hmem) (hshow.of_items? hp hitems _ hmem)
  | entry he _ ih => exact ih (hp.of_entry he) (hshow.of_entry hp he)
  | field _ hget _ ih =>
    have hmem := Entries.mem_of_get? hget
    exact ih (hp.of_entry hmem) (hshow.of_entry hp hmem)

/-- What a part that can be shown is refused for can be shown. -/
theorem unshowable?_of_blames {t : FieldType} {q : Payload} {r : Refusal} (hshow : q.CanShow room)
    (h : Blames t q r ∨ BlamesInteger t q r) : r.fault.unshowable? room = none := by
  obtain ⟨left, rfl⟩ := Payload.exists_room_eq hshow.shown
  rcases h with hblames | hinteger
  · cases hblames with
    | value hcarries => exact hcarries.unshowable? hshow
    | alternative hcarries => exact hcarries.unshowable? hshow
    | @key _ _ _ k _ _ hcarries => exact hcarries.unshowable? (Payload.canShow_string k)
    | missing => rfl
  · cases hinteger with
    | value _ hn => exact hshow.ofInteger?_of_integer hn
    | @key _ _ _ k _ _ _ hn =>
      have hkey : (Payload.string k).CanShow (left + 1) := Payload.canShow_string k
      exact hkey.ofInteger?_of_integer hn

end Decoding

namespace Record

open Decoding (PartAt Blames BlamesInteger)

/-- The cause of every refusal of a payload whose objects have no key twice, as those of mappings
have none. The path of the refusal leads to a part of the payload, and goes on as the part is
blamed: not at all if the fault carries the part; with the first of several types if the part may
have any of them; with a key, and a step that tells it from its value, if the fault carries the key;
and with the key of a required field that the part lacks. Only for an integer beyond 64 bits, in
place of a member of an enumeration, does the fault carry the integer that the part or its key
stands for. If the payload can be shown, then the caller meets the refusal itself, as an error of the
library. -/
theorem cause_of_decode {form : PayloadForm} {kind : RecordKind} {p : Payload} (room : Nat)
    (hp : p.IsSettled) {e : Raised} (h : (decode form kind p).result room = .error e) :
    ∃ r path t q own, (decode form kind p).outcome = .error r ∧
      PartAt (.record kind) p path t q ∧ p.at? path = some q ∧ r = own.below path ∧
      (Blames t q own ∨ BlamesInteger t q own) ∧
      (p.CanShow room → e = .library r) := by
  obtain ⟨r, hr, rfl⟩ := Decoding.result_error_iff.1 h
  have hrecord := hr
  rw [decode, Decoding.asRecord, Decoding.map_error_iff] at hrecord
  obtain ⟨path, t, q, own, hpart, hown, rfl⟩ := Decoding.hasCause_of_record hrecord
  refine ⟨own.below path, path, t, q, own, hr, hpart, Decoding.at?_of_partAt hpart hp, rfl, hown,
    fun hshow => Refusal.raised_eq_library ?_⟩
  have hpartShow := Decoding.canShow_of_partAt hpart hp hshow
  have hshown := Decoding.unshowable?_of_blames hpartShow hown
  exact hshown

/-- A key of a map that is no member of an enumeration is the cause of a refusal. -/
theorem cause_of_decode_of_key :
    let v := Json.object [("id", .string "1"), ("application_id", .string "2"),
      ("type", .integer 2), ("token", .string "t"), ("version", .integer 1),
      ("authorizing_integration_owners", .object [("0", .string "3"), ("x", .string "4")])]
    ∃ e r, (decodeMapping .interaction v).result 900 = .error e ∧
      (∃ path t q own, (decodeMapping .interaction v).outcome = .error r ∧
        PartAt (.record .interaction) (.ofJson v.settle) path t q ∧
        (Payload.ofJson v.settle).at? path = some q ∧ r = own.below path ∧
        (Blames t q own ∨ BlamesInteger t q own)) ∧
      e = .library r ∧
      r.path = [.key "authorizing_integration_owners", .key "x", .key "[key]"] := by
  intro v
  obtain ⟨r, hr, hpath⟩ : ∃ r, (decodeMapping .interaction v).outcome = .error r ∧
      r.path = [.key "authorizing_integration_owners", .key "x", .key "[key]"] := ⟨_, rfl, rfl⟩
  have hresult := Decoding.result_error_iff.2 ⟨r, hr, Eq.refl (r.raised 900)⟩
  obtain ⟨r', path, t, q, own, hr', hpart, hat, hown, hblames, hlibrary⟩ :=
    cause_of_decode 900 (Payload.isSettled_ofJson_settle v) hresult
  obtain rfl := Except.error.inj (hr.symm.trans hr')
  exact ⟨_, r, hresult, ⟨path, t, q, own, hr, hpart, hat, hown, hblames⟩,
    hlibrary ⟨rfl, Payload.allReady_ofJson _ _⟩, hpath⟩

/-- Without the exception, the text of an integer beyond 64 bits would have no cause: the fault
carries the integer and not the text. -/
theorem cause_of_decode_failed :
    let v := Json.object [("type", .string "9223372036854775808")]
    ∃ r, (decodeMapping .messageComponent v).outcome = .error r ∧
      ¬∃ path t q own, (Payload.ofJson v.settle).at? path = some q ∧ r = own.below path ∧
        Blames t q own := by
  intro v
  have hr : (decodeMapping .messageComponent v).outcome =
      .error ⟨.mismatch .integerSize (.integer 9223372036854775808), [.key "type"]⟩ := rfl
  refine ⟨_, hr, ?_⟩
  rintro ⟨path, t, q, ⟨fault, rest⟩, hat, hown, hblames⟩
  obtain ⟨rfl, hpath⟩ := Refusal.mk.inj hown
  cases hblames with
  | value hcarries =>
    obtain rfl : path = [.key "type"] := by simpa using hpath.symm
    obtain rfl : q = .string "9223372036854775808" := (Option.some.inj hat).symm
    cases hcarries
  | @alternative first =>
    have hname : "type" = Conversion.branchName first := by
      simpa using congrArg List.getLast? hpath
    cases first <;> simp [Conversion.branchName] at hname
  | key =>
    have hlength := congrArg List.length hpath
    simp at hlength

end Record
end ChatRecords
