import ChatRecords.Log.Output
import ChatRecords.Proofs.Flags.Mask
import ChatRecords.Proofs.Record.Leaves
import ChatRecords.Proofs.Record.Parts
import ChatRecords.Record.Report

/-!
# Warnings

Every mask that is read on the way to a record and has bits without a name gives one warning, and
nothing else does. The warnings come in the order in which the masks are read, and so do the lines
about them in a log.

## Main definitions

* `FlagClass.unnamed`: the bits of a mask without a name.
* `FlagPlace`: where in a payload a flag set is read, and from what.
* `Decoding.Reads`: the flag sets that are read from a payload for a type of values.
* `Decoding.Reports`: some warnings are those of the masks at some places, in order.

## Main results

* `FlagClass.testBit_unnamed`: which bits have no name.
* `Decoding.Reports.unique`: there is one such list of warnings.
* `Decoding.reports_field`, `Decoding.reports_record`: the warnings of what is decoded.
* `Log.Output.stream_writeAll`: what a log has after some entries.
* `Record.warnings_of_decode`: the warnings of a record and the lines of a log about them.
-/

namespace ChatRecords

/-! ## Bits without a name -/

/-- The bits of a mask, as a word of 64 bits, that have no name. -/
def FlagClass.unnamed (c : FlagClass) (mask : Int) : Nat :=
  maskDiff (FlagSet.word mask) c.knownMask

/-- A bit has no name if it is set in the word of the mask and no member of the class lies at its
position. -/
theorem FlagClass.testBit_unnamed (c : FlagClass) (mask : Int) (i : Nat) :
    (c.unnamed mask).testBit i = true ↔
      (BitVec.ofInt 64 mask).getLsbD i = true ∧ ∀ m ∈ c.members, m.2 ≠ i := by
  have hword : (BitVec.ofInt 64 mask).getLsbD i = (FlagSet.word mask).testBit i := by
    rw [BitVec.getLsbD, BitVec.toNat_ofInt]
    rfl
  rw [unnamed, testBit_maskDiff, Bool.and_eq_true, hword, Bool.not_eq_true', ← Bool.not_eq_true,
    testBit_knownMask]
  simp only [not_exists, not_and, ne_eq]

/-- The mask that a payload is, as an integer or as the decimal text of one. -/
def Payload.mask? : Payload → Option Int
  | .string s => (Conversion.signedDecimal? s).map Prod.fst
  | p => p.integer?

/-! ## Places -/

/-- Where in a payload a flag set is read. -/
structure FlagPlace where
  /-- The way to the place: the positions of fields in the schema, of items in lists and of entries
  in maps. -/
  position : List Nat
  /-- The innermost field on the way. -/
  field : String
  flagClass : FlagClass
  /-- What the flag set is read from. -/
  given : Payload

namespace FlagPlace

/-- The place as seen from one step further up. -/
def below (i : Nat) (place : FlagPlace) : FlagPlace := { place with position := i :: place.position }

/-- The warning that the mask at a place has bits without a name, if it has any. A set that is there
already has no mask. -/
def warning? (place : FlagPlace) : Option LossyFlags :=
  place.given.mask?.bind fun mask =>
    if place.flagClass.unnamed mask = 0 then none
    else some ⟨place.flagClass.name, place.flagClass.unnamed mask, some place.field⟩

end FlagPlace

/-- A flag set is read with a warning if its payload is a mask with bits without a name. -/
theorem Conversion.warning?_of_flags {c : FlagClass} {p : Payload} {r : FlagSet × Bool}
    (h : flags c p = .ok r) (position : List Nat) (field : String) :
    (FlagPlace.mk position field c p).warning?.toList =
      if r.2 then [⟨c.name, r.1.unknown, some field⟩] else [] := by
  have hmask {mask : Int} (hp : p.mask? = some mask) (h : flagsOfMask c mask p = .ok r) :
      (FlagPlace.mk position field c p).warning?.toList =
        if r.2 then [⟨c.name, r.1.unknown, some field⟩] else [] := by
    rw [flagsOfMask_ok_iff] at h
    rw [FlagSet.ofMask_eq (FlagSet.fitsWord_of_ofMask h)] at h
    obtain rfl := Except.ok.inj h
    rw [FlagPlace.warning?, hp, Option.bind_some, FlagClass.unnamed]
    by_cases hzero : maskDiff (FlagSet.word mask) c.knownMask = 0 <;> simp [hzero]
  unfold flags at h
  split at h
  · next s =>
    split at h
    · obtain rfl := Except.ok.inj h
      rfl
    · cases h
  · next s =>
    split at h
    · cases h
    · next mask digits hdecimal =>
      split at h
      · cases h
      · exact hmask (by rw [Payload.mask?, hdecimal]; rfl) h
  · next hflags hstring =>
    split at h
    · next mask hinteger =>
      refine hmask ?_ h
      rw [Payload.mask?]
      exacts [hinteger, hstring]
    · cases h

namespace Decoding

/-- A flag set is read at a place in a payload for a type of values. The text is the name of the
field that the payload is for. -/
inductive Reads : String → FieldType → Payload → FlagPlace → Prop
  | here (name : String) (c : FlagClass) (p : Payload) : Reads name (.flags c) p ⟨[], name, c, p⟩
  /-- One in a payload that may be nothing. -/
  | nullable {name : String} {inner : FieldType} {p : Payload} {place : FlagPlace} (hp : p ≠ .null)
      (h : Reads name inner p place) : Reads name (.nullable inner) p place
  | item {name : String} {item : FieldType} {p q : Payload} {place : FlagPlace} {i : Nat}
      {items : List Payload} (hitems : p.items? = some items) (hi : items[i]? = some q)
      (h : Reads name item q place) : Reads name (.list item) p (place.below i)
  /-- One in the value of an entry. -/
  | entry {name key : String} {type : KeyType} {item : FieldType} {q : Payload} {place : FlagPlace}
      {i : Nat} {entries : List (String × Payload)} (hi : entries[i]? = some (key, q))
      (h : Reads name item q place) : Reads name (.map type item) (.object entries) (place.below i)
  | field {name : String} {kind : RecordKind} {p q : Payload} {place : FlagPlace} {i : Nat}
      {entries : List (String × Payload)} {f : Field} (hentries : recordEntries? kind p = some entries)
      (hi : kind.fields[i]? = some f) (hget : Entries.get? f.name entries = some q)
      (h : Reads f.name f.type q place) : Reads name (.record kind) p (place.below i)

/-- Some warnings are those of the masks at some places, each once, in the order of the places. -/
def Reports (reads : FlagPlace → Prop) (warnings : List LossyFlags) : Prop :=
  ∃ places : List FlagPlace, (∀ place, place ∈ places ↔ reads place) ∧
    places.Pairwise (fun a b => a.position < b.position) ∧
    warnings = places.filterMap FlagPlace.warning?

variable {α β γ : Type} {reads reads' : FlagPlace → Prop} {warnings : List LossyFlags}

theorem Reports.congr (h : Reports reads warnings) (hreads : ∀ place, reads place ↔ reads' place) :
    Reports reads' warnings := by
  obtain ⟨places, hmem, hrest⟩ := h
  exact ⟨places, fun place => (hmem place).trans (hreads place), hrest⟩

/-- The places and their order decide on the warnings. -/
theorem Reports.unique {warnings' : List LossyFlags} (h : Reports reads warnings)
    (h' : Reports reads warnings') : warnings = warnings' := by
  obtain ⟨places, hmem, hsorted, rfl⟩ := h
  obtain ⟨places', hmem', hsorted', rfl⟩ := h'
  have hnodup {places : List FlagPlace}
      (h : places.Pairwise fun a b => a.position < b.position) : places.Nodup := by
    refine h.imp fun {a b} hab => ?_
    rintro rfl
    exact List.lt_irrefl _ hab
  have hperm : places.Perm places' :=
    (List.perm_ext_iff_of_nodup (hnodup hsorted) (hnodup hsorted')).2 fun place =>
      (hmem place).trans (hmem' place).symm
  rw [hperm.eq_of_pairwise (fun a b _ _ hab hba => absurd hba (List.lt_asymm hab)) hsorted hsorted']

/-- Where no flag set is read, there is no warning. -/
theorem reports_nil (h : ∀ place, ¬reads place) : Reports reads [] :=
  ⟨[], fun place => by simp [h place], .nil, rfl⟩

/-- The warnings of parts, which lie at positions from `k` on, one after another. -/
theorem reports_flatten {reads : Nat → FlagPlace → Prop} {parts : List (List LossyFlags)} (k : Nat)
    (h : ∀ i ws, parts[i]? = some ws → Reports (reads (k + i)) ws) :
    Reports (fun place => ∃ i < parts.length, ∃ inner, reads (k + i) inner ∧
      inner.below (k + i) = place) parts.flatten := by
  induction parts generalizing k with
  | nil => exact reports_nil (by simp)
  | cons ws rest ih =>
    obtain ⟨first, hfirst, hsorted, rfl⟩ := h 0 ws rfl
    obtain ⟨later, hlater, hsorted', hrest⟩ := ih (k + 1) fun i ws' hi => by
      rw [Nat.add_right_comm]
      exact h (i + 1) ws' hi
    refine ⟨first.map (FlagPlace.below k) ++ later, fun place => ?_, ?_, ?_⟩
    · simp only [List.mem_append, List.mem_map, hfirst, hlater, List.length_cons,
        Nat.exists_lt_succ_left, Nat.add_zero, Nat.add_right_comm k, Nat.add_assoc]
    · refine List.pairwise_append.2 ⟨?_, hsorted', ?_⟩
      · refine hsorted.map _ fun a b hab => ?_
        exact List.cons_lt_cons_iff.2 (.inr ⟨rfl, hab⟩)
      · -- the later parts lie at greater positions
        intro a ha b hb
        obtain ⟨a, -, rfl⟩ := List.mem_map.1 ha
        obtain ⟨i, -, b, -, rfl⟩ := (hlater b).1 hb
        exact List.cons_lt_cons_iff.2 (.inl (by omega))
    · rw [List.flatten_cons, List.filterMap_append, List.filterMap_map, hrest]
      rfl

/-! ## Decoding -/

theorem warnings_collect (ds : List (Decoding α)) :
    (collect ds).warnings = (ds.map Decoding.warnings).flatten := by
  induction ds with
  | nil => rfl
  | cons d rest ih => rw [collect, both, ih, List.map_cons, List.flatten_cons]

/-- The warnings of a whole are those of its parts, one part after another. -/
theorem reports_collect (inner : Nat → FlagPlace → Prop) {ds : List (Decoding α)} {as : List α}
    (hok : (collect ds).outcome = .ok as)
    (hparts : ∀ i d a, ds[i]? = some d → d.outcome = .ok a → Reports (inner i) d.warnings)
    (hreads : ∀ place, reads place ↔ ∃ i < ds.length, ∃ p, inner i p ∧ p.below i = place) :
    Reports reads (collect ds).warnings := by
  have hwarnings : ∀ i ws, (ds.map Decoding.warnings)[i]? = some ws → Reports (inner (0 + i)) ws := by
    intro i ws hi
    rw [List.getElem?_map, Option.map_eq_some_iff] at hi
    obtain ⟨d, hd, rfl⟩ := hi
    obtain ⟨a, -, ha⟩ := forall₂_getElem? (collect_ok_iff.1 hok) hd
    rw [Nat.zero_add]
    exact hparts i d a hd ha
  rw [warnings_collect]
  refine (reports_flatten 0 hwarnings).congr fun place => ?_
  rw [hreads, List.length_map]
  simp only [Nat.zero_add]

variable {form : PayloadForm} {name : String}

theorem warnings_ofConversion (r : Except Fault α) : (ofConversion r).warnings = [] := by
  cases r <;> rfl

theorem warnings_mapKey (type : KeyType) (key : String) : (mapKey type key).warnings = [] := by
  rw [mapKey]
  split <;> rfl

/-- A flag set is read where it is. -/
theorem reports_flags {c : FlagClass} {p : Payload} {v : Value}
    (hok : (flags name c p).outcome = .ok v) :
    Reports (Reads name (.flags c) p) (flags name c p).warnings := by
  rw [flags] at hok ⊢
  split
  · next s lossy hflags =>
    refine ⟨[⟨[], name, c, p⟩], fun place => ?_, List.pairwise_singleton _ _, ?_⟩
    · rw [List.mem_singleton]
      constructor
      · rintro rfl
        exact .here name c p
      · rintro ⟨⟩
        rfl
    · rw [List.filterMap_cons, List.filterMap_nil, ← Conversion.warning?_of_flags hflags [] name]
      cases (FlagPlace.mk [] name c p).warning? <;> rfl
  · next hflags =>
    rw [hflags] at hok
    cases hok

/-- The warnings of what is decoded for a type of values are those of the masks that are read, if
this is so for records. -/
theorem reports_field {decode : RecordKind → Payload → Decoding Value}
    (hdecode : ∀ {kind p v}, (decode kind p).outcome = .ok v →
      ∀ name, Reports (Reads name (.record kind) p) (decode kind p).warnings)
    {t : FieldType} {p : Payload} {v : Value}
    (hok : (field form decode name t p).outcome = .ok v) :
    Reports (Reads name t p) (field form decode name t p).warnings := by
  induction t generalizing p v with
  | flags c => exact reports_flags hok
  | list item ih =>
    obtain ⟨items, _, hitems, -, -⟩ := field_list_ok hok
    rw [field, hitems] at hok ⊢
    obtain ⟨vs, hvs, -⟩ := map_ok_iff.1 hok
    refine reports_collect (fun i place => ∃ q, items[i]? = some q ∧ Reads name item q place) hvs
      (fun i d a hd ha => ?_) fun place => ⟨?_, ?_⟩
    · rw [List.getElem?_mapIdx, Option.map_eq_some_iff] at hd
      obtain ⟨q, hq, rfl⟩ := hd
      exact (ih (under_ok_iff.1 ha)).congr fun place => by simp [hq]
    · intro h
      cases h with
      | item hitems' hi h =>
        obtain rfl := Option.some.inj (hitems.symm.trans hitems')
        obtain ⟨hlt, -⟩ := List.getElem?_eq_some_iff.1 hi
        exact ⟨_, by rwa [List.length_mapIdx], _, ⟨_, hi, h⟩, rfl⟩
    · rintro ⟨i, -, place, ⟨q, hq, h⟩, rfl⟩
      exact .item hitems hq h
  | map type item ih =>
    obtain ⟨entries, _, rfl, -, -⟩ := field_map_ok hok
    rw [field] at hok ⊢
    obtain ⟨kvs, hkvs, -⟩ := map_ok_iff.1 hok
    refine reports_collect (fun i place => ∃ e, entries[i]? = some e ∧ Reads name item e.2 place)
      hkvs (fun i d a hd ha => ?_) fun place => ⟨?_, ?_⟩
    · rw [List.getElem?_map, Option.map_eq_some_iff] at hd
      obtain ⟨e, he, rfl⟩ := hd
      obtain ⟨k, v, -, hv, -⟩ := both_ok_iff.1 ha
      have hread := ih (under_ok_iff.1 hv)
      rw [both, warnings_mapKey, List.nil_append]
      exact hread.congr fun place => by simp [he]
    · intro h
      cases h with
      | entry hi h =>
        obtain ⟨hlt, -⟩ := List.getElem?_eq_some_iff.1 hi
        exact ⟨_, by rwa [List.length_map], _, ⟨_, hi, h⟩, rfl⟩
    · rintro ⟨i, -, place, ⟨⟨k, q⟩, hq, h⟩, rfl⟩
      exact .entry hq h
  | record kind => exact hdecode hok name
  | nullable inner ih =>
    obtain ⟨rfl, -⟩ | ⟨hne, hinner⟩ := field_nullable_ok hok
    · refine reports_nil fun place h => ?_
      cases h with
      | nullable hp _ => exact hp rfl
    · rw [field_nullable_of_ne hne]
      refine (ih hinner).congr fun place => ⟨.nullable hne, fun h => ?_⟩
      cases h with
      | nullable _ h => exact h
  | union first rest => exact reports_nil (by rintro _ ⟨⟩)
  | any =>
    unfold field
    split <;> exact reports_nil (by rintro _ ⟨⟩)
  | _ =>
    rw [field, warnings_ofConversion]
    exact reports_nil (by rintro _ ⟨⟩)

/-- The warnings of one field of a record are those of the masks that are read from its entry. -/
theorem reports_recordField {decode : RecordKind → Payload → Decoding Value}
    (hdecode : ∀ {kind p v}, (decode kind p).outcome = .ok v →
      ∀ name, Reports (Reads name (.record kind) p) (decode kind p).warnings)
    {entries : List (String × Payload)} {f : Field} {e : String × Value}
    (hok : (recordField form decode entries f).outcome = .ok e) :
    Reports (fun place => ∃ q, Entries.get? f.name entries = some q ∧ Reads f.name f.type q place)
      (recordField form decode entries f).warnings := by
  rw [recordField] at hok ⊢
  split
  · next q hq =>
    rw [hq] at hok
    obtain ⟨v, hv, -⟩ := map_ok_iff.1 hok
    exact (reports_field hdecode (under_ok_iff.1 hv)).congr fun place => by simp [hq]
  · next hnone _ => exact reports_nil (by simp [hnone])
  · next hnone _ => exact reports_nil (by simp [hnone])

/-- The warnings of a record are those of the masks that are read for its fields, in their order in
the schema. -/
theorem reports_record {counted : List RecordKind} {depth left : Nat} {kind : RecordKind}
    {p : Payload} {v : Value} (hok : (record form counted depth left kind p).outcome = .ok v)
    (name : String) :
    Reports (Reads name (.record kind) p) (record form counted depth left kind p).warnings := by
  induction depth generalizing left kind p v name with
  | zero => cases hok
  | succ depth ih =>
    obtain ⟨_, left', entries, _, ⟨⟩, hleft, hentries, -, -⟩ := record_ok hok
    rw [record, hleft, hentries] at hok ⊢
    obtain ⟨fields, hfields, -⟩ := map_ok_iff.1 hok
    refine reports_collect (fun i place => ∃ f, kind.fields[i]? = some f ∧
      ∃ q, Entries.get? f.name entries = some q ∧ Reads f.name f.type q place) hfields
      (fun i d e hd he => ?_) fun place => ⟨?_, ?_⟩
    · rw [List.getElem?_map, Option.map_eq_some_iff] at hd
      obtain ⟨f, hf, rfl⟩ := hd
      exact (reports_recordField ih he).congr fun place => by simp [hf]
    · intro h
      cases h with
      | field hentries' hi hget h =>
        obtain rfl := Option.some.inj (hentries.symm.trans hentries')
        obtain ⟨hlt, -⟩ := List.getElem?_eq_some_iff.1 hi
        exact ⟨_, by rwa [List.length_map], _, ⟨_, hi, _, hget, h⟩, rfl⟩
    · rintro ⟨i, -, place, ⟨f, hf, q, hq, h⟩, rfl⟩
      exact .field hentries hf hq h

end Decoding

/-! ## Logs -/

namespace Log

theorem Level.number_pos_iff (level : Level) : 0 < level.number ↔ level ≠ .unset := by
  cases level <;> decide

namespace Output

theorem level_write (time : String) (e : Entry) (out : Output) :
    (out.write time e).level = out.level := by
  rw [write]
  split <;> rfl

theorem stream_write (time : String) (e : Entry) (out : Output) :
    (out.write time e).stream =
      if 0 < e.level ∧ out.level ≤ e.level then out.stream ++ (e.line time ++ "\n")
      else out.stream := by
  rw [write]
  split
  · rw [if_neg (by omega)]
  · rw [if_pos (by omega), ← String.append_assoc]

/-- What a log has after some entries: their lines, without those of entries whose level is not
positive or below that of the log. -/
theorem stream_writeAll (time : String) (entries : List Entry) (out : Output) :
    (out.writeAll time entries).stream = out.stream ++ String.join
      ((atLeast out.level (entries.filter fun e => 0 < e.level)).map fun e => e.line time ++ "\n") := by
  rw [atLeast, List.filter_filter]
  induction entries generalizing out with
  | nil => exact String.append_empty.symm
  | cons e rest ih =>
    rw [writeAll, List.foldl_cons, ← writeAll, ih, level_write, stream_write]
    by_cases hshown : 0 < e.level ∧ out.level ≤ e.level
    · rw [if_pos hshown, List.filter_cons_of_pos (by simp [hshown]), List.map_cons,
        String.join_cons, String.append_assoc]
    · rw [if_neg hshown, List.filter_cons_of_neg (by simpa [and_comm] using hshown)]

end Output
end Log

namespace Decoding

variable {α : Type}

theorem lossy_iff (d : Decoding α) : d.lossy = true ↔ d.warnings ≠ [] := by
  simp [lossy]

/-- The entries about what was decoded that have a level: one for each warning, and one more for all
of them if there are any and that one has a level. -/
theorem filter_logEntries {d : Decoding α} {a : α} (hok : d.outcome = .ok a) (kind : RecordKind)
    (level : Log.Level) :
    (d.logEntries kind level.number).filter (fun e => 0 < e.level) =
      (d.warnings.map fun w => .of .debug "discord_models.bitfield" w.detail) ++
        if d.warnings = [] ∨ level = .unset then []
        else [summaryEntry kind level.number d.warnings] := by
  rw [logEntries, hok, List.filter_append]
  congr 1
  · refine List.filter_eq_self.2 fun e he => ?_
    obtain ⟨w, -, rfl⟩ := List.mem_map.1 he
    rfl
  · dsimp only
    by_cases hwarnings : d.warnings = []
    · rw [if_neg (mt d.lossy_iff.1 (not_not_intro hwarnings)), if_pos (.inl hwarnings)]
      rfl
    · rw [if_pos (d.lossy_iff.2 hwarnings)]
      by_cases hlevel : level = .unset
      · rw [if_pos (.inr hlevel), hlevel]
        rfl
      · rw [if_neg (not_or.2 ⟨hwarnings, hlevel⟩)]
        refine List.filter_cons_of_pos (decide_eq_true ?_)
        exact level.number_pos_iff.2 hlevel

end Decoding

namespace Record

open Decoding (Reads Reports)

/-- The warnings of a record are those of the masks that are read from its payload, wherever they
lie: one for each mask with bits without a name, with those bits and the name of the field, in the
order in which the fields are declared, the items listed and the entries put. A log that is given
them gets one line for each warning, and one more for all of them, if there are any, at a level of
choice; but nothing is ever written at the level that is no level. -/
theorem warnings_of_decode {form : PayloadForm} {kind : RecordKind} {p : Payload} {r : Record}
    (hok : (decode form kind p).outcome = .ok r) :
    let d := decode form kind p
    Reports (Reads "" (.record kind) p) d.warnings ∧ (d.lossy = true ↔ d.warnings ≠ []) ∧
      ∀ (level : Log.Level) (time : String) (out : Log.Output),
        (out.writeAll time (d.logEntries kind level.number)).stream = out.stream ++ String.join
          ((Log.atLeast out.level
            ((d.warnings.map fun w => .of .debug "discord_models.bitfield" w.detail) ++
              if d.warnings = [] ∨ level = .unset then []
              else [Decoding.summaryEntry kind level.number d.warnings])).map
            fun e => e.line time ++ "\n") := by
  intro d
  refine ⟨?_, d.lossy_iff, fun level time out => ?_⟩
  · exact Decoding.reports_record (Decoding.decode_ok hok).1 ""
  · rw [Log.Output.stream_writeAll, Decoding.filter_logEntries hok]

set_option maxRecDepth 2000 in
/-- A member of a guild: the mask of the user within it comes first, as in the schema, one that comes
as text is like an integer, and a set that is there already is not reported. -/
theorem warnings_of_decode_of_member :
    let user := Payload.object [("id", .string "2"), ("username", .string "u"),
      ("public_flags", .integer (2 ^ 62))]
    let p := Payload.object [("flags", .string "-9223372036854775808"), ("user", user),
      ("permissions", .ready (.flags ⟨.permission, 1, 2 ^ 62⟩))]
    let warnings := [⟨"UserFlag", 2 ^ 62, some "public_flags"⟩,
      ⟨"GuildMemberFlag", 2 ^ 63, some "flags"⟩]
    let d := decode .mapping .guildMember p
    (∃ r, d.outcome = .ok r) ∧ Reports (Reads "" (.record .guildMember) p) warnings ∧
      ∀ time (out : Log.Output),
        (out.writeAll time (d.logEntries .guildMember Log.Level.info.number)).stream =
          out.stream ++ String.join ((Log.atLeast out.level
            [.of .debug "discord_models.bitfield"
                "Unknown UserFlag bits 0x4000000000000000 in field public_flags",
              .of .debug "discord_models.bitfield"
                "Unknown GuildMemberFlag bits 0x8000000000000000 in field flags",
              .of .info "discord_models.codec" ("Lossy flag decode for GuildMember: " ++
                "UserFlag in field 'public_flags': unknown bits 0x4000000000000000; " ++
                "GuildMemberFlag in field 'flags': unknown bits 0x8000000000000000")]).map
            fun e => e.line time ++ "\n") := by
  intro user p warnings d
  obtain ⟨r, hd⟩ : ∃ r, d = ⟨warnings, .ok r⟩ := ⟨_, rfl⟩
  have hok : (decode .mapping .guildMember p).outcome = .ok r := congrArg Decoding.outcome hd
  obtain ⟨hreports, -, hlog⟩ := warnings_of_decode hok
  have hwarnings : (decode .mapping .guildMember p).warnings = warnings :=
    congrArg Decoding.warnings hd
  rw [hwarnings] at hreports hlog
  exact ⟨⟨r, hok⟩, hreports, hlog .info⟩

set_option maxRecDepth 2000 in
/-- A user with bits without a name: nothing is written about it at the level that is no level. -/
theorem warnings_of_decode_failed :
    let v := Json.object [("id", .string "1"), ("username", .string "u"),
      ("public_flags", .integer (2 ^ 62))]
    let d := decodeMapping .user v
    (∃ r, d.outcome = .ok r) ∧ d.warnings ≠ [] ∧ ∀ time (out : Log.Output),
      out.writeAll time (d.logEntries .user Log.Level.unset.number) =
        out.writeAll time d.maskEntries := by
  intro v d
  obtain ⟨r, hd⟩ : ∃ r, d = ⟨[⟨"UserFlag", 2 ^ 62, some "public_flags"⟩], .ok r⟩ := ⟨_, rfl⟩
  rw [hd]
  refine ⟨⟨r, rfl⟩, List.cons_ne_nil _ _, fun time out => ?_⟩
  rw [Decoding.logEntries, Log.Output.writeAll, List.foldl_append]
  rfl

end Record
end ChatRecords
