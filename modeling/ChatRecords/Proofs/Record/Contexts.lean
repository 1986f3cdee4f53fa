import ChatRecords.Proofs.Keyed.Entries
import ChatRecords.Proofs.Record.Following
import ChatRecords.Proofs.Record.Levels
import ChatRecords.Proofs.Record.Masks

/-!
# Records in their surroundings

What a payload is decoded as depends on one object in it only through the record that the object is
decoded as: around that record everything else stays the same. If the object is refused, so is the
payload, at the place of the object.

## Main definitions

* `Payload.Context`: a payload with a hole for an object that is decoded as a record.
* `Value.Context`: a value with a hole.

## Main results

* `Payload.Context.partAt_iff`: the objects that are decoded as a record are those in a hole.
* `Decoding.field_plug`: the result of a payload, from that of the object in its hole.
* `Record.decode_plug_error`, `Record.decode_plug_ok`: what this says of whole records.
-/

namespace ChatRecords

/-! ## Payloads with a hole -/

/-- The key of an entry of a map as it is written again, if it can be read. -/
def KeyType.rewritten (key : KeyType) (name : String) : String :=
  match Conversion.mapKey key name with
  | .ok k => k.wire
  | .error _ => name

namespace Payload

/-- A payload for a type of values, with a hole for an object that a record of a kind is decoded
from. Of several entries for one field of a record the last counts, and the hole is in none of the
others, which are not decoded. -/
inductive Context (inner : RecordKind) : FieldType → Type
  | here : Context inner (.record inner)
  | nullable {t : FieldType} (c : Context inner t) : Context inner (.nullable t)
  | item {t : FieldType} (before after : List Payload) (c : Context inner t) :
      Context inner (.list t)
  /-- The hole is in the value of an entry. -/
  | entry {key : KeyType} {t : FieldType} (before after : List (String × Payload)) (name : String)
      (c : Context inner t) : Context inner (.map key t)
  | field {kind : RecordKind} (before after : List (String × Payload)) (f : Field)
      (hf : f ∈ kind.fields) (hlast : f.name ∉ after.map Prod.fst) (c : Context inner f.type) :
      Context inner (.record kind)

namespace Context

variable {inner : RecordKind} {t : FieldType}

/-- The payload with an object in the hole. -/
def plug : {t : FieldType} → Context inner t → List (String × Payload) → Payload
  | _, .here, entries => .object entries
  | _, .nullable c, entries => c.plug entries
  | _, .item before after c, entries => .array (before ++ c.plug entries :: after)
  | _, .entry before after name c, entries => .object (before ++ (name, c.plug entries) :: after)
  | _, .field before after f _ _ c, entries =>
    .object (before ++ (f.name, c.plug entries) :: after)

/-- Where the hole is in the payload. -/
def path : {t : FieldType} → Context inner t → Path
  | _, .here => []
  | _, .nullable c => c.path
  | _, .item before _ c => .index before.length :: c.path
  | _, .entry _ _ name c => .key name :: c.path
  | _, .field _ _ f _ _ c => .key f.name :: c.path

/-- Where the record is that the object in the hole is decoded as. The path is that of the hole, but
for the keys of maps, which are written as they are read. -/
def place : {t : FieldType} → Context inner t → Path
  | _, .here => []
  | _, .nullable c => c.place
  | _, .item before _ c => .index before.length :: c.place
  | _, @entry _ key _ _ _ name c => .key (key.rewritten name) :: c.place
  | _, .field _ _ f _ _ c => .key f.name :: c.place

/-- The record that the object in the hole is decoded as is kept: in no map does a later entry with
the same key take its place. -/
def IsKept : {t : FieldType} → Context inner t → Prop
  | _, .here => True
  | _, .nullable c => c.IsKept
  | _, .item _ _ c => c.IsKept
  | _, @entry _ key _ _ after name c =>
    (∀ e ∈ after, Conversion.mapKey key e.1 ≠ Conversion.mapKey key name) ∧ c.IsKept
  | _, .field _ _ _ _ _ c => c.IsKept

theorem plug_ne_null (c : Context inner t) (entries : List (String × Payload)) :
    c.plug entries ≠ .null := by
  induction c with
  | nullable c ih => exact ih
  | _ => simp [plug]

theorem plug_ne_ready (c : Context inner t) (entries : List (String × Payload)) (v : Ready) :
    c.plug entries ≠ .ready v := by
  induction c with
  | nullable c ih => exact ih
  | _ => simp [plug]

end Context
end Payload

/-! ## Values with a hole -/

namespace Value

/-- One level of a value around a hole. -/
inductive Frame where
  | item (before after : List Value)
  | entry (before after : List (MapKey × Value)) (key : MapKey)
  | field (kind : RecordKind) (before after : List (String × Value)) (name : String)

namespace Frame

def plug : Frame → Value → Value
  | .item before after, v => .list (before ++ v :: after)
  | .entry before after key, v => .map (before ++ (key, v) :: after)
  | .field kind before after name, v => .record kind (before ++ (name, v) :: after)

def step : Frame → Step
  | .item before _ => .index before.length
  | .entry _ _ key => .key key.wire
  | .field _ _ _ name => .key name

end Frame

/-- A value with a hole, as its levels from the outermost to the hole. -/
abbrev Context := List Frame

namespace Context

/-- The value with another value in the hole. -/
def plug : Context → Value → Value
  | [], v => v
  | frame :: rest, v => frame.plug (plug rest v)

/-- Where the hole is. -/
def path (c : Context) : Path := c.map Frame.step

theorem hasParts_plug (c : Context) {v : Value} (h : v.hasParts = true) :
    (c.plug v).hasParts = true := by
  cases c with
  | nil => exact h
  | cons frame rest => cases frame <;> rfl

/-- A record stays one of its kind, whatever record is in the hole. -/
theorem record_of_plug {c : Context} {kind inner : RecordKind}
    {fields fields' : List (String × Value)}
    (h : c.plug (.record inner fields) = .record kind fields') (new : List (String × Value)) :
    ∃ r : Record, r.toValue = c.plug (.record inner new) ∧ r.kind = kind := by
  cases c with
  | nil =>
    cases h
    exact ⟨⟨_, new⟩, rfl, rfl⟩
  | cons frame rest =>
    cases frame with
    | field kind' before after name =>
      cases h
      exact ⟨⟨kind, _⟩, rfl, rfl⟩
    | _ => cases h

end Context
end Value

/-! ## Parts and holes -/

namespace Payload.Context

open Decoding (PartAt)

variable {inner : RecordKind} {t : FieldType}

/-- The object in the hole is a part of the payload, and the path leads to it. -/
theorem partAt_plug (c : Context inner t) (entries : List (String × Payload)) :
    PartAt t (c.plug entries) c.path (.record inner) (.object entries) := by
  induction c with
  | here => exact .here _ _
  | nullable c ih => exact .nullable (c.plug_ne_null entries) ih
  | item before after c ih => exact .item (i := before.length) rfl (by simp) ih
  | entry before after name c ih => exact .entry (List.mem_append_right _ List.mem_cons_self) ih
  | field before after f hf hlast c ih => exact .field hf (Entries.get?_middle_self hlast _) ih

theorem exists_of_partAt {u : FieldType} {p q : Payload} {path : Path} (h : PartAt t p path u q)
    (hu : u = .record inner) {entries : List (String × Payload)} (hq : q = .object entries) :
    ∃ c : Context inner t, c.plug entries = p ∧ c.path = path := by
  induction h with
  | here =>
    subst hu hq
    exact ⟨.here, rfl, rfl⟩
  | nullable _ _ ih =>
    obtain ⟨c, rfl, rfl⟩ := ih hu hq
    exact ⟨.nullable c, rfl, rfl⟩
  | @item _ _ p _ _ _ items i hitems hi _ ih =>
    obtain ⟨c, rfl, rfl⟩ := ih hu hq
    unfold Payload.items? at hitems
    split at hitems
    · next items =>
      obtain rfl := Option.some.inj hitems
      obtain ⟨hlt, hget⟩ := List.getElem?_eq_some_iff.1 hi
      refine ⟨.item (items.take i) (items.drop (i + 1)) c, ?_, ?_⟩
      · rw [plug, ← hget, ← List.drop_eq_getElem_cons hlt, List.take_append_drop]
      · rw [Context.path, List.length_take_of_le hlt.le]
    · -- flags are no objects
      obtain rfl := Option.some.inj hitems
      obtain ⟨flag, -, hflag⟩ := List.mem_map.1 (List.mem_of_getElem? hi)
      exact absurd hflag.symm (c.plug_ne_ready entries _)
    · cases hitems
  | @entry _ _ _ _ k _ _ _ he _ ih =>
    obtain ⟨c, rfl, rfl⟩ := ih hu hq
    obtain ⟨before, after, rfl⟩ := List.append_of_mem he
    exact ⟨.entry before after k c, rfl, rfl⟩
  | field hf hget _ ih =>
    obtain ⟨c, rfl, rfl⟩ := ih hu hq
    obtain ⟨before, after, rfl, hlast⟩ := Entries.exists_middle_of_get? hget
    exact ⟨.field before after _ hf hlast c, rfl, rfl⟩

/-- The objects that are decoded as a record, at any depth, are those in a hole. -/
theorem partAt_iff {p : Payload} {path : Path} {entries : List (String × Payload)} :
    PartAt t p path (.record inner) (.object entries) ↔
      ∃ c : Context inner t, c.plug entries = p ∧ c.path = path := by
  constructor
  · exact fun h => exists_of_partAt h rfl rfl
  · rintro ⟨c, rfl, rfl⟩
    exact c.partAt_plug entries

end Payload.Context

/-! ## Results around a hole -/

namespace Decoding

variable {form : PayloadForm} {counted : List RecordKind}

open Payload (Context)

section

variable {decode : RecordKind → Payload → Decoding Value} {name : String}

/-- A list, from the results of its items. -/
theorem field_list_middle (t : FieldType) (before after : List Payload) (p : Payload) :
    field form decode name (.list t) (.array (before ++ p :: after)) =
      (collect ((before.mapIdx fun i q => (field form decode name t q).under (.index i)) ++
        (field form decode name t p).under (.index before.length) ::
        after.mapIdx fun i q => (field form decode name t q).under
          (.index (i + 1 + before.length : Nat)))).map Value.list := by
  rw [field, Payload.items?]
  simp only [List.mapIdx_append, List.mapIdx_cons, Nat.zero_add]

/-- A map, from the results of its entries. -/
theorem field_map_middle {key : KeyType} {k : String} {x : MapKey}
    (hkey : Conversion.mapKey key k = .ok x) (t : FieldType)
    (before after : List (String × Payload)) (p : Payload) :
    let entry (e : String × Payload) :=
      both Prod.mk (mapKey key e.1) ((field form decode name t e.2).under (.key e.1))
    field form decode name (.map key t) (.object (before ++ (k, p) :: after)) =
      (collect (before.map entry ++ ((field form decode name t p).under (.key k)).map (x, ·) ::
        after.map entry)).map fun entries => Value.map (Entries.settle entries) := by
  intro entry
  have hx : both Prod.mk (mapKey key k) ((field form decode name t p).under (.key k)) =
      ((field form decode name t p).under (.key k)).map (x, ·) := by
    rw [both_eq_within_right _ (mapKey_ok_iff.2 hkey), map_eq_within, mapKey, hkey]
    rfl
  rw [field, List.map_append, List.map_cons, hx]

/-- In a map that is decoded every key can be read. -/
theorem exists_mapKey {key : KeyType} {t : FieldType} {entries : List (String × Payload)}
    {v : Value}
    (h : (field form decode name (.map key t) (.object entries)).outcome = .ok v)
    {e : String × Payload} (he : e ∈ entries) : ∃ x, Conversion.mapKey key e.1 = .ok x := by
  obtain ⟨_, kvs, ⟨⟩, -, hkvs⟩ := field_map_ok h
  obtain ⟨kv, -, hkv, -⟩ := exists_right_of_forall₂ hkvs he
  exact ⟨kv.1, hkv⟩

/-- A key that none of some entries of a map is read as is none of the keys of their values. -/
theorem notMem_keys_of_mapKey_ne {key : KeyType} {x : MapKey} {entries : List (String × Payload)}
    {f : String × Payload → Decoding Value} {kvs : List (MapKey × Value)}
    (hkvs : List.Forall₂ (fun d kv => d.outcome = .ok kv)
      (entries.map fun e => both Prod.mk (mapKey key e.1) (f e)) kvs)
    (h : ∀ e ∈ entries, Conversion.mapKey key e.1 ≠ .ok x) : x ∉ kvs.map Prod.fst := by
  intro hx
  obtain ⟨kv, hkv, hname⟩ := List.mem_map.1 hx
  obtain ⟨e, he, hread⟩ := exists_left_of_forall₂ (List.forall₂_map_left_iff.1 hkvs) hkv
  obtain ⟨x', _, hx', -, rfl⟩ := both_ok_iff.1 hread
  obtain rfl : x' = x := hname
  exact h e he (mapKey_ok_iff.1 hx')

/-- A field with another name than that of an entry does not depend on the entry. -/
theorem recordField_middle_of_ne {f : Field} {k : String} (h : f.name ≠ k)
    (before after : List (String × Payload)) (q : Payload) :
    recordField form decode (before ++ (k, q) :: after) f =
      recordField form decode (before ++ after) f := by
  rw [recordField, recordField, Entries.get?_middle_of_ne h]

/-- The fields of a record, from the result of one of them. -/
theorem recordFields_middle {kind : RecordKind} {fs fs' : List Field} {f : Field}
    (hfields : kind.fields = fs ++ f :: fs') (before : List (String × Payload))
    {after : List (String × Payload)} (hlast : f.name ∉ after.map Prod.fst) (q : Payload) :
    kind.fields.map (recordField form decode (before ++ (f.name, q) :: after)) =
      fs.map (recordField form decode (before ++ after)) ++
        ((field form decode f.name f.type q).under (.key f.name)).map (f.name, ·) ::
        fs'.map (recordField form decode (before ++ after)) := by
  have hnodup := kind.nodup_names
  rw [hfields, List.map_append, List.map_cons, List.nodup_middle, List.nodup_cons] at hnodup
  have hother (g : Field) (hg : g ∈ fs ++ fs') : g.name ≠ f.name := by
    rintro hname
    exact hnodup.1 (by rw [← hname, ← List.map_append]; exact List.mem_map_of_mem hg)
  rw [hfields, List.map_append, List.map_cons, recordField.eq_1 _ _ _ f,
    Entries.get?_middle_self hlast]
  congr 1
  · exact List.map_congr_left fun g hg =>
      recordField_middle_of_ne (hother g (List.mem_append_left _ hg)) ..
  · congr 1
    exact List.map_congr_left fun g hg =>
      recordField_middle_of_ne (hother g (List.mem_append_right _ hg)) ..

end

/-- A record, from the results of its fields. -/
theorem record_object {kind : RecordKind} {left left' : Nat}
    (henter : Nesting.enter counted kind left = some left') (depth : Nat)
    (entries : List (String × Payload)) :
    record form counted (depth + 1) left kind (.object entries) =
      (collect (kind.fields.map (recordField form (record form counted depth left') entries))).map
        fun fields => Value.record kind (ownFields kind fields) := by
  rw [record, henter, recordEntries?]
  rfl

/-- The result of a payload follows that of the object in its hole. If the record that the object is
decoded as is kept, it is in the place of the hole. -/
theorem field_plug {inner : RecordKind} {t : FieldType} (c : Context inner t)
    {entries : List (String × Payload)} {depth left : Nat} {name : String} {v : Value}
    (hok : (field form (record form counted depth left) name t (c.plug entries)).outcome = .ok v) :
    ∃ (g : Value → Value) (depth' left' : Nat),
      (∃ w, (record form counted depth' left' inner (.object entries)).outcome = .ok w) ∧
      Follows (fun entries => record form counted depth' left' inner (.object entries))
        (fun entries => field form (record form counted depth left) name t (c.plug entries))
        c.path g ∧
      (c.IsKept → ∃ C : Value.Context, C.path = c.place ∧
        ∀ w : Value, w.hasParts = true → g w = C.plug w) := by
  -- on the payload around the hole, from the outside in
  induction c generalizing depth left name v with
  | here => exact ⟨id, depth, left, ⟨v, hok⟩, .refl _, fun _ => ⟨[], rfl, fun _ _ => rfl⟩⟩
  | nullable c ih =>
    rw [Context.plug, field_nullable_of_ne (c.plug_ne_null entries)] at hok
    simp only [Context.plug, field_nullable_of_ne (c.plug_ne_null _)]
    exact ih hok
  | @item t items items' c ih =>
    rw [Context.plug, field_list_middle] at hok
    obtain ⟨vs, hvs, -⟩ := map_ok_iff.1 hok
    obtain ⟨bs, cs, hbs, -, ⟨x, hx⟩, hcollect⟩ := collect_middle hvs
    obtain ⟨g, depth', left', hw, hfollows, hkept⟩ := ih (under_ok_iff.1 hx)
    refine ⟨fun w => .list (bs ++ g w :: cs), depth', left', hw, ?_, fun h => ?_⟩
    · simp only [Context.plug, field_list_middle]
      exact ((hfollows.under _).trans (hcollect _)).map Value.list
    · obtain ⟨C, hplace, hC⟩ := hkept h
      have hlength : bs.length = items.length := by rw [← hbs.length_eq, List.length_mapIdx]
      refine ⟨.item bs cs :: C, ?_, fun w hw => ?_⟩
      · rw [Context.place, ← hplace, ← hlength]
        rfl
      · simp only [hC w hw]
        rfl
  | @entry key t entries₁ entries₂ k c ih =>
    obtain ⟨x, hkey⟩ := exists_mapKey hok (List.mem_append_right entries₁ List.mem_cons_self)
    rw [Context.plug, field_map_middle hkey] at hok
    obtain ⟨kvs, hkvs, -⟩ := map_ok_iff.1 hok
    obtain ⟨bs, cs, -, hcs, ⟨y, hy⟩, hcollect⟩ := collect_middle hkvs
    obtain ⟨z, hz, -⟩ := map_ok_iff.1 hy
    obtain ⟨g, depth', left', hw, hfollows, hkept⟩ := ih (under_ok_iff.1 hz)
    refine ⟨fun w => .map (Entries.settle (bs ++ (x, g w) :: cs)), depth', left', hw, ?_, ?_⟩
    · simp only [Context.plug, field_map_middle hkey]
      exact (((hfollows.under _).map (Prod.mk x)).trans (hcollect _)).map _
    · rintro ⟨hlast, h⟩
      obtain ⟨C, hplace, hC⟩ := hkept h
      have hnew := notMem_keys_of_mapKey_ne hcs (hkey ▸ hlast)
      obtain ⟨bs', cs', hsettle⟩ := Entries.settle_middle bs hnew
      refine ⟨.entry bs' cs' x :: C, ?_, fun w hw => ?_⟩
      · rw [Context.place, KeyType.rewritten, hkey, ← hplace]
        rfl
      · simp only [hC w hw, hsettle]
        rfl
  | @field kind entries₁ entries₂ f hf hlast c ih =>
    obtain ⟨depth, left₁, _, _, rfl, henter, -, -, -⟩ := record_ok hok
    obtain ⟨fs, fs', hfields⟩ := List.append_of_mem hf
    rw [Context.plug, field, record_object henter, recordFields_middle hfields _ hlast] at hok
    obtain ⟨es, hes, -⟩ := map_ok_iff.1 hok
    obtain ⟨bs, cs, -, -, ⟨y, hy⟩, hcollect⟩ := collect_middle hes
    obtain ⟨z, hz, -⟩ := map_ok_iff.1 hy
    obtain ⟨g, depth', left', hw, hfollows, hkept⟩ := ih (under_ok_iff.1 hz)
    refine ⟨fun w => .record kind (ownFields kind (bs ++ (f.name, g w) :: cs)), depth', left', hw,
      ?_, fun h => ?_⟩
    · simp only [Context.plug, field, record_object henter, recordFields_middle hfields _ hlast]
      exact (((hfollows.under _).map (Prod.mk f.name)).trans (hcollect _)).map _
    · obtain ⟨C, hplace, hC⟩ := hkept h
      refine ⟨.field kind (ownFields kind bs) (ownFields kind cs) f.name :: C, ?_, fun w hw => ?_⟩
      · rw [Context.place, ← hplace]
        rfl
      · simp only [hC w hw, ownFields_eq, List.map_append, List.map_cons,
          ownValue_of_hasParts (C.hasParts_plug hw)]
        rfl

end Decoding

namespace Record

open Decoding (Follows)

variable {form : PayloadForm} {kind inner : RecordKind} {r : Record}

theorem decode_eq_of_depth_lt {p : Payload} {depth : Nat} (h : p.depth < depth) :
    decode form kind p = (Decoding.record form (Decoding.countedKinds form kind) depth Nesting.limit
      kind p).asRecord kind := by
  rw [decode_eq, Decoding.record_depth_irrel (Nat.lt_succ_self _) h]

/-- The result of the payload of a record follows that of the object in its hole. If the record that
the object is decoded as is kept, it is in the place of the hole. -/
theorem decode_plug (c : Payload.Context inner (.record kind)) {entries : List (String × Payload)}
    (hok : (decode form kind (c.plug entries)).outcome = .ok r)
    (entries' : List (String × Payload)) :
    ∃ (g : Value → Value) (counted : List RecordKind) (depth left : Nat)
      (fields : List (String × Value)) (before after : List LossyFlags),
      (Decoding.record form counted depth left inner (.object entries)).outcome =
        .ok (.record inner fields) ∧
      r.toValue = g (.record inner fields) ∧
      (∀ es ∈ [entries, entries'], decode form kind (c.plug es) =
        (Decoding.record form counted depth left inner (.object es)).within before after c.path
          fun w => (g w).record?.getD ⟨kind, []⟩) ∧
      (c.IsKept → ∃ C : Value.Context, C.path = c.place ∧
        ∀ new, g (.record inner new) = C.plug (.record inner new)) := by
  let depth := max (c.plug entries).depth (c.plug entries').depth + 1
  let decoded (es : List (String × Payload)) : Decoding Value := Decoding.field form
    (Decoding.record form (Decoding.countedKinds form kind) depth Nesting.limit) "" (.record kind)
    (c.plug es)
  have hdecode (es : List (String × Payload)) (hes : es ∈ [entries, entries']) :
      decode form kind (c.plug es) = (decoded es).asRecord kind := by
    refine decode_eq_of_depth_lt (Nat.lt_succ_of_le ?_)
    obtain rfl | rfl : es = entries ∨ es = entries' := by simpa using hes
    · exact Nat.le_max_left _ _
    · exact Nat.le_max_right _ _
  rw [hdecode entries List.mem_cons_self] at hok
  obtain ⟨v, hv, rfl⟩ := Decoding.map_ok_iff.1 hok
  obtain ⟨g, depth', left, ⟨w, hw⟩, hfollows, hkept⟩ := Decoding.field_plug c hv
  obtain ⟨_, _, _, fields, -, -, -, rfl, -⟩ := Decoding.record_ok hw
  obtain ⟨_, _, _, _, -, -, -, rfl, -⟩ := Decoding.record_ok hv
  have hvalue := Except.ok.inj (hv.symm.trans (hfollows.outcome_ok hw))
  obtain ⟨before, after, hall⟩ := hfollows.map fun v => v.record?.getD ⟨kind, []⟩
  refine ⟨g, _, depth', left, _, before, after, hw, hvalue, fun es hes =>
    (hdecode es hes).trans (hall es), fun h => ?_⟩
  obtain ⟨C, hplace, hC⟩ := hkept h
  exact ⟨C, hplace, fun new => hC _ rfl⟩

/-- If the object is refused, the payload is refused for it, at the place of the hole. -/
theorem decode_plug_error (c : Payload.Context inner (.record kind))
    {entries entries' : List (String × Payload)} {refusal : Refusal}
    (hok : (decode form kind (c.plug entries)).outcome = .ok r)
    (h : ∀ counted depth left w,
      (Decoding.record form counted depth left inner (.object entries)).outcome = .ok w →
        (Decoding.record form counted depth left inner (.object entries')).outcome =
          .error refusal) :
    (decode form kind (c.plug entries')).outcome = .error (refusal.below c.path) := by
  obtain ⟨g, counted, depth, left, fields, before, after, hfields, -, hall, -⟩ :=
    decode_plug c hok entries'
  rw [hall entries' (by simp)]
  exact Decoding.within_error (h _ _ _ _ hfields)

/-- If the object is decoded with other fields, and the record that it is decoded as is kept, then
the record of the payload has these fields in the place of the former, and is otherwise the same. -/
theorem decode_plug_ok (c : Payload.Context inner (.record kind)) (hkept : c.IsKept)
    {entries entries' : List (String × Payload)} {warnings : List LossyFlags}
    {change : List (String × Value) → List (String × Value)}
    (hok : decode form kind (c.plug entries) = ⟨warnings, .ok r⟩)
    (h : ∀ counted depth left warnings fields,
      Decoding.record form counted depth left inner (.object entries) =
          ⟨warnings, .ok (.record inner fields)⟩ →
        Decoding.record form counted depth left inner (.object entries') =
          ⟨warnings, .ok (.record inner (change fields))⟩) :
    ∃ (C : Value.Context) (counted : List RecordKind) (depth left : Nat)
      (fields : List (String × Value)) (r' : Record), C.path = c.place ∧
      (Decoding.record form counted depth left inner (.object entries)).outcome =
        .ok (.record inner fields) ∧
      r.toValue = C.plug (.record inner fields) ∧
      r'.toValue = C.plug (.record inner (change fields)) ∧
      decode form kind (c.plug entries') = ⟨warnings, .ok r'⟩ := by
  obtain ⟨g, counted, depth, left, fields, before, after, hfields, hr, hall, hplace⟩ :=
    decode_plug c (congrArg Decoding.outcome hok) entries'
  obtain ⟨C, hplace, hC⟩ := hplace hkept
  rw [hC] at hr
  obtain ⟨r', hr', -⟩ := Value.Context.record_of_plug hr.symm (change fields)
  have hrecord := Decoding.eq_of_outcome hfields
  have hwarnings := hall entries List.mem_cons_self
  rw [hok, hrecord] at hwarnings
  obtain ⟨rfl, -⟩ := Decoding.mk.inj hwarnings
  refine ⟨C, counted, depth, left, fields, r', hplace, hfields, hr, hr', ?_⟩
  rw [hall entries' (by simp), h _ _ _ _ _ hrecord, Decoding.within_ok, hC, ← hr']
  rfl

end Record
end ChatRecords
