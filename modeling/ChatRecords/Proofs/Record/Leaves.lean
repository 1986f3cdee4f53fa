import ChatRecords.Proofs.Calendar.Wire
import ChatRecords.Proofs.Flags.Mask
import ChatRecords.Proofs.Record.Inversion
import ChatRecords.Proofs.Record.Schema
import ChatRecords.Record.Encoder

/-!
# Values without parts

What the lenient conversions can give, and that each of them takes the wire form of such a value
for the value itself.

## Main definitions

* `ScalarType.Holds`, `KeyType.Holds`: the values of a scalar type, and the keys of a type of keys.
* `Choice.InRange`: the choice values that are read.

## Main results

* `Conversion.scalar_ok`, `Conversion.union_ok`, `Conversion.flags_ok`, `Conversion.choice_ok`,
  `Conversion.code_ok`, `Conversion.moment_ok`, `Conversion.mapKey_ok`: what is given.
* `Conversion.scalar_wire`, `Conversion.union_wire`, `Conversion.id_wire`, `Conversion.flags_wire`,
  `Conversion.choice_wire`, `Conversion.messageType_wire`, `Conversion.code_wire`,
  `Conversion.moment_wire`, `Conversion.mapKey_wire`: wire forms.
-/

namespace ChatRecords

/-- The values of a scalar type. -/
def ScalarType.Holds : ScalarType → Value → Prop
  | .text, .text _ | .integer, .integer _ | .real, .real _ | .truth, .truth _ => True
  | _, _ => False

/-- The keys of a type of keys. -/
def KeyType.Holds : KeyType → MapKey → Prop
  | .text, .text _ | .id, .id _ => True
  | .code e, .code c => e.holds c = true
  | _, _ => False

/-- The integer that a choice may be fits in a word with a sign. -/
def Choice.InRange : Choice → Prop
  | .integer n => Choice.FitsInteger n
  | _ => True

theorem length_toDigits_of_fitsInteger {n : Int} (h : Choice.FitsInteger n) :
    (Nat.toDigits 10 n.natAbs).length ≤ Text.digitLimit := by
  refine (Text.length_toDigits_le (k := 20) (by decide) ?_).trans (by decide)
  unfold Choice.FitsInteger at h
  omega

/-- The decimal form of an identifier is read as the identifier. -/
theorem Snowflake.parse_format (x : Snowflake) : Snowflake.parse x.format = .ok x := by
  have hdigits := Text.allDigits_toDigits x.raw
  have hlength : (Nat.toDigits 10 x.raw).length ≤ Text.digitLimit :=
    (Text.length_toDigits_le (k := 20) (by decide) (x.raw_lt.trans (by decide))).trans (by decide)
  have hnonempty : (Nat.toDigits 10 x.raw).isEmpty = false := by
    rw [List.isEmpty_eq_false_iff]
    exact Nat.toDigits_ne_nil
  have hof : Snowflake.ofInt? (x.raw : Int) = some x := by
    have hrange : 0 ≤ (x.raw : Int) ∧ (x.raw : Int).toNat < 2 ^ 64 := ⟨by omega, x.raw_lt⟩
    rw [Snowflake.ofInt?, dif_pos hrange]
    rfl
  simp only [Snowflake.parse, Snowflake.format, Text.toList_toString_nat, hnonempty, hdigits.all,
    Text.natOfDigits_toDigits, hof]
  simp [Nat.not_lt.2 hlength]

namespace Conversion

theorem except_map_ok_iff {ε α β : Type} {f : α → β} {r : Except ε α} {b : β} :
    r.map f = .ok b ↔ ∃ a, r = .ok a ∧ f a = b := by
  cases r <;> simp [Except.map]

variable {form : PayloadForm} {p : Payload}

/-! ## What conversions give -/

theorem scalar_ok {t : ScalarType} {v : Value} (h : scalar form t p = .ok v) : t.Holds v := by
  cases t <;> obtain ⟨a, -, rfl⟩ := except_map_ok_iff.1 h <;> exact trivial

theorem asIs?_holds {t : ScalarType} {v : Value} (h : asIs? t p = some v) : t.Holds v := by
  unfold asIs? at h
  split at h <;> simp only [Option.some.injEq, reduceCtorEq] at h <;> subst h <;> exact trivial

/-- What is given for several types is given for one of them, by itself or by conversion. -/
theorem exists_of_union_ok {first : ScalarType} {rest : List ScalarType} {v : Value}
    (h : union form first rest p = .ok v) :
    ∃ t ∈ first :: rest, asIs? t p = some v ∨ scalar form t p = .ok v := by
  simp only [union] at h
  split at h
  · next w hw =>
    obtain rfl := Except.ok.inj h
    obtain ⟨t, ht, hasIs⟩ := List.exists_of_findSome?_eq_some hw
    exact ⟨t, ht, .inl hasIs⟩
  · split at h
    · next w hw =>
      obtain rfl := Except.ok.inj h
      obtain ⟨t, ht, hconverted⟩ := List.exists_of_findSome?_eq_some hw
      refine ⟨t, ht, .inr ?_⟩
      cases hscalar : scalar form t p with
      | ok u => simpa [hscalar, Except.toOption] using hconverted
      | error fault => simp [hscalar, Except.toOption] at hconverted
    · split at h
      · next w hw =>
        obtain rfl := Except.ok.inj h
        exact ⟨first, List.mem_cons_self, .inr hw⟩
      · simp at h

/-- One of several types holds what is given for all of them. -/
theorem union_ok {first : ScalarType} {rest : List ScalarType} {v : Value}
    (h : union form first rest p = .ok v) : ∃ t ∈ first :: rest, t.Holds v := by
  obtain ⟨t, ht, hasIs | hscalar⟩ := exists_of_union_ok h
  · exact ⟨t, ht, asIs?_holds hasIs⟩
  · exact ⟨t, ht, scalar_ok hscalar⟩

theorem flagsOfMask_ok_iff {c : FlagClass} {mask : Int} {r : FlagSet × Bool} :
    flagsOfMask c mask p = .ok r ↔ FlagSet.ofMask c mask true = .ok r := by
  unfold flagsOfMask
  split
  · next h => simp [h]
  · next h => simp [h, refuse]

/-- A flag set is one that was there, or one of a mask. -/
theorem flags_ok {c : FlagClass} {r : FlagSet × Bool} (h : flags c p = .ok r) :
    (p = .ready (.flags r.1) ∧ r.1.flagClass = c ∧ r.2 = false) ∨
      ∃ mask, FlagSet.ofMask c mask true = .ok r := by
  unfold flags at h
  split at h
  · next s =>
    split at h
    · next hclass =>
      obtain rfl := Except.ok.inj h
      exact .inl ⟨rfl, hclass, rfl⟩
    · simp [refuse] at h
  · split at h
    · simp [refuse] at h
    · split at h
      · simp [refuse] at h
      · exact .inr ⟨_, flagsOfMask_ok_iff.1 h⟩
  · split at h
    · exact .inr ⟨_, flagsOfMask_ok_iff.1 h⟩
    · simp [refuse] at h

/-- A choice value is one that was there, or it is in range. -/
theorem choice_ok {c : Choice} (h : choice p = .ok c) : p = .ready (.choice c) ∨ c.InRange := by
  unfold choice at h
  split at h
  · obtain rfl := Except.ok.inj h
    exact .inl rfl
  · obtain rfl := Except.ok.inj h
    exact .inr trivial
  · obtain rfl := Except.ok.inj h
    exact .inr trivial
  · split at h
    · split at h
      · next hfits =>
        obtain rfl := Except.ok.inj h
        exact .inr hfits
      · simp at h
    · simp at h

/-- A code is a value of the enumeration. -/
theorem code_ok {e : Enumeration} {c : Code} (h : code e p = .ok c) : e.holds c = true := by
  unfold code at h
  split at h
  · next hwords =>
    unfold word at h
    split at h
    · split at h
      · next hmem =>
        obtain rfl := Except.ok.inj h
        simp [Enumeration.holds, hmem, hwords]
      · simp [refuse] at h
    · simp [refuse] at h
  · next hwords =>
    unfold number at h
    split at h
    · split at h
      · simp [refuse] at h
      · next hfits =>
        split at h
        · next hmem =>
          obtain rfl := Except.ok.inj h
          simp only [Bool.not_eq_true', decide_eq_false_iff_not, not_not] at hfits
          simp [Enumeration.holds, hmem, hwords, hfits]
        · simp [refuse] at h
    · simp [refuse] at h

/-- A moment is a whole number of minutes away from universal time. -/
theorem moment_ok {m : Moment} (h : moment form p = .ok m) : m.HasWholeMinutes := by
  unfold moment at h
  simp only at h
  split at h
  · split at h
    · next hread => exact Except.ok.inj h ▸ Moment.hasWholeMinutes_of_parse? hread
    · simp at h
  · split at h
    · next hread => exact Except.ok.inj h ▸ Moment.hasWholeMinutes_of_ofReal? hread
    · simp at h
  · split at h
    · split at h
      · simp [refuse] at h
      · split at h
        · next hread => exact Except.ok.inj h ▸ Moment.hasWholeMinutes_of_ofCount? hread
        · simp at h
    · simp [refuse] at h

theorem mapKey_ok {type : KeyType} {name : String} {k : MapKey} (h : mapKey type name = .ok k) :
    type.Holds k := by
  cases type with
  | text =>
    obtain rfl := Except.ok.inj h
    trivial
  | id =>
    obtain ⟨x, -, rfl⟩ := except_map_ok_iff.1 h
    trivial
  | code e =>
    obtain ⟨c, hc, rfl⟩ := except_map_ok_iff.1 h
    exact code_ok hc

/-! ## Wire forms -/

/-- A scalar type takes the wire form of its values as it is, and no other. -/
theorem asIs?_wire {v : Value} {j : Json} (hj : v.encode = .ok j) {t : ScalarType}
    (h : t.Holds v) (t' : ScalarType) :
    asIs? t' (.ofJson j) = if t' = t then some v else none := by
  cases t <;> cases v <;> simp only [ScalarType.Holds] at h <;>
    obtain rfl := Except.ok.inj hj <;> cases t' <;> rfl

theorem scalar_wire {v : Value} {j : Json} (hj : v.encode = .ok j) {t : ScalarType}
    (h : t.Holds v) : scalar form t (.ofJson j) = .ok v := by
  cases t <;> cases v <;> simp only [ScalarType.Holds] at h <;>
    obtain rfl := Except.ok.inj hj <;> rfl

theorem union_wire {v : Value} {j : Json} (hj : v.encode = .ok j) {first : ScalarType}
    {rest : List ScalarType} (h : ∃ t ∈ first :: rest, t.Holds v) :
    union form first rest (.ofJson j) = .ok v := by
  obtain ⟨t, ht, hholds⟩ := h
  -- one type takes the value as it is, so that no conversion is tried
  have hfound : (first :: rest).findSome? (fun t' => asIs? t' (.ofJson j)) = some v := by
    cases hsome : (first :: rest).findSome? fun t' => asIs? t' (.ofJson j) with
    | none =>
      have := List.findSome?_eq_none_iff.1 hsome t ht
      rw [asIs?_wire hj hholds, if_pos rfl] at this
      simp at this
    | some w =>
      obtain ⟨t', -, hw⟩ := List.exists_of_findSome?_eq_some hsome
      rw [asIs?_wire hj hholds] at hw
      split at hw
      · exact hw.symm
      · simp at hw
  simp only [union, hfound]

theorem id_wire (x : Snowflake) : id (.string x.format) = .ok x := by
  simp only [id, Snowflake.parse_format]

/-- The mask of a flag set is read as the set, with its unknown bits. -/
theorem flags_wire {s : FlagSet} (h : s.Sound) :
    flags s.flagClass (.integer s.toMask) = .ok (s, s.unknown != 0) := by
  simp only [flags, Payload.integer?, flagsOfMask, FlagSet.ofMask_toMask h]

theorem choice_wire {c : Choice} (h : c.InRange) {j : Json} (hj : (Value.choice c).encode = .ok j) :
    choice (.ofJson j) = .ok c := by
  cases c <;> obtain rfl := Except.ok.inj hj
  · rfl
  · simp only [Payload.ofJson, choice, Payload.integer?]
    exact if_pos h
  · rfl

theorem messageType_wire (t : MessageType) : messageType (.integer t.value) = .ok t := by
  simp only [messageType, Payload.integer?, MessageType.ofValue?_value]

/-- A code is read from its value, and from the text of its value. -/
theorem code_integer {e : Enumeration} {n : Int} (h : e.holds (.number n) = true)
    (hp : integer p = .ok n) : code e p = .ok (.number n) := by
  simp only [Enumeration.holds, Bool.and_eq_true, decide_eq_true_eq, Bool.not_eq_true'] at h
  obtain ⟨hmem, hwords, hfits⟩ := h
  simp [code, hwords, number, hp, hfits, hmem]

theorem code_word {e : Enumeration} {s : String} (h : e.holds (.word s) = true) :
    code e (.string s) = .ok (.word s) := by
  simp only [Enumeration.holds, Bool.and_eq_true, decide_eq_true_eq] at h
  simp [code, h.2, word, h.1]

theorem code_wire {e : Enumeration} {c : Code} (h : e.holds c = true) {j : Json}
    (hj : (Value.code c).encode = .ok j) : code e (.ofJson j) = .ok c := by
  cases c with
  | number n =>
    obtain rfl := Except.ok.inj hj
    exact code_integer h rfl
  | word s =>
    obtain rfl := Except.ok.inj hj
    exact code_word h

theorem moment_wire {m : Moment} (h : m.HasWholeMinutes) : moment form (.string m.wire) = .ok m := by
  simp only [moment, Moment.parse?_wire h]

/-- The text of a key is read as the key. -/
theorem mapKey_wire {type : KeyType} {k : MapKey} (h : type.Holds k) :
    mapKey type k.wire = .ok k := by
  cases type with
  | text =>
    cases k <;> first | rfl | exact h.elim
  | id =>
    cases k with
    | id x =>
      change (id (.string x.format)).map MapKey.id = _
      rw [id_wire]
      rfl
    | _ => exact h.elim
  | code e =>
    cases k with
    | code c =>
      cases c with
      | number n =>
        -- a key is a text, so that a number comes back from its digits
        have hfits : Choice.FitsInteger n := by
          simp only [KeyType.Holds, Enumeration.holds, Bool.and_eq_true, decide_eq_true_eq] at h
          exact h.2.2
        have hread : integer (.string (toString n)) = .ok n := by
          simp only [integer, Text.readInteger_toString (length_toDigits_of_fitsInteger hfits)]
        change (code e (.string (toString n))).map MapKey.code = _
        rw [code_integer h hread]
        rfl
      | word s =>
        change (code e (.string s)).map MapKey.code = _
        rw [code_word h]
        rfl
    | _ => exact h.elim

theorem wire_injective {type : KeyType} {k k' : MapKey} (h : type.Holds k) (h' : type.Holds k')
    (hwire : k.wire = k'.wire) : k = k' := by
  have hkey := mapKey_wire h
  rw [hwire, mapKey_wire h'] at hkey
  exact (Except.ok.inj hkey).symm

end Conversion
end ChatRecords
