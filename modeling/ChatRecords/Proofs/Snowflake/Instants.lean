import ChatRecords.Proofs.Calendar.Days
import ChatRecords.Snowflake
import Mathlib.Data.Nat.Bitwise

/-!
# Identifiers of instants

A moment has a least identifier if its millisecond is one that identifiers can hold. That identifier
depends on the instant alone, and it divides the identifiers into those made before the millisecond
and those made in it or later.

## Main definitions

* `Moment.milliseconds`: the millisecond that a moment lies in.
* `Moment.located`: the moment with its distance from universal time.

## Main results

* `Snowflake.ofMoment_least`: when a moment has an identifier, and which one.
-/

namespace ChatRecords

namespace Moment

/-- The milliseconds from the start of 1970 to the moment, rounded down. -/
def milliseconds (m : Moment) : Int := m.instant / 1000

/-- The moment with its distance from universal time: a naive moment is in universal time. -/
def located (m : Moment) : Moment := if m.isAware then m else { m with offset := some .utc }

theorem instant_located (m : Moment) : m.located.instant = m.instant := by
  obtain ⟨date, time, offset⟩ := m
  cases offset <;> rfl

theorem located_located (m : Moment) : m.located.located = m.located := by
  obtain ⟨date, time, offset⟩ := m
  cases offset <;> rfl

theorem milliseconds_mono {m m' : Moment} (h : m.instant ≤ m'.instant) :
    m.milliseconds ≤ m'.milliseconds :=
  Int.ediv_le_ediv (by decide) h

end Moment

namespace Snowflake

theorem ofInt?_eq_some_iff {n : Int} {x : Snowflake} : ofInt? n = some x ↔ (x.raw : Int) = n := by
  have hlt := x.raw_lt
  unfold ofInt?
  split
  · next h =>
    rw [Option.some.injEq]
    constructor
    · rintro rfl
      exact Int.toNat_of_nonneg h.1
    · rintro rfl
      rfl
  · next h =>
    refine iff_of_false (by simp) ?_
    rintro rfl
    exact h ⟨by omega, by simpa using hlt⟩

theorem ofInt?_eq_none_iff {n : Int} : ofInt? n = none ↔ n < 0 ∨ 2 ^ 64 ≤ n := by
  unfold ofInt?
  split
  · next h =>
    refine iff_of_false (by simp) ?_
    omega
  · next h =>
    refine iff_of_true rfl ?_
    omega

/-! ## The identifier of a moment -/

theorem ofMoment_located (m : Moment) : ofMoment m.located = ofMoment m := by
  have h : (if m.located.isAware then m.located else { m.located with offset := some .utc }) =
    (if m.isAware then m else { m with offset := some .utc }) := m.located_located
  unfold ofMoment
  rw [h]

/-- What comes of a moment depends on its millisecond, counted from the first that identifiers can
hold. -/
theorem ofMoment_eq (m : Moment) : ofMoment m =
    if m.milliseconds < epochMs then .error (.early m.located)
    else
      match ofInt? ((m.milliseconds - epochMs) * 2 ^ 22) with
      | some x => .ok x
      | none => .error (.late ((m.milliseconds - epochMs) * 2 ^ 22)) := by
  have hms : Int.fdiv m.located.instant 1000 = m.milliseconds := by
    rw [Moment.instant_located, Int.fdiv_eq_ediv_of_nonneg _ (by decide)]
    rfl
  have hneg : m.milliseconds - epochMs < 0 ↔ m.milliseconds < epochMs := by omega
  unfold ofMoment
  rw [← Moment.located]
  simp only [hms]
  exact if_congr hneg rfl rfl

theorem ofMoment_early {m : Moment} (h : m.milliseconds < epochMs) :
    ofMoment m = .error (.early m.located) := by
  rw [ofMoment_eq, if_pos h]

theorem ofMoment_late {m : Moment} (h : epochMs + 2 ^ 42 ≤ m.milliseconds) :
    ofMoment m = .error (.late ((m.milliseconds - epochMs) * 2 ^ 22)) := by
  have hnone : ofInt? ((m.milliseconds - epochMs) * 2 ^ 22) = none :=
    ofInt?_eq_none_iff.2 (.inr (by omega))
  rw [ofMoment_eq, if_neg (by omega), hnone]

theorem ofMoment_eq_ok_iff {m : Moment} {f : Snowflake} : ofMoment m = .ok f ↔
    epochMs ≤ m.milliseconds ∧ (f.raw : Int) = (m.milliseconds - epochMs) * 2 ^ 22 := by
  rw [ofMoment_eq]
  split
  · next h =>
    refine iff_of_false (by simp) ?_
    omega
  · next h =>
    rw [← ofInt?_eq_some_iff]
    cases ofInt? ((m.milliseconds - epochMs) * 2 ^ 22) <;> simp [not_lt.1 h]

theorem exists_ofMoment_iff (m : Moment) : (∃ f, ofMoment m = .ok f) ↔
    epochMs ≤ m.milliseconds ∧ m.milliseconds < epochMs + 2 ^ 42 := by
  simp only [ofMoment_eq_ok_iff, exists_and_left, and_congr_right_iff]
  intro hle
  constructor
  · rintro ⟨f, hf⟩
    have := f.raw_lt
    omega
  · intro hlt
    exact ⟨⟨((m.milliseconds - epochMs) * 2 ^ 22).toNat, by omega⟩, by simp only; omega⟩

/-! ## Identifiers without low bits -/

/-- An identifier without low bits has only zeros below its millisecond, and those made in its
millisecond or later are the ones that are not less. -/
theorem fields_of_raw_eq (f : Snowflake) (ms : Nat) (h : f.raw = ms * 2 ^ 22) :
    f.workerId = 0 ∧ f.processId = 0 ∧ f.increment = 0 ∧ f.timestampMs = ms + epochMs ∧
      ∀ x : Snowflake, f.raw ≤ x.raw ↔ ms + epochMs ≤ x.timestampMs := by
  refine ⟨?_, ?_, ?_, ?_, fun x => ?_⟩
  · rw [workerId_eq, h]
    omega
  · rw [processId_eq, h]
    omega
  · rw [increment_eq, h]
    omega
  · rw [timestampMs_eq, h]
    omega
  · rw [h, timestampMs_eq]
    omega

/-! ## The moment of an identifier -/

/-- Every identifier has a moment, in universal time, at the start of its millisecond. -/
theorem exists_createdAt (x : Snowflake) : ∃ c, x.createdAt? = some c ∧ c.offset = some .utc ∧
    c.instant = x.timestampMs * 1000 := by
  have hlt := x.raw_lt
  have hdays : Moment.epochOrdinal * Moment.microsecondsPerDay = 62135596800000000 := by decide
  have hall : Date.dayCount * Moment.microsecondsPerDay = 315537897600000000 := by decide
  have hstamp : x.timestampMs < 2 ^ 42 + 1420070400000 := by
    rw [timestampMs_eq, epochMs]
    omega
  refine Moment.ofInstant?_of_lt ?_ ?_
  · rw [hdays]
    omega
  · rw [hdays, hall]
    omega

/-- The identifier of the moment of an identifier has its high bits and no low ones. -/
theorem ofMoment_createdAt {x : Snowflake} {c : Moment} (h : c.instant = x.timestampMs * 1000) :
    ∃ f, ofMoment c = .ok f ∧ f.raw = x.raw >>> 22 <<< 22 := by
  have hms : c.milliseconds = (x.raw / 2 ^ 22 : Nat) + epochMs := by
    rw [Moment.milliseconds, h, timestampMs_eq]
    omega
  have hlt := x.raw_lt
  rw [Nat.shiftRight_eq_div_pow, Nat.shiftLeft_eq]
  refine ⟨⟨x.raw / 2 ^ 22 * 2 ^ 22, by omega⟩, ofMoment_eq_ok_iff.2 ?_, rfl⟩
  rw [hms]
  dsimp only
  omega

/-- A moment has an identifier if and only if its millisecond is one of the 2 ^ 42 from the start of
2015 on; it is refused as too early or as too late otherwise. The identifier holds the millisecond
and zeros, so that an identifier is not less than it if and only if it was made in the millisecond
or later. It depends on the instant alone, a naive moment being in universal time, and does not
become less as time goes on. The moment of an identifier exists, and has the identifier that is left
of it when its low 22 bits are cleared. -/
theorem ofMoment_least (m : Moment) :
    ((∃ f, ofMoment m = .ok f) ↔
      (epochMs : Int) ≤ m.milliseconds ∧ m.milliseconds < epochMs + 2 ^ 42) ∧
    (m.milliseconds < epochMs → ofMoment m = .error (.early m.located)) ∧
    (epochMs + 2 ^ 42 ≤ m.milliseconds →
      ofMoment m = .error (.late ((m.milliseconds - epochMs) * 2 ^ 22))) ∧
    (∀ f, ofMoment m = .ok f → f.workerId = 0 ∧ f.processId = 0 ∧ f.increment = 0 ∧
      f.timestampMs = m.milliseconds ∧
      ∀ x : Snowflake, f.raw ≤ x.raw ↔ m.milliseconds ≤ x.timestampMs) ∧
    (m.offset = none → ofMoment m = ofMoment { m with offset := some .utc }) ∧
    (∀ m' : Moment, m'.instant = m.instant → ∀ f, ofMoment m' = .ok f ↔ ofMoment m = .ok f) ∧
    (∀ (m' : Moment) f f', m.instant ≤ m'.instant → ofMoment m = .ok f → ofMoment m' = .ok f' →
      f.raw ≤ f'.raw) ∧
    (∀ x : Snowflake, ∃ c, x.createdAt? = some c ∧ c.offset = some .utc ∧
      c.instant = x.timestampMs * 1000 ∧ ∃ f, ofMoment c = .ok f ∧ f.raw = x.raw >>> 22 <<< 22) := by
  refine ⟨exists_ofMoment_iff m, ofMoment_early, ofMoment_late, ?_, ?_, ?_, ?_, ?_⟩
  · intro f hf
    obtain ⟨hle, hraw⟩ := ofMoment_eq_ok_iff.1 hf
    obtain ⟨ms, hms⟩ := Int.eq_ofNat_of_zero_le (Int.sub_nonneg.2 hle)
    obtain ⟨hworker, hprocess, hincrement, hstamp, hleast⟩ :=
      fields_of_raw_eq f ms (by omega)
    refine ⟨hworker, hprocess, hincrement, by omega, fun x => ?_⟩
    rw [hleast]
    omega
  · intro hnaive
    have hlocated : m.located = { m with offset := some .utc } := by
      simp [Moment.located, Moment.isAware, hnaive]
    rw [← hlocated, ofMoment_located]
  · intro m' hinstant f
    rw [ofMoment_eq_ok_iff, ofMoment_eq_ok_iff, Moment.milliseconds, Moment.milliseconds, hinstant]
  · intro m' f f' hle hf hf'
    have hms := Moment.milliseconds_mono hle
    obtain ⟨-, hraw⟩ := ofMoment_eq_ok_iff.1 hf
    obtain ⟨-, hraw'⟩ := ofMoment_eq_ok_iff.1 hf'
    omega
  · intro x
    obtain ⟨c, hc, hutc, hinstant⟩ := exists_createdAt x
    exact ⟨c, hc, hutc, hinstant, ofMoment_createdAt hinstant⟩

/-- A moment a millisecond and a half into 2015, written west of universal time on the last day of
2014. -/
theorem ofMoment_least_of_offset :
    let m : Moment := ⟨⟨2014, 12, 31, by decide⟩, ⟨20, 34, 15, 1500, by decide⟩,
      some ⟨-12345000000, by decide⟩⟩
    let utc : Moment := ⟨⟨2015, 1, 1, by decide⟩, ⟨0, 0, 0, 1500, by decide⟩, none⟩
    let f : Snowflake := ⟨4194304, by decide⟩
    ofMoment m = .ok f ∧ ofMoment utc = .ok f ∧ f.timestampMs = 1420070400001 ∧
      ¬f.raw ≤ (⟨4194303, by decide⟩ : Snowflake).raw := by
  intro m utc f
  have hm : ofMoment m = .ok f := ofMoment_eq_ok_iff.2 (by decide +kernel)
  obtain ⟨-, -, -, hfields, -, hinstant, -, -⟩ := ofMoment_least m
  obtain ⟨-, -, -, hstamp, hleast⟩ := hfields f hm
  refine ⟨hm, (hinstant utc (by decide +kernel) f).2 hm, by decide, ?_⟩
  rw [hleast, ← hstamp]
  decide

end Snowflake
end ChatRecords
