import ChatRecords.Proofs.Calendar.Days
import Mathlib.Algebra.Order.BigOperators.Group.List
import Mathlib.Algebra.Order.Group.Nat
import Mathlib.Data.List.GetD
import Mathlib.Data.List.Lex

/-!
# The order of moments

Days come in the order of their years, months and days of the month, and times of day in the order
of their hours, minutes, seconds and microseconds. So moments with one offset come in the order of
their fields, which is that of the instants they denote, across the ends of days, months and years.

## Main definitions

* `Moment.SameInstant`: two moments denote one instant, with different offsets perhaps.

## Main results

* `Date.ordinal_lt_iff`: the order of days is that of their fields.
* `Moment.localMicroseconds_lt_iff`: so is the order of moments with one offset.
* `Moment.precedes?_eq`: one moment precedes another if its instant does.
-/

namespace ChatRecords

/-- A count that goes up with the fields of what it counts has their order. -/
theorem lt_iff_fields_lt {α β : Type} [LinearOrder β] (fields : α → List Nat) (count : α → β)
    (hmono : ∀ {a b}, fields a < fields b → count a < count b)
    (hcongr : ∀ {a b}, fields a = fields b → count a = count b) {a b : α} :
    count a < count b ↔ fields a < fields b := by
  refine ⟨fun h => ?_, hmono⟩
  rcases lt_trichotomy (fields a) (fields b) with hlt | heq | hgt
  · exact hlt
  · exact absurd h (hcongr heq).not_lt
  · exact absurd h (hmono hgt).not_gt

/-! ## Months -/

theorem daysBeforeMonth_eq (year month : Nat) :
    daysBeforeMonth year month = ((monthLengths year).take (month - 1)).sum :=
  List.sum_eq_foldl_nat.symm

/-- A month is followed by the next one. -/
theorem daysBeforeMonth_add {year month : Nat} (hfirst : 1 ≤ month) (hlast : month ≤ 12) :
    daysBeforeMonth year month + daysInMonth year month = daysBeforeMonth year (month + 1) := by
  obtain ⟨i, rfl⟩ : ∃ i, month = i + 1 := ⟨month - 1, by omega⟩
  have hi : i < (monthLengths year).length := hlast
  rw [daysBeforeMonth_eq, daysBeforeMonth_eq, daysInMonth, if_neg (by omega), Nat.add_sub_cancel,
    Nat.add_sub_cancel, List.sum_take_succ _ _ hi, List.getD_eq_getElem _ _ hi]

theorem daysBeforeMonth_mono (year : Nat) {month month' : Nat} (h : month ≤ month') :
    daysBeforeMonth year month ≤ daysBeforeMonth year month' := by
  rw [daysBeforeMonth_eq, daysBeforeMonth_eq]
  exact (List.take_sublist_take_left (Nat.sub_le_sub_right h 1)).sum_le_sum fun _ _ => Nat.zero_le _

namespace Date

variable {d d' : Date}

/-! ## Dates -/

/-- A day lies before the first of the next month. -/
theorem ordinal_lt_nextMonth (d : Date) :
    d.ordinal < daysBeforeYear d.year + daysBeforeMonth d.year (d.month + 1) := by
  obtain ⟨-, -, hfirst, hlast, hday, hlength⟩ := d.valid
  rw [ordinal, ← daysBeforeMonth_add hfirst hlast]
  omega

/-- A day lies before the first of the next year. -/
theorem ordinal_lt_nextYear (d : Date) : d.ordinal < daysBeforeYear (d.year + 1) := by
  obtain ⟨hyear, -, -, hlast, -, -⟩ := d.valid
  have hmonth : daysBeforeMonth d.year (d.month + 1) ≤ daysBeforeMonth d.year 13 :=
    daysBeforeMonth_mono d.year (Nat.succ_le_succ hlast)
  have hyears : daysBeforeMonth d.year 13 = (monthLengths d.year).sum := daysBeforeMonth_eq _ _
  have hlt := d.ordinal_lt_nextMonth
  rw [← daysBeforeYear_add_sum hyear, ← hyears]
  omega

theorem ordinal_lt_of_year_lt (h : d.year < d'.year) : d.ordinal < d'.ordinal := by
  have hlt := d.ordinal_lt_nextYear
  have hle : daysBeforeYear (d.year + 1) ≤ daysBeforeYear d'.year := daysBeforeYear_mono h
  rw [ordinal.eq_1 d']
  omega

theorem ordinal_lt_of_month_lt (hyear : d.year = d'.year) (h : d.month < d'.month) :
    d.ordinal < d'.ordinal := by
  have hlt := d.ordinal_lt_nextMonth
  have hle : daysBeforeMonth d.year (d.month + 1) ≤ daysBeforeMonth d.year d'.month :=
    daysBeforeMonth_mono d.year h
  rw [ordinal.eq_1 d', ← hyear]
  omega

theorem ordinal_lt_of_day_lt (hyear : d.year = d'.year) (hmonth : d.month = d'.month)
    (h : d.day < d'.day) : d.ordinal < d'.ordinal := by
  obtain ⟨-, -, -, -, hday, -⟩ := d.valid
  rw [ordinal, ordinal, hyear, hmonth]
  omega

theorem fields_inj : d.fields = d'.fields ↔ d = d' := by
  obtain ⟨year, month, day, -⟩ := d
  obtain ⟨year', month', day', -⟩ := d'
  simp [fields]

theorem ordinal_lt_of_fields_lt (h : d.fields < d'.fields) : d.ordinal < d'.ordinal := by
  simp only [fields, List.cons_lt_cons_iff, List.lt_irrefl, and_false, or_false] at h
  obtain hyear | ⟨hyear, hmonth | ⟨hmonth, hday⟩⟩ := h
  · exact ordinal_lt_of_year_lt hyear
  · exact ordinal_lt_of_month_lt hyear hmonth
  · exact ordinal_lt_of_day_lt hyear hmonth hday

/-- The order of days is that of their fields. -/
theorem ordinal_lt_iff : d.ordinal < d'.ordinal ↔ d.fields < d'.fields :=
  lt_iff_fields_lt fields ordinal ordinal_lt_of_fields_lt fun h => by rw [fields_inj.1 h]

end Date

/-! ## Times of day -/

namespace TimeOfDay

variable {t t' : TimeOfDay}

theorem fields_inj : t.fields = t'.fields ↔ t = t' := by
  obtain ⟨hour, minute, second, microsecond, -⟩ := t
  obtain ⟨hour', minute', second', microsecond', -⟩ := t'
  simp [fields]

theorem microseconds_lt (t : TimeOfDay) : t.microseconds < Moment.microsecondsPerDay := by
  obtain ⟨hour, minute, second, microsecond, hvalid⟩ := t
  obtain ⟨hhour, hminute, hsecond, hmicrosecond⟩ := hvalid
  simp only [microseconds, Moment.microsecondsPerDay]
  omega

/-- The order of times of day is that of their fields. -/
theorem microseconds_lt_iff : t.microseconds < t'.microseconds ↔ t.fields < t'.fields := by
  obtain ⟨hour, minute, second, microsecond, -, hminute, hsecond, hmicrosecond⟩ := t
  obtain ⟨hour', minute', second', microsecond', -, hminute', hsecond', hmicrosecond'⟩ := t'
  simp only [microseconds, fields, List.cons_lt_cons_iff, List.lt_irrefl, and_false, or_false]
  omega

end TimeOfDay

namespace Moment

variable {m m' a b : Moment}

/-! ## Moments -/

/-- Moments are compared by their days, and by their times of day if the days are the same. -/
theorem fields_lt_iff : m.fields < m'.fields ↔ m.date.fields < m'.date.fields ∨
    m.date.fields = m'.date.fields ∧ m.time.fields < m'.time.fields := by
  simp only [fields, Date.fields, List.cons_append, List.nil_append, List.cons_lt_cons_iff,
    List.cons.injEq, List.lt_irrefl, and_false, or_false, and_true]
  tauto

theorem localMicroseconds_lt_of_fields_lt (h : m.fields < m'.fields) :
    m.localMicroseconds < m'.localMicroseconds := by
  have hlt := m.time.microseconds_lt
  simp only [localMicroseconds, microsecondsPerDay] at hlt ⊢
  rw [fields_lt_iff, ← Date.ordinal_lt_iff, ← TimeOfDay.microseconds_lt_iff, Date.fields_inj] at h
  obtain hdate | ⟨hdate, htime⟩ := h
  · omega
  · rw [hdate]
    omega

theorem localMicroseconds_eq_of_fields_eq (h : m.fields = m'.fields) :
    m.localMicroseconds = m'.localMicroseconds := by
  obtain ⟨hdate, htime⟩ := List.append_inj h rfl
  rw [localMicroseconds, localMicroseconds, Date.fields_inj.1 hdate, TimeOfDay.fields_inj.1 htime]

/-- The order of moments with one offset is that of their fields. -/
theorem localMicroseconds_lt_iff :
    m.localMicroseconds < m'.localMicroseconds ↔ m.fields < m'.fields :=
  lt_iff_fields_lt fields localMicroseconds localMicroseconds_lt_of_fields_lt
    localMicroseconds_eq_of_fields_eq

/-- Two moments denote one instant, and both or neither have a distance from universal time. -/
def SameInstant (m m' : Moment) : Prop := m'.isAware = m.isAware ∧ m'.instant = m.instant

/-- One moment precedes another if its instant does. -/
theorem precedes?_eq (a b : Moment) : a.precedes? b =
    if a.isAware = b.isAware then some (decide (a.instant < b.instant)) else none := by
  unfold precedes?
  split
  · next hoffset =>
    -- what is added to both for their offset does not change their order
    have hinstant : a.instant < b.instant ↔ a.fields < b.fields := by
      rw [← localMicroseconds_lt_iff, instant, instant, hoffset]
      omega
    have haware : a.isAware = b.isAware := by rw [isAware, isAware, hoffset]
    rw [if_pos haware, decide_eq_decide.2 hinstant]
  · next hoffset =>
    obtain ⟨_, _, _ | _⟩ := a <;> obtain ⟨_, _, _ | _⟩ := b
    · exact absurd rfl hoffset
    all_goals rfl

theorem SameInstant.precedes?_eq {a' b' : Moment} (ha : a.SameInstant a') (hb : b.SameInstant b') :
    a'.precedes? b' = a.precedes? b := by
  rw [Moment.precedes?_eq, Moment.precedes?_eq, ha.1, ha.2, hb.1, hb.2]

end Moment
end ChatRecords
