import ChatRecords.Calendar.Moment
import Mathlib.Algebra.BigOperators.Group.List.Basic
import Mathlib.Algebra.GroupWithZero.Nat
import Mathlib.Order.Monotone.Basic

/-!
# Days and dates

The days of the calendar, counted from the first one, and their dates: every count below the number
of days has a date, and the date has that count. From this follows that every instant of the
calendar has a moment that denotes it.

## Main results

* `Date.ofOrdinal?_of_lt`: the date of a day, and its ordinal.
* `Moment.ofInstant?_of_lt`: the moment of an instant, and its instant.
-/

namespace ChatRecords

/-! ## Years -/

theorem daysBeforeYear_succ (past : Nat) :
    daysBeforeYear (past + 1) = 365 * past + past / 4 - past / 100 + past / 400 := rfl

theorem isLeapYear_iff (year : Nat) :
    isLeapYear year = true ↔ year % 4 = 0 ∧ (year % 100 ≠ 0 ∨ year % 400 = 0) := by
  simp [isLeapYear]

theorem sum_monthLengths (year : Nat) :
    (monthLengths year).sum = if isLeapYear year then 366 else 365 := by
  cases h : isLeapYear year <;> simp [monthLengths, h]

/-- A year has as many days as its months have together. -/
theorem daysBeforeYear_add_sum {year : Nat} (h : 1 ≤ year) :
    daysBeforeYear year + (monthLengths year).sum = daysBeforeYear (year + 1) := by
  obtain ⟨past, rfl⟩ : ∃ past, year = past + 1 := ⟨year - 1, by omega⟩
  have hcenturies : past / 100 ≤ past / 4 := by omega
  -- each of the three counts of leap years goes up by one if its rule holds of the year
  rw [sum_monthLengths, daysBeforeYear_succ, daysBeforeYear_succ, Nat.succ_div (b := 4),
    Nat.succ_div (b := 100), Nat.succ_div (b := 400)]
  by_cases hleap : isLeapYear (past + 1) = true
  · obtain ⟨hfour, hcentury⟩ := isLeapYear_iff (past + 1) |>.1 hleap
    rw [if_pos hleap, if_pos (Nat.dvd_of_mod_eq_zero hfour)]
    split <;> split <;> omega
  · have hrule := mt (isLeapYear_iff (past + 1)).2 hleap
    rw [if_neg hleap]
    split <;> split <;> split <;> omega

theorem daysBeforeYear_mono {year year' : Nat} (h : year ≤ year') :
    daysBeforeYear year ≤ daysBeforeYear year' := by
  refine monotone_nat_of_le_succ (fun year => ?_) h
  cases year with
  | zero => decide
  | succ past => exact Nat.le.intro (daysBeforeYear_add_sum (Nat.succ_pos past))

namespace Date

/-- The search for a year stops at the one that the day lies in, if there is such a year among
those tried. -/
theorem yearFrom_spec (n fuel year : Nat) (hfirst : daysBeforeYear year ≤ n)
    (hlast : n < daysBeforeYear (year + fuel + 1)) :
    daysBeforeYear (yearFrom n fuel year) ≤ n ∧ n < daysBeforeYear (yearFrom n fuel year + 1) ∧
      year ≤ yearFrom n fuel year := by
  induction fuel generalizing year with
  | zero => exact ⟨hfirst, hlast, Nat.le_refl year⟩
  | succ fuel ih =>
    rw [yearFrom]
    split
    · next hnext =>
      have hlast' : n < daysBeforeYear (year + 1 + fuel + 1) := by
        rwa [show year + 1 + fuel + 1 = year + (fuel + 1) + 1 by omega]
      obtain ⟨hle, hlt, hyear⟩ := ih (year + 1) hnext hlast'
      exact ⟨hle, hlt, by omega⟩
    · next hnext => exact ⟨hfirst, Nat.lt_of_not_le hnext, Nat.le_refl year⟩

/-- A day lies in its year. -/
theorem yearOf_spec (n : Nat) :
    daysBeforeYear (yearOf n) ≤ n ∧ n < daysBeforeYear (yearOf n + 1) ∧ 1 ≤ yearOf n := by
  -- no year has more than 366 days, and none has fewer than 365
  have hfirst : daysBeforeYear (n / 366 + 1) ≤ n := by
    rw [daysBeforeYear_succ]
    omega
  have hlast : n < daysBeforeYear (n / 366 + 1 + (n / 365 - n / 366) + 1) := by
    rw [show n / 366 + 1 + (n / 365 - n / 366) + 1 = n / 365 + 1 + 1 by omega,
      daysBeforeYear_succ]
    omega
  obtain ⟨hle, hlt, hyear⟩ := yearFrom_spec n _ _ hfirst hlast
  exact ⟨hle, hlt, by rw [yearOf]; omega⟩

/-! ## Months -/

/-- The day of a year lies in a month, after the days of the months before it. -/
theorem monthAndDay_spec {lengths : List Nat} {day : Nat} (month : Nat) (h : day < lengths.sum) :
    ∃ i < lengths.length, ∃ rest < lengths.getD i 0,
      monthAndDay lengths month day = (month + i, rest + 1) ∧ (lengths.take i).sum + rest = day := by
  induction lengths generalizing month day with
  | nil => simp at h
  | cons length lengths ih =>
    rw [monthAndDay]
    split
    · next hday => exact ⟨0, by simp, day, by simpa using hday, rfl, by simp⟩
    · next hday =>
      have hsum : day - length < lengths.sum := by
        rw [List.sum_cons] at h
        omega
      obtain ⟨i, hi, rest, hrest, heq, hbefore⟩ := ih (month + 1) hsum
      refine ⟨i + 1, by simpa using hi, rest, by simpa using hrest, ?_, ?_⟩
      · rw [heq]
        congr 1
        omega
      · rw [List.take_succ_cons, List.sum_cons]
        omega

/-! ## Dates -/

/-- Every day of the calendar has a date, and the date has the ordinal of the day. -/
theorem ofOrdinal?_of_lt {n : Nat} (h : n < dayCount) :
    ∃ d, ofOrdinal? n = some d ∧ d.ordinal = n := by
  obtain ⟨hle, hlt, hyear⟩ := yearOf_spec n
  have hmax : yearOf n ≤ 9999 := by
    by_contra hbeyond
    have := daysBeforeYear_mono (show 10000 ≤ yearOf n by omega)
    rw [dayCount] at h
    omega
  have hday : n - daysBeforeYear (yearOf n) < (monthLengths (yearOf n)).sum := by
    have := daysBeforeYear_add_sum hyear
    omega
  obtain ⟨i, hi, rest, hrest, heq, hbefore⟩ := monthAndDay_spec 1 hday
  have hvalid : IsDate (yearOf n) (1 + i) (rest + 1) := by
    have hmonths : i < 12 := hi
    have hlength : daysInMonth (yearOf n) (1 + i) = (monthLengths (yearOf n)).getD i 0 := by
      rw [daysInMonth, if_neg (by omega), Nat.add_sub_cancel_left]
    refine ⟨hyear, hmax, by omega, by omega, by omega, ?_⟩
    omega
  refine ⟨⟨yearOf n, 1 + i, rest + 1, hvalid⟩, ?_, ?_⟩
  · rw [ofOrdinal?, if_pos h]
    simp only [heq]
    rw [of?, dif_pos hvalid]
  · rw [ordinal]
    simp only [daysBeforeMonth, ← List.sum_eq_foldl_nat, Nat.add_sub_cancel_left,
      Nat.add_sub_cancel]
    omega

end Date

/-! ## Moments -/

namespace TimeOfDay

theorem ofMicroseconds?_of_lt {n : Nat} (h : n < Moment.microsecondsPerDay) :
    ∃ t, ofMicroseconds? n = some t ∧ t.microseconds = n := by
  rw [Moment.microsecondsPerDay] at h
  have hvalid : IsTimeOfDay (n / 3600000000) (n / 60000000 % 60) (n / 1000000 % 60)
      (n % 1000000) := by
    refine ⟨?_, ?_, ?_, ?_⟩ <;> omega
  refine ⟨⟨_, _, _, _, hvalid⟩, ?_, ?_⟩
  · rw [ofMicroseconds?, of?, dif_pos hvalid]
  · simp only [microseconds]
    omega

end TimeOfDay

namespace Moment

/-- Every instant of the calendar is denoted by a moment in universal time. -/
theorem ofInstant?_of_lt {n : Int} (hfirst : 0 ≤ n + (epochOrdinal * microsecondsPerDay : Nat))
    (hlast : n + (epochOrdinal * microsecondsPerDay : Nat) <
      (Date.dayCount * microsecondsPerDay : Nat)) :
    ∃ m, ofInstant? n = some m ∧ m.offset = some .utc ∧ m.instant = n := by
  obtain ⟨k, hk⟩ := Int.eq_ofNat_of_zero_le hfirst
  have hlt : k < Date.dayCount * microsecondsPerDay := by omega
  have hpos : 0 < microsecondsPerDay := by decide
  obtain ⟨date, hdate, hordinal⟩ := Date.ofOrdinal?_of_lt (Nat.div_lt_of_lt_mul
    (Nat.mul_comm _ _ ▸ hlt))
  obtain ⟨time, htime, hmicroseconds⟩ := TimeOfDay.ofMicroseconds?_of_lt (Nat.mod_lt k hpos)
  refine ⟨⟨date, time, some .utc⟩, ?_, rfl, ?_⟩
  · simp only [ofInstant?, hk, Int.toNat_natCast, hdate, htime]
    rw [if_neg (by omega)]
  · simp only [instant, localMicroseconds, hordinal, hmicroseconds, Option.map_some,
      Option.getD_some, Offset.utc, microsecondsPerDay, epochOrdinal] at hk ⊢
    omega

end Moment
end ChatRecords
