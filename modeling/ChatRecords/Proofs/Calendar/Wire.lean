import ChatRecords.Calendar.Reader
import ChatRecords.Calendar.Writer
import ChatRecords.Proofs.Text.Decimal

/-!
# Moments on the wire

A moment reads back from the form that records carry. The form has no place for the seconds of an
offset, and no moment that was read has any.

## Main definitions

* `Moment.HasWholeMinutes`: the offset, if there is one, is a whole number of minutes.

## Main results

* `Moment.parse?_wire`: the wire form reads back.
* `Moment.hasWholeMinutes_of_parse?`: a moment that was read has an offset of whole minutes.
-/

namespace ChatRecords
namespace Moment

open Text

/-- The offset, if there is one, is a whole number of minutes. -/
def HasWholeMinutes (m : Moment) : Prop := ∀ o ∈ m.offset, o.microseconds % 60000000 = 0

/-! ## Padded numbers -/

theorem padded_one {n : Nat} (h : n < 10) : padded 1 n = [n.digitChar] := by
  simp [padded, Nat.toDigits_of_lt_base h]

theorem padded_succ (width n : Nat) :
    padded (width + 2) n = padded (width + 1) (n / 10) ++ [(n % 10).digitChar] := by
  by_cases h : n < 10
  · have hdiv : n / 10 = 0 := by omega
    have hmod : n % 10 = n := by omega
    rw [padded, padded, hdiv, hmod, Nat.toDigits_of_lt_base h, Nat.toDigits_zero]
    simp [List.replicate_succ']
  · rw [padded, padded, Nat.toDigits_of_base_le (by decide) (by omega)]
    simp

theorem padded_two {n : Nat} (h : n < 100) :
    padded 2 n = [(n / 10).digitChar, (n % 10).digitChar] := by
  rw [padded_succ, padded_one (by omega)]
  rfl

theorem padded_four {n : Nat} (h : n < 10000) :
    padded 4 n = [(n / 1000).digitChar, (n / 100 % 10).digitChar, (n / 10 % 10).digitChar,
      (n % 10).digitChar] := by
  have h100 : n / 10 / 10 = n / 100 := by omega
  have h1000 : n / 100 / 10 = n / 1000 := by omega
  rw [padded_succ, padded_succ, padded_succ, h100, h1000, padded_one (by omega)]
  rfl

theorem allDigits_padded (width n : Nat) : AllDigits (padded width n) :=
  (allDigits_replicate _).append (allDigits_toDigits n)

theorem natOfDigits_padded (width n : Nat) : natOfDigits (padded width n) = n := by
  rw [padded, natOfDigits_zeros (allDigits_toDigits n), natOfDigits_toDigits]

theorem length_padded {width n : Nat} (hwidth : 0 < width) (h : n < 10 ^ width) :
    (padded width n).length = width := by
  have := length_toDigits_le hwidth h
  simp only [padded, List.length_append, List.length_replicate]
  omega

theorem twoDigits?_digitChar {a b : Nat} (ha : a < 10) (hb : b < 10) :
    twoDigits? a.digitChar b.digitChar = some (10 * a + b) := by
  simp [twoDigits?, asciiDigit?_digitChar ha, asciiDigit?_digitChar hb]

theorem twoDigits?_padded {n : Nat} (h : n < 100) :
    twoDigits? (n / 10).digitChar (n % 10).digitChar = some n := by
  rw [twoDigits?_digitChar (by omega) (by omega)]
  congr 1
  omega

/-! ## The parts of a moment -/

theorem daysInMonth_le (year month : Nat) : daysInMonth year month ≤ 31 := by
  have hall : ∀ l ∈ monthLengths year, l ≤ 31 := by
    cases h : isLeapYear year <;> simp [monthLengths, h]
  rw [daysInMonth]
  split
  · omega
  · rw [List.getD_eq_getElem?_getD]
    cases hmonth : (monthLengths year)[month - 1]? with
    | none => simp
    | some l => exact hall l (List.mem_of_getElem? hmonth)

theorem parseDate?_append (d : Date) (rest : List Char) :
    parseDate? (padded 4 d.year ++ '-' :: padded 2 d.month ++ '-' :: padded 2 d.day ++ rest) =
      some (d, rest) := by
  obtain ⟨year, month, day, hvalid⟩ := d
  obtain ⟨-, hyear, -, hmonth, -, hday⟩ := id hvalid
  have hday' := daysInMonth_le year month
  have hcentury : twoDigits? (year / 1000).digitChar (year / 100 % 10).digitChar =
      some (year / 100) := by
    rw [twoDigits?_digitChar (by omega) (by omega)]
    congr 1
    omega
  have hyears : twoDigits? (year / 10 % 10).digitChar (year % 10).digitChar =
      some (year % 100) := by
    rw [twoDigits?_digitChar (by omega) (by omega)]
    congr 1
    omega
  have hsum : 100 * (year / 100) + year % 100 = year := by omega
  simp only [padded_four (show year < 10000 by omega), padded_two (show month < 100 by omega),
    padded_two (show day < 100 by omega), List.cons_append, List.nil_append, parseDate?, hcentury,
    hyears, twoDigits?_padded (show month < 100 by omega),
    twoDigits?_padded (show day < 100 by omega), Option.bind_eq_bind, Option.bind_some, hsum,
    Date.of?, dif_pos hvalid, Option.pure_def]

theorem microsecondsOf_padded {n : Nat} (h : n < 1000000) : microsecondsOf (padded 6 n) = n := by
  have hlength := length_padded (show 0 < 6 by decide) (show n < 10 ^ 6 by omega)
  rw [microsecondsOf, List.take_append_of_le_length (by omega), List.take_of_length_le (by omega),
    natOfDigits_padded]

/-- The text of a time of day. -/
def timeText (t : TimeOfDay) : List Char :=
  padded 2 t.hour ++ ':' :: padded 2 t.minute ++ ':' :: padded 2 t.second ++
    (if t.microsecond = 0 then [] else '.' :: padded 6 t.microsecond)

/-- What may follow a time of day: neither a digit nor a decimal point or comma. -/
def EndsTime (rest : List Char) : Prop :=
  ∀ c ∈ rest.head?, isAsciiDigit c = false ∧ c ≠ '.' ∧ c ≠ ','

theorem parseTime?_append (t : TimeOfDay) {rest : List Char} (hrest : EndsTime rest) :
    parseTime? (timeText t ++ rest) = some (t, rest) := by
  obtain ⟨hour, minute, second, microsecond, hvalid⟩ := t
  obtain ⟨hhour, hminute, hsecond, hmicrosecond⟩ := id hvalid
  simp only [timeText, padded_two (show hour < 100 by omega),
    padded_two (show minute < 100 by omega), padded_two (show second < 100 by omega)]
  by_cases hzero : microsecond = 0
  · -- nothing that follows is taken for a fraction of a second
    subst hzero
    cases rest with
    | nil =>
      simp [parseTime?, twoDigits?_padded (show hour < 100 by omega),
        twoDigits?_padded (show minute < 100 by omega),
        twoDigits?_padded (show second < 100 by omega), TimeOfDay.of?, hvalid]
    | cons c rest =>
      obtain ⟨-, hpoint, hcomma⟩ := hrest c rfl
      simp [parseTime?, twoDigits?_padded (show hour < 100 by omega),
        twoDigits?_padded (show minute < 100 by omega),
        twoDigits?_padded (show second < 100 by omega), TimeOfDay.of?, hvalid, hpoint, hcomma]
  · have hdigits : NoDigit rest := fun c hc => (hrest c hc).1
    have hne : padded 6 microsecond ≠ [] := by simp [padded]
    simp [parseTime?, twoDigits?_padded (show hour < 100 by omega),
      twoDigits?_padded (show minute < 100 by omega),
      twoDigits?_padded (show second < 100 by omega), hzero,
      takeWhile_digits (allDigits_padded 6 microsecond) hdigits,
      dropWhile_digits (allDigits_padded 6 microsecond) hdigits, hne,
      microsecondsOf_padded hmicrosecond, TimeOfDay.of?, hvalid]

def zoneText (offset : Option Offset) : List Char :=
  match offset with
  | none => []
  | some o => if o.microseconds = 0 then ['Z'] else offsetText o

theorem endsTime_zoneText (offset : Option Offset) : EndsTime (zoneText offset) := by
  cases offset with
  | none => simp [EndsTime, zoneText]
  | some o =>
    simp only [zoneText]
    split
    · simpa [EndsTime] using by decide
    · simp only [offsetText]
      split <;> simpa [EndsTime] using by decide

theorem parseOffsetSize?_padded {size : Nat} (hminutes : size % 60000000 = 0)
    (hday : size < 86400000000) :
    parseOffsetSize? (padded 2 (size / 3600000000) ++ ':' :: padded 2 (size / 60000000 % 60)) =
      some (size / 1000000) := by
  have hsize : (size / 3600000000 * 60 + size / 60000000 % 60) * 60 = size / 1000000 := by omega
  have hlt : size / 60000000 % 60 < 60 := by omega
  simp only [padded_two (show size / 3600000000 < 100 by omega),
    padded_two (show size / 60000000 % 60 < 100 by omega), List.cons_append, List.nil_append,
    parseOffsetSize?, twoDigits?_padded (show size / 3600000000 < 100 by omega),
    twoDigits?_padded (show size / 60000000 % 60 < 100 by omega), Option.bind_eq_bind,
    Option.bind_some, hlt, if_true, hsize, Option.pure_def]

theorem map_some_eq_bind (o : Option Offset) :
    o.map some = o.bind fun offset => some (some offset) := Option.map_eq_bind

theorem parseOffset?_minus (cs : List Char) : parseOffset? ('-' :: cs) =
    (parseOffsetSize? cs).bind fun size => (Offset.of? (-(size : Int))).map some := by
  cases cs <;> simp only [map_some_eq_bind] <;> rfl

theorem parseOffset?_plus (cs : List Char) : parseOffset? ('+' :: cs) =
    (parseOffsetSize? cs).bind fun size => (Offset.of? size).map some := by
  cases cs <;> simp only [map_some_eq_bind] <;> rfl

/-- An offset of whole seconds is the offset of its seconds. -/
theorem of?_seconds {o : Offset} {seconds : Int} (h : seconds * 1000000 = o.microseconds) :
    Offset.of? seconds = some o := by
  obtain ⟨microseconds, hvalid⟩ := o
  obtain rfl : seconds * 1000000 = microseconds := h
  rw [Offset.of?, dif_pos (by omega)]

theorem parseOffset?_zoneText {offset : Option Offset}
    (h : ∀ o ∈ offset, o.microseconds % 60000000 = 0) :
    parseOffset? (zoneText offset) = some offset := by
  cases offset with
  | none => rfl
  | some o =>
    have hminutes : o.microseconds % 60000000 = 0 := h _ rfl
    have hvalid := o.valid
    simp only [zoneText]
    split
    · next hzero =>
      have hutc : o = .utc := by
        cases o
        simpa [Offset.utc] using hzero
      rw [hutc]
      rfl
    · next hzero =>
      -- without seconds the text is that of hours and minutes
      have hnatAbs : o.microseconds.natAbs % 60000000 = 0 := by omega
      have hsize := parseOffsetSize?_padded hnatAbs
        (show o.microseconds.natAbs < 86400000000 by omega)
      simp only [offsetText, hnatAbs, if_true, List.append_nil]
      split
      · next hneg =>
        rw [parseOffset?_minus, hsize, Option.bind_some, of?_seconds (o := o) (by omega),
          Option.map_some]
      · next hneg =>
        rw [parseOffset?_plus, hsize, Option.bind_some, of?_seconds (o := o) (by omega),
          Option.map_some]

theorem wire_eq (m : Moment) : m.wire.toList =
    padded 4 m.date.year ++ '-' :: padded 2 m.date.month ++ '-' :: padded 2 m.date.day ++
      'T' :: (timeText m.time ++ zoneText m.offset) := by
  rw [wire, String.toList_ofList, localText, timeText]
  cases m.offset <;> simp [zoneText]

/-- The wire form of a moment reads back. -/
theorem parse?_wire {m : Moment} (h : m.HasWholeMinutes) : parse? m.wire = some m := by
  have hcalendar : parseCalendar? m.wire.toList = some m := by
    rw [wire_eq, parseCalendar?, parseDate?_append]
    simp [isDateTimeSeparator, parseTime?_append m.time (endsTime_zoneText m.offset),
      parseOffset?_zoneText h]
  rw [parse?, hcalendar]

/-! ## Moments that were read -/

theorem hasWholeMinutes_of_ofInstant? {n : Int} {m : Moment} (h : ofInstant? n = some m) :
    m.HasWholeMinutes := by
  simp only [ofInstant?] at h
  split at h
  · simp at h
  · split at h
    · rw [← Option.some.inj h]
      intro o ho
      obtain rfl : Offset.utc = o := by simpa using ho
      rfl
    · simp at h

theorem hasWholeMinutes_of_ofCount? {n : Int} {m : Moment} (h : ofCount? n = some m) :
    m.HasWholeMinutes := by
  unfold ofCount? ofSeconds? at h
  split at h <;> exact hasWholeMinutes_of_ofInstant? h

theorem hasWholeMinutes_of_ofReal? {x : Double} {m : Moment} (h : ofReal? x = some m) :
    m.HasWholeMinutes := by
  unfold ofReal? ofSeconds? at h
  split at h
  · dsimp only at h
    split at h <;> exact hasWholeMinutes_of_ofInstant? h
  · simp at h

theorem parseOffsetSize?_mod {cs : List Char} {size : Nat} (h : parseOffsetSize? cs = some size) :
    size % 60 = 0 := by
  have hof {a b : Option Nat} (h : (do
      let hours ← a
      let minutes ← b
      if minutes < 60 then pure ((hours * 60 + minutes) * 60) else none) = some size) :
      size % 60 = 0 := by
    cases a with
    | none => simp at h
    | some hours =>
      cases b with
      | none => simp at h
      | some minutes =>
        simp only [Option.bind_eq_bind, Option.bind_some, Option.pure_def] at h
        split at h
        · rw [← Option.some.inj h]
          omega
        · simp at h
  unfold parseOffsetSize? at h
  split at h
  · exact hof h
  · exact hof h
  · simp at h

theorem of?_mod {seconds : Int} {o : Offset} (hmod : seconds % 60 = 0)
    (h : Offset.of? seconds = some o) : o.microseconds % 60000000 = 0 := by
  unfold Offset.of? at h
  split at h
  · rw [← Option.some.inj h]
    dsimp only
    omega
  · simp at h

theorem parseOffset?_mod {cs : List Char} {offset : Option Offset}
    (h : parseOffset? cs = some offset) : ∀ o ∈ offset, o.microseconds % 60000000 = 0 := by
  intro o ho
  obtain rfl : offset = some o := ho
  unfold parseOffset? at h
  split at h
  · simp at h
  · rw [← Option.some.inj (Option.some.inj h)]
    rfl
  · rw [← Option.some.inj (Option.some.inj h)]
    rfl
  · simp only [Option.bind_eq_bind, Option.bind_eq_some_iff, Option.pure_def,
      Option.some.injEq] at h
    obtain ⟨size, hsize, o', ho', rfl⟩ := h
    have hmod := parseOffsetSize?_mod hsize
    exact of?_mod (by omega) ho'
  · split at h
    · simp only [Option.bind_eq_bind, Option.bind_eq_some_iff, Option.pure_def,
        Option.some.injEq] at h
      obtain ⟨size, hsize, o', ho', rfl⟩ := h
      have hmod := parseOffsetSize?_mod hsize
      exact of?_mod (by omega) ho'
    · simp at h

theorem hasWholeMinutes_of_parseCalendar? {cs : List Char} {m : Moment}
    (h : parseCalendar? cs = some m) : m.HasWholeMinutes := by
  unfold parseCalendar? at h
  simp only [Option.bind_eq_bind, Option.bind_eq_some_iff, Option.pure_def] at h
  obtain ⟨⟨date, rest⟩, -, h⟩ := h
  dsimp only at h
  split at h
  · rw [← Option.some.inj h]
    simp [HasWholeMinutes]
  · split at h
    · simp only [Option.bind_eq_some_iff, Option.some.injEq] at h
      obtain ⟨⟨time, rest⟩, -, offset, hoffset, rfl⟩ := h
      exact parseOffset?_mod hoffset
    · simp at h

theorem hasWholeMinutes_of_parseCount? {cs : List Char} {m : Moment}
    (h : parseCount? cs = some m) : m.HasWholeMinutes := by
  unfold parseCount? at h
  extract_lets negative body whole n at h
  split at h
  · simp at h
  · split at h
    · split at h
      · simp at h
      · exact hasWholeMinutes_of_ofCount? h
    · obtain ⟨d, -, h⟩ := Option.bind_eq_some_iff.1 h
      exact hasWholeMinutes_of_ofReal? h
    · simp at h

/-- A moment that was read has an offset of whole minutes, if any. -/
theorem hasWholeMinutes_of_parse? {s : String} {m : Moment} (h : parse? s = some m) :
    m.HasWholeMinutes := by
  unfold parse? at h
  split at h
  · next hcalendar =>
    rw [← Option.some.inj h]
    exact hasWholeMinutes_of_parseCalendar? hcalendar
  · exact hasWholeMinutes_of_parseCount? h

end Moment
end ChatRecords
