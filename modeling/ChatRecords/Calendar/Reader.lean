import ChatRecords.Calendar.Moment
import ChatRecords.Double.Arithmetic
import ChatRecords.Text.Numeral

/-!
# Reading moments

A moment is written as a date, or as a date and a time with an optional distance from
universal time. A number, or a text that is a number, counts from the start of 1970, universal
time: seconds if it is small enough, else milliseconds.

## Main definitions

* `Moment.parse?`: a moment from its calendar form or from the text of a number.
* `Moment.ofCount?`: a moment from a whole number of seconds or milliseconds.
* `Moment.ofReal?`: a moment from a real number of seconds or milliseconds.
-/

namespace ChatRecords
namespace Moment

/-- The largest size of a number that counts seconds; beyond it a number counts milliseconds. -/
def secondsLimit : Nat := 20000000000

/-- The moment that is `seconds`, and a number of microseconds more, after the start of 1970. -/
def ofSeconds? (seconds : Int) (microseconds : Nat) : Option Moment :=
  ofInstant? (seconds * 1000000 + microseconds)

/-- The moment that a whole number of seconds or milliseconds is after the start of 1970. -/
def ofCount? (count : Int) : Option Moment :=
  if count.natAbs ≤ secondsLimit then ofSeconds? count 0
  else ofSeconds? (Int.fdiv count 1000) ((Int.fmod count 1000).toNat * 1000)

/-- The microseconds in a part of a second or of some milliseconds that is given in units, where
one holds `perOne` of them: their product as a double, rounded to a whole number. A half goes
up. -/
def microsecondsOfPart (part perOne : Nat) : Nat :=
  match Double.round false (part * perOne) 1 with
  | .finite _ product => (2 * product.units + Double.unitsPerOne) / (2 * Double.unitsPerOne)
  | _ => 0

/-- The moment that a real number of seconds or milliseconds is after the start of 1970: the
floor of the seconds, and the microseconds above it. -/
def ofReal? (x : Double) : Option Moment :=
  match x.units? with
  | some n =>
    let second : Int := Double.unitsPerOne
    if n.natAbs ≤ secondsLimit * Double.unitsPerOne then
      ofSeconds? (n / second) (microsecondsOfPart (n % second).toNat 1000000)
    else ofSeconds? (n / (1000 * second)) (microsecondsOfPart (n % (1000 * second)).toNat 1000)
  | none => none

def twoDigits? (a b : Char) : Option Nat := do
  let a ← Text.asciiDigit? a
  let b ← Text.asciiDigit? b
  pure (10 * a + b)

/-- A date `YYYY-MM-DD` at the front of a text. -/
def parseDate? : List Char → Option (Date × List Char)
  | y1 :: y2 :: y3 :: y4 :: '-' :: m1 :: m2 :: '-' :: d1 :: d2 :: rest => do
    let century ← twoDigits? y1 y2
    let year ← twoDigits? y3 y4
    let month ← twoDigits? m1 m2
    let day ← twoDigits? d1 d2
    let date ← Date.of? (100 * century + year) month day
    pure (date, rest)
  | _ => none

/-- The microseconds that a run of digits after the point denotes; digits beyond the sixth are
dropped. -/
def microsecondsOf (ds : List Char) : Nat :=
  Text.natOfDigits ((ds ++ List.replicate 6 '0').take 6)

/-- A time `HH:MM`, `HH:MM:SS` or `HH:MM:SS` with a fraction at the front of a text. -/
def parseTime? : List Char → Option (TimeOfDay × List Char)
  | h1 :: h2 :: ':' :: m1 :: m2 :: rest => do
    let hour ← twoDigits? h1 h2
    let minute ← twoDigits? m1 m2
    match rest with
    | ':' :: s1 :: s2 :: rest =>
      let second ← twoDigits? s1 s2
      match rest with
      | c :: rest =>
        if c = '.' ∨ c = ',' then
          let ds := rest.takeWhile Text.isAsciiDigit
          if ds.isEmpty then none
          else do
            let time ← TimeOfDay.of? hour minute second (microsecondsOf ds)
            pure (time, rest.dropWhile Text.isAsciiDigit)
        else do
          let time ← TimeOfDay.of? hour minute second 0
          pure (time, c :: rest)
      | [] => do
        let time ← TimeOfDay.of? hour minute second 0
        pure (time, [])
    | ':' :: _ => none
    | rest => do
      let time ← TimeOfDay.of? hour minute 0 0
      pure (time, rest)
  | _ => none

/-- The hours and minutes of an offset, with or without a colon between them, as seconds. -/
def parseOffsetSize? : List Char → Option Nat
  | [h1, h2, ':', m1, m2] | [h1, h2, m1, m2] => do
    let hours ← twoDigits? h1 h2
    let minutes ← twoDigits? m1 m2
    if minutes < 60 then pure ((hours * 60 + minutes) * 60) else none
  | _ => none

/-- The rest of a text as an offset: nothing, a `Z`, or a sign and a size. The minus sign has
two forms. -/
def parseOffset? : List Char → Option (Option Offset)
  | [] => some none
  | ['Z'] | ['z'] => some (some .utc)
  | '+' :: rest => do
    let size ← parseOffsetSize? rest
    let offset ← Offset.of? size
    pure (some offset)
  | c :: rest =>
    if c = '-' ∨ c = '\u2212' then do
      let size ← parseOffsetSize? rest
      let offset ← Offset.of? (-(size : Int))
      pure (some offset)
    else none

/-- Whether a character may stand between a date and a time. -/
def isDateTimeSeparator (c : Char) : Bool := c = 'T' || c = 't' || c = ' ' || c = '_'

def parseCalendar? (cs : List Char) : Option Moment := do
  let (date, rest) ← parseDate? cs
  match rest with
  | [] => pure ⟨date, .midnight, none⟩
  | c :: rest =>
    if isDateTimeSeparator c then do
      let (time, rest) ← parseTime? rest
      let offset ← parseOffset? rest
      pure ⟨date, time, offset⟩
    else none

/-- The size of the whole parts of numbers that may be counted in: those of 64-bit words with a
sign. -/
def countLimit : Nat := 2 ^ 63

/-- A moment from the text of a number after an optional sign: digits alone, or a real number
with a point and perhaps an exponent. -/
def parseCount? (cs : List Char) : Option Moment :=
  let negative := cs.head? = some '-'
  let cs := if negative ∨ cs.head? = some '+' then cs.tail else cs
  let whole := cs.takeWhile Text.isAsciiDigit
  let n := Text.natOfDigits whole
  if countLimit ≤ n then none
  else
    match cs.dropWhile Text.isAsciiDigit with
    | [] => if whole.isEmpty then none else ofCount? (if negative then -n else n)
    | '.' :: _ => (Text.readDecimal? cs).bind fun d => ofReal? (Double.ofDecimal negative d)
    | _ => none

def parse? (s : String) : Option Moment :=
  match parseCalendar? s.toList with
  | some m => some m
  | none => parseCount? s.toList

end Moment
end ChatRecords
