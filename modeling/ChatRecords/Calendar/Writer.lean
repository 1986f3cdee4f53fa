import ChatRecords.Calendar.Moment

/-!
# Writing moments

The date, the letter `T` and the time; microseconds, always six digits, only when they are
not zero; and the distance from universal time, if there is one.

## Main definitions

* `Moment.wire`: the form that records carry, where universal time is `Z`.
* `Moment.iso`: the form with numbers throughout, where universal time is `+00:00` and an
  offset may have seconds and microseconds.
-/

namespace ChatRecords
namespace Moment

/-- A number with leading zeros up to a width. -/
def padded (width n : Nat) : List Char :=
  let ds := Nat.toDigits 10 n
  List.replicate (width - ds.length) '0' ++ ds

/-- The date, the letter `T` and the time. -/
def localText (m : Moment) : List Char :=
  padded 4 m.date.year ++ '-' :: padded 2 m.date.month ++ '-' :: padded 2 m.date.day ++
    'T' :: padded 2 m.time.hour ++ ':' :: padded 2 m.time.minute ++ ':' :: padded 2 m.time.second ++
    (if m.time.microsecond = 0 then [] else '.' :: padded 6 m.time.microsecond)

/-- The sign, hours and minutes of an offset, its seconds unless they and what is below them are
zero, and its microseconds unless they are zero. -/
def offsetText (o : Offset) : List Char :=
  let size := o.microseconds.natAbs
  (if o.microseconds < 0 then '-' else '+') :: (padded 2 (size / 3600000000) ++
    ':' :: padded 2 (size / 60000000 % 60) ++
    (if size % 60000000 = 0 then []
    else ':' :: padded 2 (size / 1000000 % 60) ++
      (if size % 1000000 = 0 then [] else '.' :: padded 6 (size % 1000000))))

def wire (m : Moment) : String :=
  String.ofList (m.localText ++
    match m.offset with
    | none => []
    | some o => if o.microseconds = 0 then ['Z'] else offsetText o)

def iso (m : Moment) : String :=
  String.ofList (m.localText ++
    match m.offset with
    | none => []
    | some o => offsetText o)

end Moment
end ChatRecords
