import RecordSchema.Calendar.Timestamp
import RecordSchema.Number.Shortest

set_option autoImplicit false

/-!
Dates as year, month and day with hyphens, timestamps in the form of RFC 3339. Years outside
0 to 9999 have a sign.
-/

namespace RecordSchema.Calendar

open RecordSchema.Number

def yearChars (year : Int) : List Char :=
  if 0 ≤ year ∧ year ≤ 9999 then paddedDigits 4 year.toNat
  else (if year < 0 then '-' else '+') :: paddedDigits 4 year.natAbs

def Date.chars (d : Date) : List Char :=
  yearChars d.year ++ '-' :: paddedDigits 2 d.month ++ '-' :: paddedDigits 2 d.day

def Date.text (d : Date) : String := String.ofList d.chars

/-- A fraction of a second with 3, 6 or 9 digits; nothing when it is zero. -/
def fractionChars (nanosecond : Nat) : List Char :=
  if nanosecond = 0 then []
  else if nanosecond % 1000000 = 0 then '.' :: paddedDigits 3 (nanosecond / 1000000)
  else if nanosecond % 1000 = 0 then '.' :: paddedDigits 6 (nanosecond / 1000)
  else '.' :: paddedDigits 9 nanosecond

def TimeOfDay.chars (t : TimeOfDay) : List Char :=
  let leap := 1000000000 ≤ t.nanosecond
  let second := if leap then t.second + 1 else t.second
  let nanosecond := if leap then t.nanosecond - 1000000000 else t.nanosecond
  paddedDigits 2 t.hour ++ ':' :: paddedDigits 2 t.minute ++ ':' :: paddedDigits 2 second ++
    fractionChars nanosecond

/-- Sign, hours and minutes; a part of a minute is rounded. -/
def offsetChars (offset : Int) : List Char :=
  let minutes := (offset.natAbs + 30) / 60
  (if offset < 0 then '-' else '+') ::
    paddedDigits 2 (minutes / 60) ++ ':' :: paddedDigits 2 (minutes % 60)

def Timestamp.chars (t : Timestamp) : List Char :=
  t.date.chars ++ 'T' :: t.time.chars ++ offsetChars t.offset

def Timestamp.text (t : Timestamp) : String := String.ofList t.chars

end RecordSchema.Calendar
