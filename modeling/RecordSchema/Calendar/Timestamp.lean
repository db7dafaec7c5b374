import RecordSchema.Calendar.Date

set_option autoImplicit false

/-!
Times of day and timestamps. A leap second is the last second of a minute with a billion
nanoseconds added.
-/

namespace RecordSchema.Calendar

structure TimeOfDay where
  hour : Nat
  minute : Nat
  second : Nat
  nanosecond : Nat
  valid : hour < 24 ∧ minute < 60 ∧ second < 60 ∧
    (nanosecond < 1000000000 ∨ (second = 59 ∧ nanosecond < 2000000000))
  deriving DecidableEq

namespace TimeOfDay

def ofParts? (hour minute second nanosecond : Nat) : Option TimeOfDay :=
  if h : hour < 24 ∧ minute < 60 ∧ second < 60 ∧
      (nanosecond < 1000000000 ∨ (second = 59 ∧ nanosecond < 2000000000)) then
    some ⟨hour, minute, second, nanosecond, h⟩
  else none

def midnight : TimeOfDay := ⟨0, 0, 0, 0, by decide⟩

def secondOfDay (t : TimeOfDay) : Nat := t.hour * 3600 + t.minute * 60 + t.second

end TimeOfDay

/-- A local date and time with its offset from UTC in seconds. -/
structure Timestamp where
  date : Date
  time : TimeOfDay
  offset : Int
  offset_lt : -86400 < offset ∧ offset < 86400
  deriving DecidableEq

namespace Timestamp

/-- The same moment in UTC has to have a date, too. -/
def ofLocal? (date : Date) (time : TimeOfDay) (offset : Int) : Option Timestamp :=
  if h : -86400 < offset ∧ offset < 86400 then
    let second : Int := (time.secondOfDay : Int) - offset
    let reachable :=
      if second < 0 then date.pred?.isSome
      else if 86400 ≤ second then date.succ?.isSome
      else true
    if reachable then some ⟨date, time, offset, h⟩ else none
  else none

def ofUtc (date : Date) (time : TimeOfDay) : Timestamp :=
  ⟨date, time, 0, by decide⟩

end Timestamp

end RecordSchema.Calendar
