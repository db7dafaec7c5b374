import RecordSchema.Calendar.Timestamp

set_option autoImplicit false

/-!
What a text said about a date and a time, field by field, and the date or time that follows. A
field once set may only be set to the same value again; a date is computed from the first
sufficient group of fields and must agree with all others.
-/

namespace RecordSchema.Calendar

inductive FieldFault where
  | notEnough
  | impossible
  | outOfRange
  deriving DecidableEq

structure Fields where
  year : Option Int := none
  century : Option Int := none
  yearOfCentury : Option Int := none
  isoYear : Option Int := none
  isoYearOfCentury : Option Int := none
  quarter : Option Nat := none
  month : Option Nat := none
  weekFromSunday : Option Nat := none
  weekFromMonday : Option Nat := none
  isoWeek : Option Nat := none
  weekday : Option Weekday := none
  ordinal : Option Nat := none
  day : Option Nat := none
  halfDay : Option Nat := none
  hourOfHalf : Option Nat := none
  minute : Option Nat := none
  second : Option Nat := none
  nanosecond : Option Nat := none
  secondsSinceEpoch : Option Int := none
  offset : Option Int := none
  deriving DecidableEq

abbrev Settled := Except FieldFault

def settle {α : Type} [DecidableEq α] (old : Option α) (new : α) : Settled (Option α) :=
  match old with
  | some value => if value = new then .ok old else .error .impossible
  | none => .ok (some new)

def checkRange (low high : Nat) (value : Int) : Settled Nat :=
  if low ≤ value ∧ value ≤ high then .ok value.toNat else .error .outOfRange

def checkInt32 (value : Int) : Settled Int :=
  if -2147483648 ≤ value ∧ value ≤ 2147483647 then .ok value else .error .outOfRange

namespace Fields

def setYear (f : Fields) (value : Int) : Settled Fields := do
  let year ← settle f.year (← checkInt32 value)
  return { f with year }

def setCentury (f : Fields) (value : Int) : Settled Fields := do
  let century ← settle f.century (← checkInt32 value)
  return { f with century }

def setYearOfCentury (f : Fields) (value : Int) : Settled Fields := do
  let yearOfCentury ← settle f.yearOfCentury (Int.ofNat (← checkRange 0 99 value))
  return { f with yearOfCentury }

def setIsoYear (f : Fields) (value : Int) : Settled Fields := do
  let isoYear ← settle f.isoYear (← checkInt32 value)
  return { f with isoYear }

def setIsoYearOfCentury (f : Fields) (value : Int) : Settled Fields := do
  let isoYearOfCentury ← settle f.isoYearOfCentury (Int.ofNat (← checkRange 0 99 value))
  return { f with isoYearOfCentury }

def setQuarter (f : Fields) (value : Int) : Settled Fields := do
  let quarter ← settle f.quarter (← checkRange 1 4 value)
  return { f with quarter }

def setMonth (f : Fields) (value : Int) : Settled Fields := do
  let month ← settle f.month (← checkRange 1 12 value)
  return { f with month }

def setWeekFromSunday (f : Fields) (value : Int) : Settled Fields := do
  let weekFromSunday ← settle f.weekFromSunday (← checkRange 0 53 value)
  return { f with weekFromSunday }

def setWeekFromMonday (f : Fields) (value : Int) : Settled Fields := do
  let weekFromMonday ← settle f.weekFromMonday (← checkRange 0 53 value)
  return { f with weekFromMonday }

def setIsoWeek (f : Fields) (value : Int) : Settled Fields := do
  let isoWeek ← settle f.isoWeek (← checkRange 1 53 value)
  return { f with isoWeek }

def setWeekday (f : Fields) (value : Weekday) : Settled Fields := do
  let weekday ← settle f.weekday value
  return { f with weekday }

/-- The weekday counted from Sunday as 0. -/
def setWeekdayFromSunday (f : Fields) (value : Int) : Settled Fields := do
  let n ← checkRange 0 6 value
  f.setWeekday ⟨(n + 6) % 7, by omega⟩

/-- The weekday counted from Monday as 1. -/
def setWeekdayFromMonday (f : Fields) (value : Int) : Settled Fields := do
  let n ← checkRange 1 7 value
  f.setWeekday ⟨(n + 6) % 7, by omega⟩

def setOrdinal (f : Fields) (value : Int) : Settled Fields := do
  let ordinal ← settle f.ordinal (← checkRange 1 366 value)
  return { f with ordinal }

def setDay (f : Fields) (value : Int) : Settled Fields := do
  let day ← settle f.day (← checkRange 1 31 value)
  return { f with day }

def setHalfDay (f : Fields) (afternoon : Bool) : Settled Fields := do
  let halfDay ← settle f.halfDay (if afternoon then 1 else 0)
  return { f with halfDay }

def setHour12 (f : Fields) (value : Int) : Settled Fields := do
  let n ← checkRange 1 12 value
  let hourOfHalf ← settle f.hourOfHalf (n % 12)
  return { f with hourOfHalf }

def setHour (f : Fields) (value : Int) : Settled Fields := do
  let n ← checkRange 0 23 value
  let halfDay ← settle f.halfDay (n / 12)
  let hourOfHalf ← settle f.hourOfHalf (n % 12)
  return { f with halfDay, hourOfHalf }

def setMinute (f : Fields) (value : Int) : Settled Fields := do
  let minute ← settle f.minute (← checkRange 0 59 value)
  return { f with minute }

def setSecond (f : Fields) (value : Int) : Settled Fields := do
  let second ← settle f.second (← checkRange 0 60 value)
  return { f with second }

def setNanosecond (f : Fields) (value : Int) : Settled Fields := do
  let nanosecond ← settle f.nanosecond (← checkRange 0 999999999 value)
  return { f with nanosecond }

def setSecondsSinceEpoch (f : Fields) (value : Int) : Settled Fields := do
  let secondsSinceEpoch ← settle f.secondsSinceEpoch value
  return { f with secondsSinceEpoch }

def setOffset (f : Fields) (value : Int) : Settled Fields := do
  let offset ← settle f.offset (← checkInt32 value)
  return { f with offset }

end Fields

/-- The year from a full year, a century and a year of the century, any of which may be unknown.
A year of the century alone lies between 1970 and 2069. -/
def resolveYear (year century yearOfCentury : Option Int) : Settled (Option Int) :=
  match year, century, yearOfCentury with
  | y, none, none => .ok y
  | some y, q, r =>
      if y < 0 then .error .impossible
      else if q.getD (y / 100) = y / 100 ∧ r.getD (y % 100) = y % 100 then .ok (some y)
      else .error .impossible
  | none, some q, some r =>
      if q < 0 then .error .impossible
      else if 2147483647 < q * 100 + r then .error .outOfRange
      else .ok (some (q * 100 + r))
  | none, none, some r => .ok (some (r + if r < 70 then 2000 else 1900))
  | none, some _, none => .error .notEnough

/-- The date in a week of a year, where weeks start on `start` and days before the first such day
are in week 0. -/
def dateInWeek (year : Int) (week : Nat) (weekday start : Weekday) : Settled Date :=
  if 53 < week then .error .outOfRange
  else if leastYear ≤ year ∧ year ≤ greatestYear then
    let firstStart : Int := 1 + (start - Date.firstWeekday year).val
    let ordinal := firstStart + ((week : Int) - 1) * 7 + (weekday - start).val
    if ordinal ≤ 0 then .error .impossible
    else
      match Date.ofOrdinal? year ordinal.toNat with
      | some date => .ok date
      | none => .error .impossible
  else .error .outOfRange

def agrees {α : Type} [DecidableEq α] (field : Option α) (value : α) : Bool :=
  field.all fun v => decide (v = value)

/-- A part of a year that only years from 0 on have. -/
def agreesIfPositive (field : Option Int) (year part : Int) : Bool :=
  field.all fun v => decide (0 ≤ year ∧ v = part)

namespace Fields

def agreesDay (f : Fields) (d : Date) : Bool :=
  agrees f.year d.year && agreesIfPositive f.century d.year (d.year / 100) &&
    agreesIfPositive f.yearOfCentury d.year (d.year % 100) &&
    agrees f.month d.month && agrees f.day d.day

def agreesIsoWeek (f : Fields) (d : Date) : Bool :=
  let week := d.isoWeek
  agrees f.isoYear week.1 && agreesIfPositive f.isoYearOfCentury week.1 (week.1 % 100) &&
    agrees f.isoWeek week.2 && agrees f.weekday d.weekday

def agreesOrdinal (f : Fields) (d : Date) : Bool :=
  agrees f.ordinal d.ordinal && agrees f.weekFromSunday (d.weekFrom sunday) &&
    agrees f.weekFromMonday (d.weekFrom monday)

def orOutOfRange : Option Date → Settled Date
  | some d => .ok d
  | none => .error .outOfRange

/-- The date of the first sufficient group of fields. -/
def candidate (f : Fields) (year isoYear : Option Int) : Settled Date :=
  match year, f.month, f.day, f.ordinal with
  | some y, some m, some d, _ => orOutOfRange (Date.ofParts? y m d)
  | some y, _, _, some o =>
      orOutOfRange (if 1 ≤ o then Date.ofOrdinal? y o else none)
  | _, _, _, _ =>
      match year, f.weekFromSunday, f.weekFromMonday, f.weekday with
      | some y, some w, _, some d => dateInWeek y w d sunday
      | some y, _, some w, some d => dateInWeek y w d monday
      | _, _, _, _ =>
          match isoYear, f.isoWeek, f.weekday with
          | some y, some w, some d => orOutOfRange (Date.ofIsoWeek? y w d)
          | _, _, _ => .error .notEnough

def date (f : Fields) : Settled Date := do
  let year ← resolveYear f.year f.century f.yearOfCentury
  let isoYear ← resolveYear f.isoYear none f.isoYearOfCentury
  let d ← f.candidate year isoYear
  if f.agreesDay d && f.agreesIsoWeek d && f.agreesOrdinal d && agrees f.quarter d.quarter then
    return d
  else
    throw .impossible

/-- Seconds may be missing, but not where a fraction of a second is given. -/
def time (f : Fields) : Settled TimeOfDay :=
  match f.halfDay, f.hourOfHalf, f.minute with
  | some half, some hour, some minute =>
      match f.second, f.nanosecond with
      | none, some _ => .error .notEnough
      | second, nanosecond =>
          let second := second.getD 0
          let leap := second = 60
          match TimeOfDay.ofParts? (half * 12 + hour) minute (if leap then 59 else second)
              ((if leap then 1000000000 else 0) + nanosecond.getD 0) with
          | some t => .ok t
          | none => .error .outOfRange
  | _, _, _ => .error .notEnough

def timestamp (f : Fields) : Settled Timestamp := do
  match f.offset with
  | none => throw .notEnough
  | some offset =>
      let date ← f.date
      let time ← f.time
      match Timestamp.ofLocal? date time offset with
      | some t => return t
      | none => throw .impossible

end Fields

end RecordSchema.Calendar
