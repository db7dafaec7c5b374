set_option autoImplicit false

/-!
Dates of the proleptic Gregorian calendar between two fixed years, with their ordinal in the year,
weekday and ISO week.
-/

namespace RecordSchema.Calendar

def leastYear : Int := -262143

def greatestYear : Int := 262142

def isLeapYear (year : Int) : Bool :=
  year % 4 == 0 && (year % 100 != 0 || year % 400 == 0)

def daysInYear (year : Int) : Nat := if isLeapYear year then 366 else 365

def daysInMonth (year : Int) (month : Nat) : Nat :=
  if month = 2 then (if isLeapYear year then 29 else 28)
  else if month = 4 ∨ month = 6 ∨ month = 9 ∨ month = 11 then 30
  else 31

abbrev ValidDate (year : Int) (month day : Nat) : Prop :=
  (leastYear ≤ year ∧ year ≤ greatestYear) ∧ (1 ≤ month ∧ month ≤ 12) ∧
    1 ≤ day ∧ day ≤ daysInMonth year month

structure Date where
  year : Int
  month : Nat
  day : Nat
  valid : ValidDate year month day
  deriving DecidableEq

/-- Weekdays count from Monday. -/
abbrev Weekday := Fin 7

def monday : Weekday := ⟨0, by decide⟩

def sunday : Weekday := ⟨6, by decide⟩

namespace Date

def ofParts? (year : Int) (month day : Nat) : Option Date :=
  if h : ValidDate year month day then some ⟨year, month, day, h⟩ else none

def daysBeforeMonth (year : Int) : Nat → Nat
  | m + 2 => daysBeforeMonth year (m + 1) + daysInMonth year (m + 1)
  | _ => 0

/-- The number of the day in its year, from 1. -/
def ordinal (d : Date) : Nat := daysBeforeMonth d.year d.month + d.day

/-- Walks through the months from the given one until the day falls inside. -/
def ofOrdinalFrom? (year : Int) : Nat → Nat → Nat → Option Date
  | 0, _, _ => none
  | months + 1, month, day =>
      if day ≤ daysInMonth year month then ofParts? year month day
      else ofOrdinalFrom? year months (month + 1) (day - daysInMonth year month)

def ofOrdinal? (year : Int) (ordinal : Nat) : Option Date :=
  ofOrdinalFrom? year 12 1 ordinal

/-- Days from the first of January of year 1, a Monday, to the first of January of a year. -/
def daysBeforeYear (year : Int) : Int :=
  let past := year - 1
  365 * past + past / 4 - past / 100 + past / 400

def firstWeekday (year : Int) : Weekday :=
  ⟨(daysBeforeYear year % 7).toNat, by omega⟩

def weekdayOfOrdinal (year : Int) (ordinal : Nat) : Weekday :=
  ⟨((daysBeforeYear year + ordinal - 1) % 7).toNat, by omega⟩

def weekday (d : Date) : Weekday := weekdayOfOrdinal d.year d.ordinal

/-- A year has 53 ISO weeks when it starts on a Thursday, or on a Wednesday if it is a leap year. -/
def isoWeeks (year : Int) : Nat :=
  let first := (firstWeekday year).val
  if first = 3 ∨ (first = 2 ∧ isLeapYear year) then 53 else 52

/-- The year and number of the ISO week. -/
def isoWeek (d : Date) : Int × Nat :=
  let week := (d.ordinal + 10 - (d.weekday.val + 1)) / 7
  if week = 0 then (d.year - 1, isoWeeks (d.year - 1))
  else if week = 53 ∧ isoWeeks d.year = 52 then (d.year + 1, 1)
  else (d.year, week)

/-- The number of the week that starts on `start`; days before the first such day are in week 0. -/
def weekFrom (d : Date) (start : Weekday) : Nat :=
  (d.ordinal + 6 - (d.weekday - start).val) / 7

def ofIsoWeek? (year : Int) (week : Nat) (weekday : Weekday) : Option Date :=
  if leastYear ≤ year ∧ year ≤ greatestYear ∧ 1 ≤ week ∧ week ≤ isoWeeks year then
    -- The first ISO week holds the fourth of January.
    let first : Int := 4 - (weekdayOfOrdinal year 4).val
    let ordinal := first + 7 * (week - 1) + weekday.val
    if ordinal ≤ 0 then ofOrdinal? (year - 1) (ordinal + daysInYear (year - 1)).toNat
    else if ordinal ≤ daysInYear year then ofOrdinal? year ordinal.toNat
    else ofOrdinal? (year + 1) (ordinal - daysInYear year).toNat
  else none

def quarter (d : Date) : Nat := (d.month + 2) / 3

def pred? (d : Date) : Option Date :=
  if d.day ≠ 1 then ofParts? d.year d.month (d.day - 1)
  else if d.month ≠ 1 then ofParts? d.year (d.month - 1) (daysInMonth d.year (d.month - 1))
  else ofParts? (d.year - 1) 12 31

def succ? (d : Date) : Option Date :=
  (ofParts? d.year d.month (d.day + 1)).orElse fun _ =>
    (ofParts? d.year (d.month + 1) 1).orElse fun _ => ofParts? (d.year + 1) 1 1

end Date

end RecordSchema.Calendar
