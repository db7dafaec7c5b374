import RecordSchema.Text.Blank

set_option autoImplicit false

/-!
Templates say how a date is laid out. A specifier is a percent sign and a letter; blanks stand for
any number of blanks; any other character stands for itself.
-/

namespace RecordSchema.Calendar

inductive NumericField where
  | year
  | century
  | yearOfCentury
  | isoYear
  | isoYearOfCentury
  | quarter
  | month
  | day
  | weekFromSunday
  | weekFromMonday
  | isoWeek
  | weekdayFromSunday
  | weekdayFromMonday
  | ordinal
  | hour
  | hour12
  | minute
  | second
  | nanosecond
  | secondsSinceEpoch
  deriving DecidableEq

inductive Item where
  | literal (c : Char)
  | blanks
  | number (field : NumericField)
  | monthName (long : Bool)
  | weekdayName (long : Bool)
  | halfDay
  /-- A point and up to nine digits, or nothing. -/
  | fraction
  /-- A point and exactly so many digits, or nothing. -/
  | fractionOf (digits : Nat)
  /-- Exactly so many digits of a fraction, without a point. -/
  | bareFraction (digits : Nat)
  | zoneName
  | offset
  /-- An offset whose minutes may be missing, or the letter Z. -/
  | looseOffset
  /-- A whole timestamp. -/
  | timestamp
  deriving DecidableEq

abbrev Template := List Item

namespace Template

def clock : Template :=
  [.number .hour, .literal ':', .number .minute, .literal ':', .number .second]

def americanDate : Template :=
  [.number .month, .literal '/', .number .day, .literal '/', .number .yearOfCentury]

/-- Specifiers of one number. They may have a mark for padding, which reading ignores. -/
def numericField? (c : Char) : Option NumericField :=
  match c with
  | 'C' => some .century
  | 'G' => some .isoYear
  | 'H' | 'k' => some .hour
  | 'I' | 'l' => some .hour12
  | 'M' => some .minute
  | 'S' => some .second
  | 'U' => some .weekFromSunday
  | 'V' => some .isoWeek
  | 'W' => some .weekFromMonday
  | 'Y' => some .year
  | 'd' | 'e' => some .day
  | 'f' => some .nanosecond
  | 'g' => some .isoYearOfCentury
  | 'j' => some .ordinal
  | 'm' => some .month
  | 'q' => some .quarter
  | 's' => some .secondsSinceEpoch
  | 'u' => some .weekdayFromMonday
  | 'w' => some .weekdayFromSunday
  | 'y' => some .yearOfCentury
  | _ => none

def otherItems? (c : Char) : Option Template :=
  match c with
  | 'A' => some [.weekdayName true]
  | 'B' => some [.monthName true]
  | 'D' | 'x' => some americanDate
  | 'F' => some [.number .year, .literal '-', .number .month, .literal '-', .number .day]
  | 'P' | 'p' => some [.halfDay]
  | 'R' => some [.number .hour, .literal ':', .number .minute]
  | 'T' | 'X' => some clock
  | 'Z' => some [.zoneName]
  | 'a' => some [.weekdayName false]
  | 'b' | 'h' => some [.monthName false]
  | 'c' =>
      some ([.weekdayName false, .blanks, .monthName false, .blanks, .number .day, .blanks] ++
        clock ++ [.blanks, .number .year])
  | 'n' | 't' => some [.blanks]
  | 'r' =>
      some [.number .hour12, .literal ':', .number .minute, .literal ':', .number .second,
        .blanks, .halfDay]
  | 'v' =>
      some [.number .day, .literal '-', .monthName false, .literal '-', .number .year]
  | 'z' => some [.offset]
  | '+' => some [.timestamp]
  | '%' => some [.literal '%']
  | _ => none

/-- Specifiers with a number of digits. -/
def digitCount? (c : Char) : Option Nat :=
  match c with
  | '3' => some 3
  | '6' => some 6
  | '9' => some 9
  | _ => none

/-- The items of the specifier after a percent sign, and how many characters it takes. -/
def specifier? : List Char → Option (Template × Nat)
  | '.' :: 'f' :: _ => some ([.fraction], 2)
  | '.' :: d :: 'f' :: _ => (digitCount? d).map fun n => ([.fractionOf n], 3)
  | '#' :: 'z' :: _ => some ([.looseOffset], 2)
  | ':' :: 'z' :: _ => some ([.offset], 2)
  | ':' :: ':' :: 'z' :: _ => some ([.offset], 3)
  | ':' :: ':' :: ':' :: 'z' :: _ => some ([.offset], 4)
  | '-' :: c :: _ | '0' :: c :: _ | '_' :: c :: _ =>
      (numericField? c).map fun field => ([.number field], 2)
  | c :: rest =>
      match digitCount? c, rest with
      | some n, 'f' :: _ => some ([.bareFraction n], 2)
      | some _, _ => none
      | none, _ =>
          match numericField? c with
          | some field => some ([.number field], 1)
          | none => (otherItems? c).map fun items => (items, 1)
  | [] => none

/-- The items of a template; none when it has an unknown specifier. -/
def read? : List Char → Option Template
  | [] => some []
  | '%' :: rest =>
      match specifier? rest with
      | some (items, taken) => (read? (rest.drop taken)).map (items ++ ·)
      | none => none
  | c :: rest => (read? rest).map ((if Text.isBlank c then .blanks else .literal c) :: ·)
termination_by cs => cs.length
decreasing_by
  all_goals
    simp only [List.length_cons, List.length_drop]
    omega

def ofText? (s : String) : Option Template := read? s.toList

end Template

end RecordSchema.Calendar
