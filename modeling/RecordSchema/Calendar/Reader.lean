import RecordSchema.Calendar.Fields
import RecordSchema.Calendar.Template
import RecordSchema.Number.Reader

set_option autoImplicit false

/-!
Reading dates and timestamps: by a template, by RFC 3339 and by RFC 2822. Each reader takes fields
off the front of the text and gives back what is left.
-/

namespace RecordSchema.Calendar

open RecordSchema.Text RecordSchema.Number

/-- What is left of a text together with what was read from it. -/
abbrev Scanned (α : Type) := Option (α × List Char)

namespace Scan

/-- At least `least` and at most `most` digits, as many as there are. -/
def number (cs : List Char) (least most : Nat) : Scanned Int :=
  let digits := (cs.take most).takeWhile Char.isDigit
  let value := digitsValue digits
  if digits.length < least ∨ 9223372036854775807 < value then none
  else some (value, cs.drop digits.length)

/-- A number with a sign may have any number of digits. -/
def signedNumber (cs : List Char) (most : Nat) : Scanned Int :=
  match cs with
  | '-' :: rest => (number rest 1 rest.length).map fun (n, left) => (-n, left)
  | '+' :: rest => number rest 1 rest.length
  | _ => number cs 1 most

def char (c : Char) : List Char → Option (List Char)
  | d :: rest => if c = d then some rest else none
  | [] => none

/-- At least one blank. -/
def blanks (cs : List Char) : Option (List Char) :=
  match cs with
  | c :: rest => if isBlank c then some (trimStart rest) else none
  | [] => none

/-- Drops a word from the front, whatever the case of its letters. -/
def word (w : List Char) (cs : List Char) : Option (List Char) :=
  if (cs.take w.length).map Char.toLower = w then some (cs.drop w.length) else none

/-- The first of some names that the text starts with: its place in the list and its ending. -/
def name (names : List (List Char × List Char)) (cs : List Char) : Scanned (Nat × List Char) :=
  (names.zipIdx).findSome? fun ((start, ending), place) =>
    (word start cs).map fun left => ((place, ending), left)

/-- As `name`, but takes the ending, too, if it is there. -/
def longName (names : List (List Char × List Char)) (long : Bool) (cs : List Char) : Scanned Nat :=
  (name names cs).map fun ((place, ending), left) =>
    (place, if long then (word ending left).getD left else left)

def months : List (List Char × List Char) :=
  [(['j', 'a', 'n'], ['u', 'a', 'r', 'y']), (['f', 'e', 'b'], ['r', 'u', 'a', 'r', 'y']),
   (['m', 'a', 'r'], ['c', 'h']), (['a', 'p', 'r'], ['i', 'l']), (['m', 'a', 'y'], []),
   (['j', 'u', 'n'], ['e']), (['j', 'u', 'l'], ['y']), (['a', 'u', 'g'], ['u', 's', 't']),
   (['s', 'e', 'p'], ['t', 'e', 'm', 'b', 'e', 'r']), (['o', 'c', 't'], ['o', 'b', 'e', 'r']),
   (['n', 'o', 'v'], ['e', 'm', 'b', 'e', 'r']), (['d', 'e', 'c'], ['e', 'm', 'b', 'e', 'r'])]

def weekdays : List (List Char × List Char) :=
  [(['m', 'o', 'n'], ['d', 'a', 'y']), (['t', 'u', 'e'], ['s', 'd', 'a', 'y']),
   (['w', 'e', 'd'], ['n', 'e', 's', 'd', 'a', 'y']), (['t', 'h', 'u'], ['r', 's', 'd', 'a', 'y']),
   (['f', 'r', 'i'], ['d', 'a', 'y']), (['s', 'a', 't'], ['u', 'r', 'd', 'a', 'y']),
   (['s', 'u', 'n'], ['d', 'a', 'y'])]

/-- The number of the month, from 1. -/
def month (long : Bool) (cs : List Char) : Scanned Int :=
  (longName months long cs).map fun (place, left) => ((place : Int) + 1, left)

def weekday (long : Bool) (cs : List Char) : Scanned Weekday :=
  (longName weekdays long cs).map fun (place, left) => (⟨place % 7, by omega⟩, left)

/-- Digits of a fraction as nanoseconds; digits after the ninth are dropped. -/
def fraction (cs : List Char) : Scanned Int :=
  (number cs 1 9).map fun (value, left) =>
    (value * Nat.pow 10 (9 - (cs.length - left.length)), left.dropWhile Char.isDigit)

def fractionOf (digits : Nat) (cs : List Char) : Scanned Int :=
  (number cs digits digits).map fun (value, left) => (value * Nat.pow 10 (9 - digits), left)

/-- Rules for the text of an offset. -/
structure OffsetRules where
  zulu : Bool := false
  missingMinutes : Bool := false
  minusSign : Bool := true
  /-- What stands between hours and minutes. -/
  between : List Char → Option (List Char)

def colonsAndBlanks (cs : List Char) : Option (List Char) :=
  some (cs.dropWhile fun c => c == ':' || isBlank c)

def isMinute (tens ones : Char) : Bool := '0' ≤ tens && tens ≤ '5' && ones.isDigit

/-- Sign, two digits for the hours, two for the minutes. -/
def offset (rules : OffsetRules) (cs : List Char) : Option (Int × List Char) := do
  if rules.zulu ∧ (cs.head? = some 'Z' ∨ cs.head? = some 'z') then
    return (0, cs.drop 1)
  let (negative, unsigned) ←
    match cs with
    | '+' :: rest => some (false, rest)
    | '-' :: rest => some (true, rest)
    | '−' :: rest => if rules.minusSign then some (true, rest) else none
    | _ => none
  let (hours, afterHours) ← number unsigned 2 2
  let rest ← rules.between afterHours
  let (minutes, left) ←
    match rest with
    | tens :: ones :: left =>
        if isMinute tens ones then some (digitsValue [tens, ones], left) else none
    | [] => if rules.missingMinutes then some (0, []) else none
    | _ => none
  let seconds := hours * 3600 + (minutes : Int) * 60
  return (if negative then -seconds else seconds, left)

def templateOffset : OffsetRules := { between := colonsAndBlanks }

def zuluOffset : OffsetRules := { zulu := true, between := colonsAndBlanks }

def looseOffset : OffsetRules := { zulu := true, missingMinutes := true, between := colonsAndBlanks }

end Scan

def setNumber (field : NumericField) (f : Fields) (value : Int) : Settled Fields :=
  match field with
  | .year => f.setYear value
  | .century => if value < 0 then .error .outOfRange else f.setCentury value
  | .yearOfCentury => f.setYearOfCentury value
  | .isoYear => f.setIsoYear value
  | .isoYearOfCentury => f.setIsoYearOfCentury value
  | .quarter => f.setQuarter value
  | .month => f.setMonth value
  | .day => f.setDay value
  | .weekFromSunday => f.setWeekFromSunday value
  | .weekFromMonday => f.setWeekFromMonday value
  | .isoWeek => f.setIsoWeek value
  | .weekdayFromSunday => f.setWeekdayFromSunday value
  | .weekdayFromMonday => f.setWeekdayFromMonday value
  | .ordinal => f.setOrdinal value
  | .hour => f.setHour value
  | .hour12 => f.setHour12 value
  | .minute => f.setMinute value
  | .second => f.setSecond value
  | .nanosecond => f.setNanosecond value
  | .secondsSinceEpoch => f.setSecondsSinceEpoch value

/-- The number of digits that a field without a sign takes at most; none for no limit. -/
def NumericField.width? : NumericField → Option Nat
  | .year | .isoYear => some 4
  | .quarter | .weekdayFromSunday | .weekdayFromMonday => some 1
  | .ordinal => some 3
  | .nanosecond => some 9
  | .secondsSinceEpoch => none
  | _ => some 2

def readNumber (field : NumericField) (cs : List Char) : Scanned Int :=
  let cs := trimStart cs
  let most := field.width?.getD cs.length
  match field with
  | .year | .isoYear => Scan.signedNumber cs most
  | _ => Scan.number cs 1 most

/-- A field read from the front and set. -/
def setFrom {α : Type} (scanned : Scanned α) (set : α → Settled Fields) :
    Option (Fields × List Char) :=
  match scanned with
  | none => none
  | some (value, left) => (set value).toOption.map fun f => (f, left)

/-- A fraction is read only after a point. -/
def readFraction (scan : List Char → Scanned Int) (f : Fields) (cs : List Char) :
    Option (Fields × List Char) :=
  match cs with
  | '.' :: rest => setFrom (scan rest) f.setNanosecond
  | _ => some (f, cs)

/-- Date and time with a T or a blank between them, then a zone; blanks are allowed inside. -/
def looseTimestampParts : Template × Template :=
  ([.number .year, .blanks, .literal '-', .number .month, .blanks, .literal '-', .number .day],
   [.number .hour, .blanks, .literal ':', .number .minute, .blanks, .literal ':', .number .second,
    .fraction, .blanks])

/-- Reads one item other than a whole timestamp. -/
def readSimpleItem (item : Item) (f : Fields) (cs : List Char) : Option (Fields × List Char) :=
  match item with
  | .literal c => (Scan.char c cs).map fun left => (f, left)
  | .blanks => some (f, trimStart cs)
  | .number field => setFrom (readNumber field cs) (setNumber field f)
  | .monthName long => setFrom (Scan.month long cs) f.setMonth
  | .weekdayName long => setFrom (Scan.weekday long cs) f.setWeekday
  | .halfDay =>
      match Scan.word ['a', 'm'] cs, Scan.word ['p', 'm'] cs with
      | some left, _ => setFrom (some ((), left)) fun _ => f.setHalfDay false
      | none, some left => setFrom (some ((), left)) fun _ => f.setHalfDay true
      | none, none => none
  | .fraction => readFraction Scan.fraction f cs
  | .fractionOf digits => readFraction (Scan.fractionOf digits) f cs
  | .bareFraction digits => setFrom (Scan.fractionOf digits cs) f.setNanosecond
  | .zoneName => some (f, cs.dropWhile fun c => !isBlank c)
  | .offset => setFrom (Scan.offset Scan.templateOffset (trimStart cs)) f.setOffset
  | .looseOffset => setFrom (Scan.offset Scan.looseOffset (trimStart cs)) f.setOffset
  | .timestamp => none

def readSimpleItems (items : Template) (f : Fields) (cs : List Char) :
    Option (Fields × List Char) :=
  items.foldlM (fun (state : Fields × List Char) item => readSimpleItem item state.1 state.2) (f, cs)

def isDateTimeMark (c : Char) : Bool := c == 'T' || c == 't' || c == ' '

def readLooseTimestamp (f : Fields) (cs : List Char) : Option (Fields × List Char) := do
  let (f, rest) ← readSimpleItems looseTimestampParts.1 f cs
  let (mark, rest) ← rest.head?.map fun c => (c, rest.drop 1)
  if !isDateTimeMark mark then failure
  let (f, rest) ← readSimpleItems looseTimestampParts.2 f rest
  let zone := trimStart rest
  match Scan.word ['u', 't', 'c'] zone with
  | some left => setFrom (some (0, left)) f.setOffset
  | none => setFrom (Scan.offset Scan.zuluOffset zone) f.setOffset

def readItem (item : Item) (f : Fields) (cs : List Char) : Option (Fields × List Char) :=
  match item with
  | .timestamp => readLooseTimestamp f cs
  | _ => readSimpleItem item f cs

/-- The fields of a text that the template describes to its end. -/
def Template.fields? (template : Template) (cs : List Char) : Option Fields :=
  match template.foldlM
      (fun (state : Fields × List Char) item => readItem item state.1 state.2) ({}, cs) with
  | some (f, []) => some f
  | _ => none

def Template.date? (template : Template) (cs : List Char) : Option Date :=
  (template.fields? cs).bind fun f => f.date.toOption

def Template.timestamp? (template : Template) (cs : List Char) : Option Timestamp :=
  (template.fields? cs).bind fun f => f.timestamp.toOption

/-- A date and a time without an offset, taken as UTC. -/
def Template.utcTimestamp? (template : Template) (cs : List Char) : Option Timestamp :=
  (template.fields? cs).bind fun f =>
    f.date.toOption.bind fun d => f.time.toOption.map fun t => .ofUtc d t

/-- Where a month or a day is missing for a date, the first is taken. -/
def Template.dateOrFirst? (template : Template) (cs : List Char) : Option Date :=
  (template.fields? cs).bind fun f =>
    match f.date with
    | .ok d => some d
    | .error .notEnough =>
        ({ f with month := some (f.month.getD 1), day := some (f.day.getD 1) } : Fields).date.toOption
    | .error _ => none

/-- The fields of a text in the form of RFC 3339. The offset is at most 23:59. -/
def rfc3339Fields? (cs : List Char) : Option Fields := do
  let (f, rest) ← setFrom (Scan.number cs 4 4) ({} : Fields).setYear
  let rest ← Scan.char '-' rest
  let (f, rest) ← setFrom (Scan.number rest 2 2) f.setMonth
  let rest ← Scan.char '-' rest
  let (f, rest) ← setFrom (Scan.number rest 2 2) f.setDay
  let (mark, rest) ← rest.head?.map fun c => (c, rest.drop 1)
  if !isDateTimeMark mark then failure
  let (f, rest) ← setFrom (Scan.number rest 2 2) f.setHour
  let rest ← Scan.char ':' rest
  let (f, rest) ← setFrom (Scan.number rest 2 2) f.setMinute
  let rest ← Scan.char ':' rest
  let (f, rest) ← setFrom (Scan.number rest 2 2) f.setSecond
  let (f, rest) ← readFraction Scan.fraction f rest
  let (offset, rest) ← Scan.offset { zulu := true, between := Scan.char ':' } rest
  if offset < -86340 ∨ 86340 < offset ∨ !rest.isEmpty then failure
  (f.setOffset offset).toOption

def rfc3339? (cs : List Char) : Option Timestamp :=
  (rfc3339Fields? cs).bind fun f => f.timestamp.toOption

/-- Zones with a name: their hours from UTC. -/
def namedZones : List (List Char × Int) :=
  [(['g', 'm', 't'], 0), (['u', 't'], 0), (['z'], 0), (['e', 'd', 't'], -4), (['e', 's', 't'], -5),
   (['c', 'd', 't'], -5), (['c', 's', 't'], -6), (['m', 'd', 't'], -6), (['m', 's', 't'], -7),
   (['p', 'd', 't'], -7), (['p', 's', 't'], -8)]

/-- A zone by name, by a single letter other than J, or as an offset in digits. -/
def namedOffset (cs : List Char) : Scanned Int :=
  let letters := cs.takeWhile Char.isAlpha
  let left := cs.drop letters.length
  if letters.isEmpty then Scan.offset { minusSign := false, between := some } cs
  else
    let folded := letters.map Char.toLower
    match namedZones.lookup folded with
    | some hours => some (hours * 3600, left)
    | none => if folded.length = 1 ∧ folded ≠ ['j'] then some (0, left) else none

/-- What is left after a comment in brackets, which may nest. -/
def dropComment : Nat → List Char → Option (List Char)
  | _, [] => none
  | 0, c :: rest => if c == '(' then dropComment 1 rest else none
  | depth + 1, '\\' :: _ :: rest => dropComment (depth + 1) rest
  | depth + 1, c :: rest =>
      if c == '(' then dropComment (depth + 2) rest
      else if c == ')' then (if depth = 0 then some rest else dropComment depth rest)
      else dropComment (depth + 1) rest

def dropComments : Nat → List Char → List Char
  | 0, cs => cs
  | fuel + 1, cs =>
      match dropComment 0 (trimStart cs) with
      | some rest => dropComments fuel rest
      | none => cs

/-- Two digits of a year are in 1950 to 2049, three count from 1900. -/
def expandYear (digits : Nat) (year : Int) : Int :=
  if digits = 2 then (if year < 50 then year + 2000 else year + 1900)
  else if digits = 3 then year + 1900
  else year

/-- The fields of a text in the form of RFC 2822. -/
def rfc2822Fields? (cs : List Char) : Option Fields := do
  let start := trimStart cs
  let (f, rest) ←
    match Scan.weekday false start with
    | some (weekday, rest) => do
        let rest ← Scan.char ',' rest
        setFrom (some (weekday, rest)) ({} : Fields).setWeekday
    | none => some ({}, start)
  let (f, rest) ← setFrom (Scan.number (trimStart rest) 1 2) f.setDay
  let rest ← Scan.blanks rest
  let (f, rest) ← setFrom (Scan.month false rest) f.setMonth
  let rest ← Scan.blanks rest
  let (year, afterYear) ← Scan.number rest 2 rest.length
  let f ← (f.setYear (expandYear (rest.length - afterYear.length) year)).toOption
  let rest ← Scan.blanks afterYear
  let (f, rest) ← setFrom (Scan.number rest 2 2) f.setHour
  let rest ← Scan.char ':' (trimStart rest)
  let (f, rest) ← setFrom (Scan.number (trimStart rest) 2 2) f.setMinute
  let (f, rest) ←
    match Scan.char ':' (trimStart rest) with
    | some rest => setFrom (Scan.number rest 2 2) f.setSecond
    | none => some (f, rest)
  let rest ← Scan.blanks rest
  let (f, rest) ← setFrom (namedOffset rest) f.setOffset
  if !(dropComments rest.length rest).isEmpty then failure
  return f

def rfc2822? (cs : List Char) : Option Timestamp :=
  (rfc2822Fields? cs).bind fun f => f.timestamp.toOption

end RecordSchema.Calendar
