import RecordSchema.Calendar.Date
import RecordSchema.Number.Reader
import RecordSchema.Settings.Setting
import RecordSchema.Text.Hex

set_option autoImplicit false

/-!
Values of TOML that are written without quotes and brackets: flags, numbers, and dates and times,
which are kept as texts in one form.
-/

namespace RecordSchema.Toml

/-- Digits, with single underscores between them or without; the result has only the digits. -/
def digitGroups? (isDigit : Char → Bool) : List Char → Option (List Char)
  | [] => none
  | [c] => if isDigit c then some [c] else none
  | c :: '_' :: rest =>
      if isDigit c then (digitGroups? isDigit rest).map (c :: ·) else none
  | c :: rest => if isDigit c then (digitGroups? isDigit rest).map (c :: ·) else none

def splitSign : List Char → List Char × List Char
  | '+' :: rest => ([], rest)
  | '-' :: rest => (['-'], rest)
  | cs => ([], cs)

/-! Numbers -/

/-- Decimal digits without padding. -/
def wholeDigits? (cs : List Char) : Option (List Char) :=
  match digitGroups? Char.isDigit cs with
  | some ('0' :: _ :: _) => none
  | digits => digits

def basedInteger? (base : Nat) (cs : List Char) : Option Int :=
  let isDigit (c : Char) : Bool := (Text.hexDigit? c).any (· < base)
  let value? := (digitGroups? isDigit cs).map fun digits =>
    digits.foldl (fun n c => n * base + (Text.hexDigit? c).getD 0) 0
  value?.bind fun value => if Number.int64Fits value then some (value : Int) else none

def integer? : List Char → Option Int
  | '0' :: 'x' :: digits => basedInteger? 16 digits
  | '0' :: 'o' :: digits => basedInteger? 8 digits
  | '0' :: 'b' :: digits => basedInteger? 2 digits
  | cs =>
      let (sign, body) := splitSign cs
      (wholeDigits? body).bind fun digits => Number.readInt64? (sign ++ digits)

def isExponentMark (c : Char) : Bool := c == 'e' || c == 'E'

/-- The digits after a point, with the point; none after a point is a fault. -/
def fractionChars? : List Char → Option (List Char)
  | [] => some []
  | _ :: digits => (digitGroups? Char.isDigit digits).map ('.' :: ·)

/-- An exponent with its mark. -/
def exponentChars? : List Char → Option (List Char)
  | [] => some []
  | _ :: signed =>
      let (sign, digits) := splitSign signed
      (digitGroups? Char.isDigit digits).map fun digits => 'e' :: sign ++ digits

/-- A number with a fraction or an exponent, or the name of infinity or of no number. A number too
large for a double is refused, but only above zero. -/
def float? (cs : List Char) : Option Number.Double :=
  let (sign, body) := splitSign cs
  if body == ['i', 'n', 'f'] then some (.infinity !sign.isEmpty)
  else if body == ['n', 'a', 'n'] then some .nan
  else
    let mantissa := body.takeWhile fun c => !isExponentMark c
    let exponent := body.dropWhile fun c => !isExponentMark c
    let whole := mantissa.takeWhile (· != '.')
    let fraction := mantissa.dropWhile (· != '.')
    if fraction.isEmpty && exponent.isEmpty then none
    else do
      let digits ← wholeDigits? whole
      let d ← Number.readDouble?
        (sign ++ digits ++ (← fractionChars? fraction) ++ (← exponentChars? exponent))
      if d = .infinity false then none else some d

/-! Dates and times -/

/-- A number of so many digits between two bounds. -/
def fieldWithin? (width least greatest : Nat) (cs : List Char) : Option (Nat × List Char) :=
  let digits := cs.take width
  if digits.length = width && digits.all Char.isDigit then
    let n := Number.digitsValue digits
    if least ≤ n && n ≤ greatest then some (n, cs.drop width) else none
  else none

def after? (mark : Char) : List Char → Option (List Char)
  | c :: rest => if c == mark then some rest else none
  | [] => none

/-- What follows a date. -/
def afterDate? (cs : List Char) : Option (List Char) := do
  let (year, cs) ← fieldWithin? 4 0 9999 cs
  let (month, cs) ← fieldWithin? 2 1 12 (← after? '-' cs)
  let (_, cs) ← fieldWithin? 2 1 (Calendar.daysInMonth year month) (← after? '-' cs)
  return cs

/-- What follows a time of day up to its seconds. -/
def afterSeconds? (cs : List Char) : Option (List Char) := do
  let (_, cs) ← fieldWithin? 2 0 23 cs
  let (_, cs) ← fieldWithin? 2 0 59 (← after? ':' cs)
  let (_, cs) ← fieldWithin? 2 0 60 (← after? ':' cs)
  return cs

def dropTrailingZeros (digits : List Char) : List Char :=
  (digits.reverse.dropWhile (· == '0')).reverse

/-- A time of day and what follows. A fraction is cut after nine digits and its trailing zeros are
dropped. -/
def timeOfDay? (cs : List Char) : Option (List Char × List Char) := do
  let rest ← afterSeconds? cs
  let seconds := cs.take 8
  match rest with
  | '.' :: rest =>
      let digits := rest.takeWhile Char.isDigit
      if digits.isEmpty then failure
      let shown := dropTrailingZeros (digits.take 9)
      return (if shown.isEmpty then seconds else seconds ++ '.' :: shown, rest.drop digits.length)
  | _ => return (seconds, rest)

/-- An offset from UTC in full, if there is one. -/
def offset? : List Char → Option (List Char)
  | [] => some []
  | [c] => if c == 'Z' || c == 'z' then some ['Z'] else none
  | sign :: cs => do
      if sign != '+' && sign != '-' then failure
      let (hours, rest) ← fieldWithin? 2 0 23 cs
      let (minutes, rest) ← fieldWithin? 2 0 59 (← after? ':' rest)
      if !rest.isEmpty then failure
      return (if hours = 0 ∧ minutes = 0 then '+' else sign) :: cs

def isDateTimeMark (c : Char) : Bool := c == 'T' || c == 't' || c == ' '

/-- A date, a time of day, or both, then with an offset or without. -/
def dateTime? (cs : List Char) : Option (List Char) :=
  match afterDate? cs with
  | some [] => some cs
  | some (mark :: rest) =>
      if isDateTimeMark mark then do
        let (time, rest) ← timeOfDay? rest
        return cs.take 10 ++ 'T' :: time ++ (← offset? rest)
      else none
  | none =>
      match timeOfDay? cs with
      | some (time, []) => some time
      | _ => none

/-! Words -/

/-- Characters of numbers, dates, times and names. -/
def isWordChar (c : Char) : Bool := c.isAlphanum || "_+-.:".contains c

/-- The word at the start. A time of day after a date and a blank belongs to it. -/
def word (cs : List Char) : List Char :=
  let first := cs.takeWhile isWordChar
  match afterDate? first, cs.drop first.length with
  | some [], ' ' :: c :: rest =>
      if c.isDigit then first ++ ' ' :: (c :: rest).takeWhile isWordChar else first
  | _, _ => first

def ofWord? (cs : List Char) : Option Setting :=
  if cs == ['t', 'r', 'u', 'e'] then some (.flag true)
  else if cs == ['f', 'a', 'l', 's', 'e'] then some (.flag false)
  else
    match integer? cs with
    | some i => some (.integer i)
    | none =>
        match float? cs with
        | some d => some (.float d)
        | none => (dateTime? cs).map fun text => .text (String.ofList text)

end RecordSchema.Toml
