import RecordSchema.Calendar.Reader
import RecordSchema.Calendar.Printer
import RecordSchema.Proofs.Calendar.Fields
import RecordSchema.Proofs.Number.Digits
import RecordSchema.Proofs.Text.Blank

set_option autoImplicit false

/-!
Scanning what was written: padded numbers, years, fractions of a second and offsets in front of any
other text are read as what they were.
-/

namespace RecordSchema.Calendar

open RecordSchema.Text RecordSchema.Number

theorem trimStart_cons {c : Char} (visible : isBlank c = false) (rest : List Char) :
    trimStart (c :: rest) = c :: rest := by
  simp [trimStart, visible]

theorem exists_paddedDigits_cons (width n : Nat) :
    ∃ d digits, paddedDigits width n = d :: digits ∧ d.isDigit = true := by
  obtain ⟨d, rest, shape, digits⟩ := exists_natDigits_cons n
  have filled : paddedDigits width n ≠ [] := by simp [paddedDigits, shape]
  obtain ⟨first, more, padded⟩ := List.exists_cons_of_ne_nil filled
  refine ⟨first, more, padded, ?_⟩
  have member : first ∈ paddedDigits width n := by simp [padded]
  exact isDigit_of_mem_paddedDigits member

theorem trimStart_paddedDigits (width n : Nat) (rest : List Char) :
    trimStart (paddedDigits width n ++ rest) = paddedDigits width n ++ rest := by
  obtain ⟨d, digits, shape, digit⟩ := exists_paddedDigits_cons width n
  rw [shape, List.cons_append, trimStart_cons (not_isBlank_of_isDigit digit)]

namespace Scan

@[simp] theorem char_cons (c : Char) (rest : List Char) : char c (c :: rest) = some rest := by
  simp [char]

/-- A number ends where as many digits are read as may be, or where no digit follows. -/
theorem number_append {digits rest : List Char} {least most : Nat}
    (all : ∀ c ∈ digits, c.isDigit = true) (enough : least ≤ digits.length)
    (fits : digits.length ≤ most) (ends : digits.length = most ∨ NoDigitFirst rest)
    (small : digitsValue digits ≤ 9223372036854775807) :
    number (digits ++ rest) least most = some ((digitsValue digits : Int), rest) := by
  have taken : ((digits ++ rest).take most).takeWhile Char.isDigit = digits := by
    rw [List.take_append, List.take_of_length_le fits]
    refine takeWhile_isDigit_append all ?_
    rcases ends with full | stop
    · simp [full]
    · exact stop.take _
  have within : ¬ (digits.length < least ∨ 9223372036854775807 < digitsValue digits) := by omega
  simp only [number, taken, if_neg within, List.drop_left]

theorem number_paddedDigits {least width n : Nat} (some_place : 0 < width)
    (small : n < 10 ^ width) (bounded : width ≤ 18) (fewer : least ≤ width) (rest : List Char) :
    number (paddedDigits width n ++ rest) least width = some ((n : Int), rest) := by
  have length := length_paddedDigits some_place small
  have value : digitsValue (paddedDigits width n) ≤ 9223372036854775807 := by
    have limit : 10 ^ width ≤ 10 ^ 18 := Nat.pow_le_pow_right (by decide) bounded
    rw [digitsValue_paddedDigits]
    omega
  rw [number_append (fun _ => isDigit_of_mem_paddedDigits) (by omega) (by omega) (.inl length)
    value, digitsValue_paddedDigits]

/-- A number of two digits, as months, days and parts of a time are written. -/
theorem number_two {n : Nat} (small : n < 100) {least : Nat} (fewer : least ≤ 2)
    (rest : List Char) : number (paddedDigits 2 n ++ rest) least 2 = some ((n : Int), rest) :=
  number_paddedDigits (by decide) small (by decide) fewer rest

end Scan

theorem setFrom_some {α : Type} {value : α} {set : α → Settled Fields} {f : Fields}
    (accepted : set value = .ok f) (rest : List Char) :
    setFrom (some (value, rest)) set = some (f, rest) := by
  rw [setFrom, accepted]
  rfl

/-! Two digits read into a field that is not set yet. -/

section TwoDigits

variable {f : Fields} {n least : Nat}

theorem setFrom_month (unset : f.month = none) (range : 1 ≤ n ∧ n ≤ 12) (fewer : least ≤ 2)
    (rest : List Char) : setFrom (Scan.number (paddedDigits 2 n ++ rest) least 2) f.setMonth =
      some ({ f with month := some n }, rest) := by
  rw [Scan.number_two (by omega) fewer]
  exact setFrom_some (Fields.setMonth_of_none unset range) rest

theorem setFrom_day (unset : f.day = none) (range : 1 ≤ n ∧ n ≤ 31) (fewer : least ≤ 2)
    (rest : List Char) : setFrom (Scan.number (paddedDigits 2 n ++ rest) least 2) f.setDay =
      some ({ f with day := some n }, rest) := by
  rw [Scan.number_two (by omega) fewer]
  exact setFrom_some (Fields.setDay_of_none unset range) rest

theorem setFrom_hour (half : f.halfDay = none) (hour : f.hourOfHalf = none) (range : n ≤ 23)
    (fewer : least ≤ 2) (rest : List Char) :
    setFrom (Scan.number (paddedDigits 2 n ++ rest) least 2) f.setHour =
      some ({ f with halfDay := some (n / 12), hourOfHalf := some (n % 12) }, rest) := by
  rw [Scan.number_two (by omega) fewer]
  exact setFrom_some (Fields.setHour_of_none half hour range) rest

theorem setFrom_minute (unset : f.minute = none) (range : n ≤ 59) (fewer : least ≤ 2)
    (rest : List Char) : setFrom (Scan.number (paddedDigits 2 n ++ rest) least 2) f.setMinute =
      some ({ f with minute := some n }, rest) := by
  rw [Scan.number_two (by omega) fewer]
  exact setFrom_some (Fields.setMinute_of_none unset range) rest

theorem setFrom_second (unset : f.second = none) (range : n ≤ 60) (fewer : least ≤ 2)
    (rest : List Char) : setFrom (Scan.number (paddedDigits 2 n ++ rest) least 2) f.setSecond =
      some ({ f with second := some n }, rest) := by
  rw [Scan.number_two (by omega) fewer]
  exact setFrom_some (Fields.setSecond_of_none unset range) rest

end TwoDigits

theorem Scan.signedNumber_of_isDigit {d : Char} (digit : d.isDigit = true) (rest : List Char)
    (most : Nat) : signedNumber (d :: rest) most = number (d :: rest) 1 most := by
  obtain ⟨notMinus, notPlus⟩ := ne_sign_of_isDigit digit
  simp [signedNumber, notMinus, notPlus]

theorem readNumber_yearChars {year : Int} (bounded : year.natAbs ≤ 999999) {rest : List Char}
    (stop : NoDigitFirst rest) : readNumber .year (yearChars year ++ rest) = some (year, rest) := by
  by_cases plain : 0 ≤ year ∧ year ≤ 9999
  next =>
    -- Without a sign no more than four digits are read.
    have written : yearChars year = paddedDigits 4 year.toNat := if_pos plain
    have scanned : Scan.number (paddedDigits 4 year.toNat ++ rest) 1 4 = some (year, rest) := by
      rw [Scan.number_paddedDigits (by decide) (by omega) (by decide) (by decide),
        Int.toNat_of_nonneg plain.1]
    obtain ⟨d, digits, shape, digit⟩ := exists_paddedDigits_cons 4 year.toNat
    rw [readNumber, written, trimStart_paddedDigits]
    simp only [NumericField.width?, Option.getD_some]
    rw [shape, List.cons_append] at scanned ⊢
    rw [Scan.signedNumber_of_isDigit digit, scanned]
  next =>
    -- After a sign the digits end where no digit follows.
    have scanned : Scan.number (paddedDigits 4 year.natAbs ++ rest) 1
        (paddedDigits 4 year.natAbs ++ rest).length = some ((year.natAbs : Int), rest) := by
      obtain ⟨d, digits, shape, _⟩ := exists_paddedDigits_cons 4 year.natAbs
      have filled : 1 ≤ (paddedDigits 4 year.natAbs).length := by simp [shape]
      have value : digitsValue (paddedDigits 4 year.natAbs) ≤ 9223372036854775807 := by
        rw [digitsValue_paddedDigits]
        omega
      rw [Scan.number_append (fun _ => isDigit_of_mem_paddedDigits) filled (by simp) (.inr stop)
        value, digitsValue_paddedDigits]
    rw [readNumber, yearChars, if_neg plain]
    by_cases negative : year < 0
    next =>
      have back : -((year.natAbs : Nat) : Int) = year := by omega
      rw [if_pos negative, List.cons_append, trimStart_cons (by decide)]
      simp only [Scan.signedNumber, scanned, Option.map_some, back]
    next =>
      have back : ((year.natAbs : Nat) : Int) = year := by omega
      rw [if_neg negative, List.cons_append, trimStart_cons (by decide)]
      simp only [Scan.signedNumber, scanned, back]

namespace Scan

theorem isMinute_digitChars {n : Nat} (small : n < 60) :
    isMinute (digitChar (n / 10)) (digitChar n) = true ∧
      digitsValue [digitChar (n / 10), digitChar n] = n := by
  have tens : ∀ d, d < 6 → '0' ≤ digitChar d ∧ digitChar d ≤ '5' := by decide
  have value := digitsValue_paddedDigits 2 n
  rw [paddedDigits_two (by omega)] at value
  refine ⟨?_, value⟩
  obtain ⟨low, high⟩ := tens (n / 10) (by omega)
  simp [isMinute, low, high, isDigit_digitChar]

/-- Whatever stands between the hours and the minutes of an offset may be a colon. -/
def OffsetRules.TakesColon (rules : OffsetRules) : Prop :=
  ∀ d rest, d.isDigit = true → rules.between (':' :: d :: rest) = some (d :: rest)

/-- An offset of whole minutes is read as it was written. -/
theorem offset_offsetChars {rules : OffsetRules} (colon : rules.TakesColon) {seconds : Int}
    (whole : seconds % 60 = 0) (bounded : -86400 < seconds ∧ seconds < 86400) (rest : List Char) :
    offset rules (offsetChars seconds ++ rest) = some (seconds, rest) := by
  obtain ⟨minutes, written⟩ : ∃ minutes, minutes = (seconds.natAbs + 30) / 60 := ⟨_, rfl⟩
  have parts : seconds.natAbs = minutes * 60 ∧ minutes / 60 < 100 ∧ minutes % 60 < 60 := by omega
  obtain ⟨total, hours, rest_of_hour⟩ := parts
  obtain ⟨minute, value⟩ := isMinute_digitChars rest_of_hour
  have scanned := number_two hours (le_refl 2)
    (':' :: digitChar (minutes % 60 / 10) :: digitChar (minutes % 60) :: rest)
  have between := colon (digitChar (minutes % 60 / 10)) (digitChar (minutes % 60) :: rest)
    (isDigit_digitChar _)
  have two : paddedDigits 2 (minutes % 60) = [digitChar (minutes % 60 / 10), digitChar (minutes % 60)] :=
    paddedDigits_two (by omega)
  simp only [offsetChars, ← written, two]
  by_cases negative : seconds < 0
  next =>
    simp [offset, negative, scanned, between, minute, value]
    omega
  next =>
    simp [offset, negative, scanned, between, minute, value]
    omega

theorem fraction_paddedDigits {places n : Nat} (some_place : 0 < places) (most : places ≤ 9)
    (small : n < 10 ^ places) {rest : List Char} (stop : NoDigitFirst rest) :
    fraction (paddedDigits places n ++ rest) = some (((n * 10 ^ (9 - places) : Nat) : Int), rest) := by
  have length := length_paddedDigits some_place small
  have value : digitsValue (paddedDigits places n) ≤ 9223372036854775807 := by
    have limit : 10 ^ places ≤ 10 ^ 9 := Nat.pow_le_pow_right (by decide) most
    rw [digitsValue_paddedDigits]
    omega
  have scanned := number_append (fun _ => isDigit_of_mem_paddedDigits) (by omega : 1 ≤ _)
    (by omega : _ ≤ 9) (.inr stop) value
  rw [fraction, scanned, digitsValue_paddedDigits]
  simp [length, stop.dropWhile]

end Scan

/-- A fraction of a second is read up to the sign of the offset behind it. -/
theorem readFraction_fractionChars {nanosecond : Nat} (bounded : nanosecond < 1000000000)
    {f : Fields} (unset : f.nanosecond = none) {rest : List Char} (stop : NoDigitFirst rest)
    (point : rest.head? ≠ some '.') :
    readFraction Scan.fraction f (fractionChars nanosecond ++ rest) =
      some ({ f with nanosecond := if nanosecond = 0 then none else some nanosecond }, rest) := by
  have read {places n : Nat} (some_place : 0 < places) (most : places ≤ 9)
      (small : n < 10 ^ places) (same : n * 10 ^ (9 - places) = nanosecond) :
      readFraction Scan.fraction f ('.' :: paddedDigits places n ++ rest) =
        some ({ f with nanosecond := some nanosecond }, rest) := by
    change setFrom (Scan.fraction (paddedDigits places n ++ rest)) f.setNanosecond = _
    rw [Scan.fraction_paddedDigits some_place most small stop, same, setFrom,
      Fields.setNanosecond_of_none unset (by omega)]
    rfl
  unfold fractionChars
  split
  next none =>
    -- No point follows, so the fields stay as they are.
    subst none
    cases rest with
    | nil => simp [readFraction, ← unset]
    | cons c rest =>
      have other : c ≠ '.' := fun same => point (by rw [same]; rfl)
      simp [readFraction, other, ← unset]
  next =>
    split
    next millis => exact read (by decide) (by decide) (by omega) (by omega)
    next =>
      split
      next micros => exact read (by decide) (by decide) (by omega) (by omega)
      next => exact read (by decide) (by decide) (by omega) (by omega)

end RecordSchema.Calendar
