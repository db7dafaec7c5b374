import RecordSchema.Calendar.Fields
import RecordSchema.Proofs.Success

set_option autoImplicit false

/-!
The fields of dates and timestamps: setting one that is not set yet, the fields that a date or a
timestamp consists of and what follows from them, and what a computed date or timestamp owes to its
fields.
-/

namespace RecordSchema.Calendar

namespace Fields

variable {f : Fields}

theorem setYear_of_none (unset : f.year = none) {value : Int}
    (fits : -2147483648 ≤ value ∧ value ≤ 2147483647) :
    f.setYear value = .ok { f with year := some value } := by
  simp only [setYear, checkInt32, if_pos fits, settle, unset]
  rfl

theorem checkRange_natCast {low high n : Nat} (range : low ≤ n ∧ n ≤ high) :
    checkRange low high n = .ok n := by
  have cast : (low : Int) ≤ n ∧ (n : Int) ≤ high := by omega
  rw [checkRange, if_pos cast, Int.toNat_natCast]

theorem setMonth_of_none (unset : f.month = none) {n : Nat} (range : 1 ≤ n ∧ n ≤ 12) :
    f.setMonth n = .ok { f with month := some n } := by
  simp only [setMonth, checkRange_natCast range, settle, unset]
  rfl

theorem setDay_of_none (unset : f.day = none) {n : Nat} (range : 1 ≤ n ∧ n ≤ 31) :
    f.setDay n = .ok { f with day := some n } := by
  simp only [setDay, checkRange_natCast range, settle, unset]
  rfl

theorem setHour_of_none (half : f.halfDay = none) (hour : f.hourOfHalf = none) {n : Nat}
    (range : n ≤ 23) :
    f.setHour n = .ok { f with halfDay := some (n / 12), hourOfHalf := some (n % 12) } := by
  simp only [setHour, checkRange_natCast ⟨Nat.zero_le n, range⟩, settle, half, hour]
  rfl

theorem setMinute_of_none (unset : f.minute = none) {n : Nat} (range : n ≤ 59) :
    f.setMinute n = .ok { f with minute := some n } := by
  simp only [setMinute, checkRange_natCast ⟨Nat.zero_le n, range⟩, settle, unset]
  rfl

theorem setSecond_of_none (unset : f.second = none) {n : Nat} (range : n ≤ 60) :
    f.setSecond n = .ok { f with second := some n } := by
  simp only [setSecond, checkRange_natCast ⟨Nat.zero_le n, range⟩, settle, unset]
  rfl

theorem setNanosecond_of_none (unset : f.nanosecond = none) {n : Nat} (range : n ≤ 999999999) :
    f.setNanosecond n = .ok { f with nanosecond := some n } := by
  simp only [setNanosecond, checkRange_natCast ⟨Nat.zero_le n, range⟩, settle, unset]
  rfl

theorem setOffset_of_none (unset : f.offset = none) {value : Int}
    (fits : -2147483648 ≤ value ∧ value ≤ 2147483647) :
    f.setOffset value = .ok { f with offset := some value } := by
  simp only [setOffset, checkInt32, if_pos fits, settle, unset]
  rfl

end Fields

theorem daysInMonth_le (year : Int) (month : Nat) : daysInMonth year month ≤ 31 := by
  unfold daysInMonth
  repeat' split
  all_goals decide

theorem Date.bounds (d : Date) :
    d.year.natAbs ≤ 999999 ∧ (1 ≤ d.month ∧ d.month ≤ 12) ∧ 1 ≤ d.day ∧ d.day ≤ 31 := by
  obtain ⟨⟨low, high⟩, month, first, last⟩ := d.valid
  have longest := daysInMonth_le d.year d.month
  unfold leastYear at low
  unfold greatestYear at high
  omega

def Date.fields (d : Date) : Fields :=
  { year := some d.year, month := some d.month, day := some d.day }

namespace TimeOfDay

/-- The second as it is written: a leap second is the sixtieth. -/
def writtenSecond (t : TimeOfDay) : Nat :=
  if 1000000000 ≤ t.nanosecond then t.second + 1 else t.second

def fraction (t : TimeOfDay) : Nat := t.nanosecond % 1000000000

/-- The fields of a time of day added to others. -/
def addFields (t : TimeOfDay) (f : Fields) : Fields :=
  { f with
    halfDay := some (t.hour / 12)
    hourOfHalf := some (t.hour % 12)
    minute := some t.minute
    second := some t.writtenSecond
    nanosecond := if t.fraction = 0 then none else some t.fraction }

theorem writtenSecond_le (t : TimeOfDay) : t.writtenSecond ≤ 60 := by
  obtain ⟨_, _, second, _⟩ := t.valid
  unfold writtenSecond
  split <;> omega

theorem time_addFields (t : TimeOfDay) (f : Fields) : (t.addFields f).time = .ok t := by
  obtain ⟨_, _, second, nanosecond⟩ := t.valid
  have fraction : (if t.fraction = 0 then none else some t.fraction).getD 0 = t.fraction := by
    split <;> simp_all
  have hour : t.hour / 12 * 12 + t.hour % 12 = t.hour := by omega
  have whole : TimeOfDay.ofParts? t.hour t.minute t.second t.nanosecond = some t := dif_pos t.valid
  unfold Fields.time addFields
  dsimp only [Option.getD_some]
  rw [fraction, hour]
  unfold writtenSecond TimeOfDay.fraction
  by_cases leap : 1000000000 ≤ t.nanosecond
  next =>
    have last : t.second = 59 := by omega
    have back : 1000000000 + t.nanosecond % 1000000000 = t.nanosecond := by omega
    rw [last] at whole
    simp [leap, last, back, whole]
  next =>
    have ordinary : t.second ≠ 60 := by omega
    have back : t.nanosecond % 1000000000 = t.nanosecond := by omega
    simp [leap, ordinary, back, whole]

theorem nanosecond_of_ofParts? {hour minute second nanosecond : Nat} {t : TimeOfDay}
    (made : ofParts? hour minute second nanosecond = some t) : t.nanosecond = nanosecond := by
  obtain ⟨_, same⟩ := Option.dite_none_right_eq_some.mp made
  cases same
  rfl

end TimeOfDay

theorem Date.date_fields (d : Date) : d.fields.date = .ok d := by
  have whole : Date.ofParts? d.year d.month d.day = some d := dif_pos d.valid
  have candidate : d.fields.candidate (some d.year) none = .ok d := by
    simp only [Fields.candidate, fields, whole, Fields.orOutOfRange]
  have resolved : d.fields.date = d.fields.candidate (some d.year) none >>= fun d' =>
      if d.fields.agreesDay d' && d.fields.agreesIsoWeek d' && d.fields.agreesOrdinal d' &&
          agrees d.fields.quarter d'.quarter then pure d' else throw .impossible := rfl
  rw [resolved, candidate]
  -- No other field is set that the date could disagree with.
  simp [Fields.agreesDay, Fields.agreesIsoWeek, Fields.agreesOrdinal, agrees, agreesIfPositive,
    fields, bind, Except.bind]
  rfl

def Timestamp.fields (t : Timestamp) : Fields :=
  { t.time.addFields t.date.fields with offset := some t.offset }

theorem Timestamp.date_fields (t : Timestamp) : t.fields.date = .ok t.date :=
  t.date.date_fields

theorem Timestamp.time_fields (t : Timestamp) : t.fields.time = .ok t.time :=
  t.time.time_addFields t.date.fields

theorem Timestamp.eq_of_ofLocal? {date : Date} {time : TimeOfDay} {offset : Int} {t : Timestamp}
    (made : ofLocal? date time offset = some t) :
    t.date = date ∧ t.time = time ∧ t.offset = offset := by
  simp only [ofLocal?] at made
  split at made
  next =>
    obtain ⟨_, same⟩ := Option.ite_none_right_eq_some.mp made
    cases same
    exact ⟨rfl, rfl, rfl⟩
  next => cases made

theorem Timestamp.ofLocal?_ofUtc (date : Date) (time : TimeOfDay) :
    ofLocal? date time 0 = some (ofUtc date time) := by
  have bounds : -86400 < (0 : Int) ∧ (0 : Int) < 86400 := by decide
  obtain ⟨hour, minute, second, _⟩ := time.valid
  -- Without an offset the day stays the same.
  have early : ¬ ((time.secondOfDay : Int) - 0 < 0) := by omega
  have late : ¬ (86400 ≤ (time.secondOfDay : Int) - 0) := by
    unfold TimeOfDay.secondOfDay
    omega
  simp only [ofLocal?, dif_pos bounds, if_neg early, if_neg late, if_true]
  rfl

namespace Fields

variable {f : Fields}

theorem year_of_date {d : Date} (computed : f.date = .ok d) {year : Int}
    (set : f.year = some year) : d.year = year := by
  obtain ⟨resolved, _, rest⟩ := (bind_eq_ok_iff ..).mp computed
  obtain ⟨isoYear, _, rest⟩ := (bind_eq_ok_iff ..).mp rest
  obtain ⟨candidate, _, agreed⟩ := (bind_eq_ok_iff ..).mp rest
  split at agreed
  next all =>
    cases agreed
    simp only [Bool.and_eq_true, agreesDay, agrees, set] at all
    simpa [eq_comm] using all.1.1.1.1.1.1.1
  next => cases agreed

theorem fraction_of_time {t : TimeOfDay} (computed : f.time = .ok t)
    (unset : f.nanosecond = none) : t.fraction = 0 := by
  simp only [time, unset] at computed
  split at computed
  next =>
    split at computed
    next => cases computed
    next =>
      split at computed
      next made =>
        cases computed
        rw [TimeOfDay.fraction, TimeOfDay.nanosecond_of_ofParts? made]
        split <;> rfl
      next => cases computed
  next => cases computed

theorem timestamp_eq_ok_iff {t : Timestamp} :
    f.timestamp = .ok t ↔ ∃ offset date time, f.offset = some offset ∧ f.date = .ok date ∧
      f.time = .ok time ∧ Timestamp.ofLocal? date time offset = some t := by
  unfold timestamp
  cases f.offset with
  | none =>
    constructor
    · intro impossible
      cases impossible
    · rintro ⟨_, _, _, impossible, _⟩
      cases impossible
  | some offset =>
    constructor
    · intro computed
      obtain ⟨date, dated, rest⟩ := (bind_eq_ok_iff ..).mp computed
      obtain ⟨time, timed, rest⟩ := (bind_eq_ok_iff ..).mp rest
      split at rest
      next made =>
        cases rest
        exact ⟨offset, date, time, rfl, dated, timed, made⟩
      next => cases rest
    · rintro ⟨_, date, time, same, dated, timed, made⟩
      cases same
      simp only [dated, timed, bind, Except.bind, made]
      rfl

end Fields

end RecordSchema.Calendar
