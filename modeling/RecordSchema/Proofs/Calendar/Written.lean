import RecordSchema.Proofs.Calendar.Scanning
import RecordSchema.Scalar.Date

set_option autoImplicit false

/-!
Written dates and timestamps: their texts are read as they are by the template of dates, by RFC 3339
and, where the year does not fit that, by the template that stands in for it.
-/

namespace RecordSchema.Calendar

open RecordSchema.Text RecordSchema.Number RecordSchema.Scalar

/-- The items of a template read from the front of a text, and what is left. -/
def Template.readFrom (template : Template) (f : Fields) (cs : List Char) :
    Option (Fields × List Char) :=
  template.foldlM (fun (state : Fields × List Char) item => readItem item state.1 state.2) (f, cs)

namespace Template

@[simp] theorem readFrom_nil (f : Fields) (cs : List Char) : readFrom [] f cs = some (f, cs) := rfl

theorem readFrom_cons (item : Item) (template : Template) (f : Fields) (cs : List Char) :
    readFrom (item :: template) f cs =
      (readItem item f cs).bind fun state => readFrom template state.1 state.2 := by
  rw [readFrom, List.foldlM_cons]
  rfl

theorem readFrom_append (front back : Template) (f : Fields) (cs : List Char) :
    readFrom (front ++ back) f cs =
      (readFrom front f cs).bind fun state => readFrom back state.1 state.2 := by
  rw [readFrom, List.foldlM_append]
  rfl

theorem fields?_eq_some_iff (template : Template) (cs : List Char) (f : Fields) :
    template.fields? cs = some f ↔ template.readFrom {} cs = some (f, []) := by
  unfold fields? readFrom
  split
  next read => simp [read]
  next other =>
    constructor
    · intro impossible
      cases impossible
    · intro read
      exact absurd read (other f)

theorem fields?_eq_none {template : Template} {cs : List Char}
    (unread : template.readFrom {} cs = none) : template.fields? cs = none := by
  rw [← Option.not_isSome_iff_eq_none, Option.isSome_iff_exists]
  rintro ⟨f, read⟩
  rw [fields?_eq_some_iff, unread] at read
  cases read

end Template

@[simp] theorem readItem_literal (c : Char) (f : Fields) (rest : List Char) :
    readItem (.literal c) f (c :: rest) = some (f, rest) := by
  simp [readItem, readSimpleItem]

/-- A template reads two digits as any other reader of two digits does. -/
theorem readItem_two (field : NumericField) {set : Fields → Int → Settled Fields}
    (width : field.width? = some 2) (sets : setNumber field = set) (f : Fields) (n : Nat)
    (rest : List Char) : readItem (.number field) f (paddedDigits 2 n ++ rest) =
      setFrom (Scan.number (paddedDigits 2 n ++ rest) 1 2) (set f) := by
  change setFrom (readNumber field (paddedDigits 2 n ++ rest)) (setNumber field f) = _
  simp only [readNumber, trimStart_paddedDigits, width, Option.getD_some, sets]
  split
  next => cases width
  next => cases width
  next => rfl

theorem readItem_year (d : Date) (rest : List Char) :
    readItem (.number .year) {} (yearChars d.year ++ '-' :: rest) =
      some ({ year := some d.year }, '-' :: rest) := by
  obtain ⟨bounded, _⟩ := d.bounds
  change setFrom (readNumber .year (yearChars d.year ++ '-' :: rest)) ({} : Fields).setYear = _
  rw [readNumber_yearChars bounded (noDigitFirst_cons.mpr rfl)]
  exact setFrom_some (Fields.setYear_of_none rfl (by omega)) _

theorem readFrom_hyphenDate (d : Date) (rest : List Char) :
    hyphenDate.readFrom {} (d.chars ++ rest) = some (d.fields, rest) := by
  obtain ⟨_, months, days⟩ := d.bounds
  have text : d.chars ++ rest = yearChars d.year ++
      '-' :: (paddedDigits 2 d.month ++ '-' :: (paddedDigits 2 d.day ++ rest)) := by
    simp [Date.chars]
  rw [text]
  simp only [hyphenDate, Template.readFrom_cons, readItem_year, readItem_literal,
    @readItem_two .month Fields.setMonth rfl rfl, @readItem_two .day Fields.setDay rfl rfl,
    setFrom_month _ months (Nat.le_succ 1), setFrom_day _ days (Nat.le_succ 1), Option.bind_some,
    Template.readFrom_nil]
  rfl

namespace TimeOfDay

def clockChars (t : TimeOfDay) : List Char :=
  paddedDigits 2 t.hour ++ ':' :: paddedDigits 2 t.minute ++ ':' :: paddedDigits 2 t.writtenSecond

theorem chars_eq (t : TimeOfDay) : t.chars = t.clockChars ++ fractionChars t.fraction := by
  obtain ⟨_, _, _, nanosecond⟩ := t.valid
  by_cases leap : 1000000000 ≤ t.nanosecond
  next =>
    have part : t.nanosecond - 1000000000 = t.nanosecond % 1000000000 := by omega
    simp [chars, clockChars, writtenSecond, TimeOfDay.fraction, leap, part]
  next =>
    have part : t.nanosecond % 1000000000 = t.nanosecond := by omega
    simp [chars, clockChars, writtenSecond, TimeOfDay.fraction, leap, part]

end TimeOfDay

theorem readFrom_clock (t : TimeOfDay) (d : Date) (whole : t.fraction = 0) (rest : List Char) :
    Template.clock.readFrom d.fields (t.clockChars ++ rest) = some (t.addFields d.fields, rest) := by
  obtain ⟨hours, minutes, _, _⟩ := t.valid
  have text : t.clockChars ++ rest = paddedDigits 2 t.hour ++
      ':' :: (paddedDigits 2 t.minute ++ ':' :: (paddedDigits 2 t.writtenSecond ++ rest)) := by
    simp [TimeOfDay.clockChars]
  rw [text]
  simp only [Template.clock, Template.readFrom_cons, readItem_literal,
    @readItem_two .hour Fields.setHour rfl rfl, @readItem_two .minute Fields.setMinute rfl rfl,
    @readItem_two .second Fields.setSecond rfl rfl, Date.fields,
    setFrom_hour _ _ (Nat.le_of_lt_succ hours) (Nat.le_succ 1),
    setFrom_minute _ (Nat.le_of_lt_succ minutes) (Nat.le_succ 1),
    setFrom_second _ t.writtenSecond_le (Nat.le_succ 1), Option.bind_some, Template.readFrom_nil,
    TimeOfDay.addFields, whole, if_true]

theorem takesColon_char :
    ({ zulu := true, between := Scan.char ':' } : Scan.OffsetRules).TakesColon :=
  fun d rest _ => Scan.char_cons ':' (d :: rest)

theorem takesColon_colonsAndBlanks : Scan.templateOffset.TakesColon := by
  intro d rest digit
  have notColon : d ≠ ':' := by
    rintro rfl
    cases digit
  simp [Scan.templateOffset, Scan.colonsAndBlanks, notColon, not_isBlank_of_isDigit digit]

theorem offsetChars_cons (offset : Int) :
    ∃ sign rest, offsetChars offset = sign :: rest ∧ (sign = '+' ∨ sign = '-') := by
  refine ⟨_, _, rfl, ?_⟩
  split
  · exact .inr rfl
  · exact .inl rfl

theorem readItem_offset {f : Fields} (unset : f.offset = none) {offset : Int}
    (whole : offset % 60 = 0) (bounded : -86400 < offset ∧ offset < 86400) :
    readItem .offset f (offsetChars offset) = some ({ f with offset := some offset }, []) := by
  have scanned := Scan.offset_offsetChars takesColon_colonsAndBlanks whole bounded []
  have visible : trimStart (offsetChars offset) = offsetChars offset := by
    obtain ⟨sign, rest, shape, rfl | rfl⟩ := offsetChars_cons offset
    · rw [shape, trimStart_cons (by decide)]
    · rw [shape, trimStart_cons (by decide)]
  rw [List.append_nil] at scanned
  change setFrom (Scan.offset Scan.templateOffset (trimStart (offsetChars offset))) f.setOffset = _
  rw [visible, scanned, setFrom, Fields.setOffset_of_none unset (by omega)]
  rfl

namespace Timestamp

/-- A timestamp that its text gives back: it is a moment in UTC, too, its offset has no part of a
minute, and a year that RFC 3339 has no text for comes without a fraction of a second. -/
structure Readable (t : Timestamp) : Prop where
  reachable : ofLocal? t.date t.time t.offset = some t
  minutes : t.offset % 60 = 0
  plain : (0 ≤ t.date.year ∧ t.date.year ≤ 9999) ∨ t.time.fraction = 0

theorem Readable.of_fields {t : Timestamp} (readable : t.Readable) : t.fields.timestamp = .ok t :=
  Fields.timestamp_eq_ok_iff.mpr
    ⟨t.offset, t.date, t.time, rfl, t.date_fields, t.time_fields, readable.reachable⟩

theorem chars_eq (t : Timestamp) :
    t.chars = t.date.chars ++
      'T' :: (t.time.clockChars ++ (fractionChars t.time.fraction ++ offsetChars t.offset)) := by
  simp [chars, TimeOfDay.chars_eq]

theorem readFrom_zoned {t : Timestamp} (minutes : t.offset % 60 = 0) (whole : t.time.fraction = 0) :
    Template.readFrom (hyphenDate ++ [.literal 'T'] ++ Template.clock ++ [.offset]) {} t.chars =
      some (t.fields, []) := by
  have nothing : fractionChars t.time.fraction = [] := if_pos whole
  rw [chars_eq, nothing, List.nil_append]
  simp only [Template.readFrom_append, readFrom_hyphenDate, Option.bind_some,
    Template.readFrom_cons, readItem_literal, Template.readFrom_nil, readFrom_clock _ _ whole,
    readItem_offset (show (t.time.addFields t.date.fields).offset = none from rfl) minutes
      t.offset_lt]
  rfl

theorem rfc3339Fields?_chars {t : Timestamp} (minutes : t.offset % 60 = 0)
    (year : 0 ≤ t.date.year ∧ t.date.year ≤ 9999) : rfc3339Fields? t.chars = some t.fields := by
  obtain ⟨_, months, days⟩ := t.date.bounds
  obtain ⟨hours, minute, second, _⟩ := t.time.valid
  have text : t.chars = paddedDigits 4 t.date.year.toNat ++
      '-' :: (paddedDigits 2 t.date.month ++ '-' :: (paddedDigits 2 t.date.day ++
        'T' :: (paddedDigits 2 t.time.hour ++ ':' :: (paddedDigits 2 t.time.minute ++
          ':' :: (paddedDigits 2 t.time.writtenSecond ++
            (fractionChars t.time.fraction ++ offsetChars t.offset)))))) := by
    rw [chars_eq, Date.chars, yearChars, if_pos year]
    simp [TimeOfDay.clockChars]
  have year_read (rest : List Char) : setFrom (Scan.number
      (paddedDigits 4 t.date.year.toNat ++ rest) 4 4) ({} : Fields).setYear =
        some ({ year := some t.date.year }, rest) := by
    rw [Scan.number_paddedDigits (by decide) (by omega) (by decide) (by decide),
      Int.toNat_of_nonneg year.1]
    exact setFrom_some (Fields.setYear_of_none rfl (by omega)) rest
  rw [text, rfc3339Fields?]
  simp only [year_read, Scan.char_cons, setFrom_month _ months le_rfl, setFrom_day _ days le_rfl,
    Option.bind_eq_bind, Option.bind_some, List.head?_cons, Option.map_some, List.drop_succ_cons,
    List.drop_zero, setFrom_hour _ _ (Nat.le_of_lt_succ hours) le_rfl,
    setFrom_minute _ (Nat.le_of_lt_succ minute) le_rfl,
    setFrom_second _ t.time.writtenSecond_le le_rfl]
  have fraction (f : Fields) (unset : f.nanosecond = none) :
      readFraction Scan.fraction f (fractionChars t.time.fraction ++ offsetChars t.offset) =
        some ({ f with nanosecond := if t.time.fraction = 0 then none else some t.time.fraction },
          offsetChars t.offset) := by
    have part : t.time.fraction < 1000000000 := Nat.mod_lt _ (by decide)
    obtain ⟨sign, rest, shape, mark⟩ := offsetChars_cons t.offset
    rw [shape]
    refine readFraction_fractionChars part unset (noDigitFirst_cons.mpr ?_) ?_
    · rcases mark with rfl | rfl <;> rfl
    · rcases mark with rfl | rfl <;> simp
  have offset : Scan.offset { zulu := true, between := Scan.char ':' } (offsetChars t.offset) =
      some (t.offset, []) := by
    have scanned := Scan.offset_offsetChars takesColon_char minutes t.offset_lt []
    rwa [List.append_nil] at scanned
  -- A minute less than a day is the most that RFC 3339 takes, and there is none between.
  have inRange : ¬ (t.offset < -86340 ∨ 86340 < t.offset ∨ (!([] : List Char).isEmpty) = true) := by
    obtain ⟨low, high⟩ := t.offset_lt
    simp
    omega
  have mark : ¬ ((!isDateTimeMark 'T') = true) := by decide
  rw [if_neg mark, fraction _ rfl]
  simp only [Option.bind_some, offset, if_neg inRange]
  rw [Fields.setOffset_of_none rfl (by omega)]
  rfl

end Timestamp

theorem Scan.number_of_noDigitFirst {cs : List Char} (stop : NoDigitFirst cs) {least : Nat}
    (some_digit : 0 < least) (most : Nat) : number cs least most = none := by
  simp [number, (stop.take most).takeWhile, some_digit]

theorem Scan.weekday_sign {sign : Char} (mark : sign = '+' ∨ sign = '-') (rest : List Char) :
    weekday false (sign :: rest) = none := by
  have lower : sign.toLower = sign := by rcases mark with rfl | rfl <;> decide
  have other (letter : Char) (small : letter.isLower = true) : sign ≠ letter := by
    rintro rfl
    rcases mark with rfl | rfl <;> cases small
  simp [weekday, longName, name, weekdays, word, lower, other]

theorem rfc3339Fields?_of_noDigitFirst {cs : List Char} (stop : NoDigitFirst cs) :
    rfc3339Fields? cs = none := by
  unfold rfc3339Fields?
  rw [Scan.number_of_noDigitFirst stop (by decide)]
  rfl

theorem rfc2822Fields?_of_sign {sign : Char} (mark : sign = '+' ∨ sign = '-') (rest : List Char) :
    rfc2822Fields? (sign :: rest) = none := by
  have visible : trimStart (sign :: rest) = sign :: rest := by
    rcases mark with rfl | rfl <;> exact trimStart_cons (by decide) rest
  have stop : NoDigitFirst (sign :: rest) := by
    rcases mark with rfl | rfl <;> simp
  have noDay : setFrom (Scan.number (trimStart (sign :: rest)) 1 2) ({} : Fields).setDay = none := by
    rw [visible, Scan.number_of_noDigitFirst stop (by decide)]
    rfl
  unfold rfc2822Fields?
  extract_lets start zone clock
  have fromDay : clock ({}, sign :: rest) = none := by
    change (setFrom (Scan.number (trimStart (sign :: rest)) 1 2) ({} : Fields).setDay).bind _ = none
    rw [noDay]
    rfl
  have begun : start = sign :: rest := visible
  clear_value start clock
  rw [begun, Scan.weekday_sign mark]
  exact fromDay

theorem commonDate?_chars (d : Date) : commonDate? d.chars = some d := by
  have read := readFrom_hyphenDate d []
  rw [List.append_nil, ← Template.fields?_eq_some_iff] at read
  have dated : Template.date? hyphenDate d.chars = some d := by
    rw [Template.date?, read, Option.bind_some, d.date_fields]
    rfl
  have first : commonDateTemplates.findSome? (Template.date? · d.chars) = some d := by
    rw [hyphenDate] at dated
    rw [commonDateTemplates, List.findSome?_cons, dated]
  rw [commonDate?, first]
  rfl

theorem readFrom_blankZoned (t : Timestamp) :
    Template.readFrom (hyphenDate ++ [.blanks] ++ Template.clock ++ [.blanks, .offset]) {} t.chars =
      none := by
  -- The blanks before the hour may be none, but a T is not the digit that must follow.
  have hour (f : Fields) (rest : List Char) : readItem (.number .hour) f ('T' :: rest) = none := by
    change setFrom (Scan.number (trimStart ('T' :: rest)) 1 2) f.setHour = none
    rw [trimStart_cons (by decide),
      Scan.number_of_noDigitFirst (noDigitFirst_cons.mpr rfl) (by decide)]
    rfl
  have blanks (f : Fields) (rest : List Char) :
      readItem .blanks f ('T' :: rest) = some (f, 'T' :: rest) := by
    change some (f, trimStart ('T' :: rest)) = _
    rw [trimStart_cons (by decide)]
  rw [t.chars_eq]
  simp only [Template.readFrom_append, readFrom_hyphenDate, Option.bind_some,
    Template.readFrom_cons, blanks, Template.readFrom_nil, Template.clock, hour, Option.bind_none]

theorem exists_yearChars_cons {year : Int} (signed : ¬ (0 ≤ year ∧ year ≤ 9999)) :
    ∃ sign rest, (sign = '+' ∨ sign = '-') ∧ yearChars year = sign :: rest := by
  rw [yearChars, if_neg signed]
  split
  · exact ⟨'-', _, .inr rfl, rfl⟩
  · exact ⟨'+', _, .inl rfl, rfl⟩

theorem Timestamp.exists_chars_cons (t : Timestamp)
    (signed : ¬ (0 ≤ t.date.year ∧ t.date.year ≤ 9999)) :
    ∃ sign rest, (sign = '+' ∨ sign = '-') ∧ t.chars = sign :: rest := by
  obtain ⟨sign, rest, mark, shape⟩ := exists_yearChars_cons signed
  rw [t.chars_eq, Date.chars, shape]
  exact ⟨sign, _, mark, rfl⟩

theorem Timestamp.rfc3339?_chars_of_sign (t : Timestamp)
    (signed : ¬ (0 ≤ t.date.year ∧ t.date.year ≤ 9999)) : rfc3339? t.chars = none := by
  obtain ⟨sign, rest, mark, shape⟩ := t.exists_chars_cons signed
  have stop : NoDigitFirst (sign :: rest) := by
    rcases mark with rfl | rfl <;> simp
  rw [rfc3339?, shape, rfc3339Fields?_of_noDigitFirst stop]
  rfl

theorem Timestamp.Readable.timestamp?_chars {t : Timestamp} (readable : t.Readable) :
    timestamp? t.chars = some t := by
  by_cases plain : 0 ≤ t.date.year ∧ t.date.year ≤ 9999
  next =>
    have read : rfc3339? t.chars = some t := by
      rw [rfc3339?, rfc3339Fields?_chars readable.minutes plain, Option.bind_some,
        readable.of_fields]
      rfl
    rw [timestamp?, read]
    rfl
  next =>
    have whole : t.time.fraction = 0 := readable.plain.resolve_left plain
    obtain ⟨sign, rest, mark, shape⟩ := t.exists_chars_cons plain
    have not3339 : rfc3339? t.chars = none := t.rfc3339?_chars_of_sign plain
    have not2822 : rfc2822? t.chars = none := by
      rw [rfc2822?, shape, rfc2822Fields?_of_sign mark]
      rfl
    have blankZoned : Template.timestamp?
        (hyphenDate ++ [.blanks] ++ Template.clock ++ [.blanks, .offset]) t.chars = none := by
      rw [Template.timestamp?, Template.fields?_eq_none (readFrom_blankZoned t), Option.bind_none]
    have zoned : Template.timestamp? (hyphenDate ++ [.literal 'T'] ++ Template.clock ++ [.offset])
        t.chars = some t := by
      have read := Timestamp.readFrom_zoned readable.minutes whole
      rw [← Template.fields?_eq_some_iff] at read
      rw [Template.timestamp?, read, Option.bind_some, readable.of_fields]
      rfl
    simp only [timestamp?, not3339, not2822, zonedTemplates, List.findSome?_cons, blankZoned, zoned]
    rfl

end RecordSchema.Calendar
