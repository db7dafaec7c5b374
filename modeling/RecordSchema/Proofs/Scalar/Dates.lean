import RecordSchema.Proofs.Calendar.Colons
import RecordSchema.Scalar.Basic
import RecordSchema.Value.Written

set_option autoImplicit false

/-!
The types of dates and timestamps: what they read they read again from the text that it is written
as, and what is a date to the one is a timestamp of that date to the other.
-/

namespace RecordSchema

namespace Calendar

open Text Number

@[simp] theorem visible_paddedDigits (width n : Nat) : Visible (paddedDigits width n) :=
  fun _ member => not_isBlank_of_isDigit (isDigit_of_mem_paddedDigits member)

theorem visible_sign (negative : Prop) [Decidable negative] :
    isBlank (if negative then '-' else '+') = false := by
  split <;> decide

theorem visible_point : isBlank '.' = false := by decide

theorem visible_colon : isBlank ':' = false := by decide

theorem visible_hyphen : isBlank '-' = false := by decide

theorem Date.visible_chars (d : Date) : Visible d.chars := by
  have year : Visible (yearChars d.year) := by
    unfold yearChars
    split <;> simp [visible_sign]
  simp [chars, year, visible_hyphen]

theorem Date.isBlankText_text (d : Date) : isBlankText d.text = false :=
  isBlankText_ofList_eq_false (show '-' ∈ d.chars by simp [chars]) visible_hyphen

theorem Timestamp.visible_chars (t : Timestamp) : Visible t.chars := by
  have fraction : Visible (fractionChars t.time.fraction) := by
    unfold fractionChars
    repeat' split
    all_goals simp [visible_point]
  have separator : isBlank 'T' = false := by decide
  rw [t.chars_eq]
  simp [TimeOfDay.clockChars, offsetChars, t.date.visible_chars, fraction, separator, visible_sign,
    visible_colon]

theorem Timestamp.isBlankText_text (t : Timestamp) : isBlankText t.text = false :=
  isBlankText_ofList_eq_false (show ':' ∈ t.chars by simp [chars_eq, TimeOfDay.clockChars])
    visible_colon

end Calendar

namespace Scalar

open Calendar

theorem trim_text (cs : List Char) (visible : Text.Visible cs) :
    Text.trim (String.ofList cs) = String.ofList cs := by
  rw [Text.trim, String.toList_ofList, visible.trimChars]

theorem checkDate_text {formats : List DateFormat} {d : Date}
    (unmatched : ∀ format ∈ formats, format.pattern.isMatch d.text = false) :
    checkDate formats d.text = .ok d := by
  have own : Text.trim d.text = d.text := trim_text d.chars d.visible_chars
  have none : formats.find? (fun format => format.pattern.isMatch d.text) = none := by
    rw [List.find?_eq_none]
    intro format member
    simp [unmatched format member]
  have read : commonDate? d.text.toList = some d := by
    rw [Date.text, String.toList_ofList, commonDate?_chars]
  simp only [checkDate, own, none, read]

theorem checkTimestamp_eq_ok_iff {text : String} {t : Timestamp} :
    checkTimestamp text = .ok t ↔ timestamp? (Text.trimChars text.toList) = some t := by
  unfold checkTimestamp
  split
  next read => simp [read]
  next unread => simp [unread]

theorem checkTimestamp_text {t : Timestamp} (readable : t.Readable) :
    checkTimestamp t.text = .ok t := by
  rw [checkTimestamp_eq_ok_iff, Timestamp.text, String.toList_ofList, t.visible_chars.trimChars,
    readable.timestamp?_chars]

end Scalar

namespace BuiltIn

open Calendar

theorem parse_datetime_eq_ok_iff (settings : ScalarSettings) {raw : Json}
    (filled : raw.isBlank = false) (t : Timestamp) :
    datetime.parse settings raw = .ok (.datetime t) ↔ Scalar.checkTimestamp raw.rawText = .ok t := by
  simp only [parse, filled, Bool.false_eq_true, if_false]
  cases Scalar.checkTimestamp raw.rawText <;> simp [report]

theorem isBlank_of_parse_datetime {settings : ScalarSettings} {raw : Json} {t : Timestamp}
    (parsed : datetime.parse settings raw = .ok (.datetime t)) : raw.isBlank = false := by
  rw [Bool.eq_false_iff]
  intro blank
  simp only [parse, blank, if_true] at parsed
  cases parsed

/-- In a year that RFC 3339 has no text for, another template reads the text. -/
theorem dates_survive_their_text (settings : ScalarSettings) :
    (∀ d : Date, (∀ format ∈ settings.dateFormats, format.pattern.isMatch d.text = false) →
      date.parse settings (Value.date d).toJson = .ok (.date d)) ∧
    ∀ (other : ScalarSettings) (raw : Json) (t : Timestamp),
      datetime.parse other raw = .ok (.datetime t) →
        datetime.parse settings (Value.datetime t).toJson = .ok (.datetime t) ∧
          (¬ (0 ≤ t.date.year ∧ t.date.year ≤ 9999) → rfc3339? t.text.toList = none) := by
  constructor
  · intro d unmatched
    have filled : (Json.str d.text).isBlank = false := d.isBlankText_text
    simp only [Value.toJson, parse, filled, Bool.false_eq_true, if_false, Json.rawText,
      Scalar.checkDate_text unmatched, report]
  · intro other raw t parsed
    have checked := (parse_datetime_eq_ok_iff other (isBlank_of_parse_datetime parsed) t).mp parsed
    have readable := readable_of_timestamp? (Scalar.checkTimestamp_eq_ok_iff.mp checked)
    refine ⟨?_, fun signed => ?_⟩
    · have filled : (Json.str t.text).isBlank = false := t.isBlankText_text
      exact (parse_datetime_eq_ok_iff settings filled t).mpr (Scalar.checkTimestamp_text readable)
    · rw [Timestamp.text, String.toList_ofList, t.rfc3339?_chars_of_sign signed]

theorem dates_survive_their_text_leapSecond :
    let day : Date := ⟨-1, 12, 31, by decide⟩
    let moment : Timestamp := ⟨day, ⟨23, 59, 59, 1000000000, by decide⟩, 19800, by decide⟩
    ∃ format, DateFormat.ofTexts? "%Y%m%d" "^[0-9]{8}$" = some format ∧
      format.pattern.isMatch day.text = false ∧
      date.parse ⟨.empty, [format]⟩ (.str day.text) = .ok (.date day) ∧
      datetime.parse .empty (.str " -0001-12-31 23:59:60 +0530 ") = .ok (.datetime moment) ∧
      datetime.parse ⟨.empty, [format]⟩ (.str moment.text) = .ok (.datetime moment) ∧
      rfc3339? moment.text.toList = none := by
  intro day moment
  obtain ⟨format, made⟩ : ∃ format, DateFormat.ofTexts? "%Y%m%d" "^[0-9]{8}$" = some format :=
    Option.isSome_iff_exists.mp rfl
  have text : day.text = "-0001-12-31" := by
    simp [day, Date.text, Date.chars, yearChars, Number.paddedDigits, Number.natDigits,
      Number.digitChar]
  have unmatched : format.pattern.isMatch day.text = false := by
    rw [text]
    cases made
    rfl
  have parsed : datetime.parse .empty (.str " -0001-12-31 23:59:60 +0530 ") =
      .ok (.datetime moment) := rfl
  obtain ⟨days, moments⟩ := dates_survive_their_text ⟨.empty, [format]⟩
  obtain ⟨same, unread⟩ := moments .empty _ moment parsed
  exact ⟨format, made, unmatched, days day (by simpa using unmatched), parsed, same,
    unread (by decide)⟩

theorem parse_date_eq_ok_iff (tokens : KeyMap Unit) {raw : Json} (filled : raw.isBlank = false)
    (d : Date) : date.parse ⟨tokens, []⟩ raw = .ok (.date d) ↔
      Scalar.commonDate? (Text.trimChars raw.rawText.toList) = some d := by
  simp only [parse, filled, Bool.false_eq_true, if_false, Scalar.checkDate, List.find?_nil,
    Text.trim, String.toList_ofList]
  cases Scalar.commonDate? (Text.trimChars raw.rawText.toList) <;> simp [report]

theorem parse_of_blank {raw : Json} (blank : raw.isBlank = true) (settings : ScalarSettings) :
    date.parse settings raw = .ok .nil ∧ datetime.parse settings raw = .ok .nil := by
  simp only [parse, blank, if_true, and_self]

theorem isBlank_of_parse_date {settings : ScalarSettings} {raw : Json}
    (parsed : date.parse settings raw = .ok .nil) : raw.isBlank = true := by
  rw [← Bool.not_eq_false]
  intro filled
  simp only [parse, filled, Bool.false_eq_true, if_false] at parsed
  cases checked : Scalar.checkDate settings.dateFormats raw.rawText with
  | ok d =>
    rw [checked] at parsed
    cases parsed
  | error reason =>
    rw [checked] at parsed
    cases parsed

/-- A date alone is its midnight in UTC; a timestamp in a standard form stays what it is. -/
theorem datetime_extends_date (tokens : KeyMap Unit) (settings : ScalarSettings) (raw : Json) :
    (∀ d, date.parse ⟨tokens, []⟩ raw = .ok (.date d) →
      ∃ t, datetime.parse settings raw = .ok (.datetime t) ∧ t.date = d ∧
        (standardTimestamp? (Text.trimChars raw.rawText.toList)).getD (.ofUtc d .midnight) = t) ∧
    (date.parse ⟨tokens, []⟩ raw = .ok .nil → datetime.parse settings raw = .ok .nil) := by
  constructor
  · intro d parsed
    have filled : raw.isBlank = false := by
      rw [Bool.eq_false_iff]
      intro blank
      rw [(parse_of_blank blank _).1] at parsed
      cases parsed
    rw [parse_date_eq_ok_iff tokens filled] at parsed
    obtain ⟨t, read, dated, standard⟩ := timestamp?_of_commonDate? parsed
    refine ⟨t, ?_, dated, standard⟩
    rw [parse_datetime_eq_ok_iff settings filled]
    exact Scalar.checkTimestamp_eq_ok_iff.mpr read
  · intro parsed
    exact (parse_of_blank (isBlank_of_parse_date parsed) settings).2

theorem datetime_extends_date_newYear :
    let day : Date := ⟨2021, 1, 1, by decide⟩
    let moment : Timestamp := ⟨day, ⟨0, 30, 0, 0, by decide⟩, 3600, by decide⟩
    (date.parse .empty (.str " Jan 1 2021") = .ok (.date day) ∧
      datetime.parse .empty (.str " Jan 1 2021") = .ok (.datetime (.ofUtc day .midnight))) ∧
    (date.parse .empty (.str "Fri, 1 Jan 2021 00:30 +0100") = .ok (.date day) ∧
      datetime.parse .empty (.str "Fri, 1 Jan 2021 00:30 +0100") = .ok (.datetime moment)) ∧
    date.parse .empty (.str " ") = .ok .nil ∧ datetime.parse .empty (.str " ") = .ok .nil := by
  intro day moment
  have layout : date.parse .empty (.str " Jan 1 2021") = .ok (.date day) := rfl
  have standard : date.parse .empty (.str "Fri, 1 Jan 2021 00:30 +0100") = .ok (.date day) := rfl
  have blank : date.parse .empty (.str " ") = .ok .nil := rfl
  obtain ⟨midnight, read, _, own⟩ := (datetime_extends_date .empty .empty _).1 day layout
  obtain ⟨written, read', _, own'⟩ := (datetime_extends_date .empty .empty _).1 day standard
  obtain rfl : .ofUtc day .midnight = midnight := own
  obtain rfl : moment = written := own'
  exact ⟨⟨layout, read⟩, ⟨standard, read'⟩, blank, (datetime_extends_date .empty .empty _).2 blank⟩

end BuiltIn

end RecordSchema
