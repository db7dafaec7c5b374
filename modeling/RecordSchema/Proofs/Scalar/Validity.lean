import RecordSchema.Proofs.Scalar.Written
import RecordSchema.Proofs.Success

set_option autoImplicit false

/-!
Parsing a value and asking whether it is valid. The two go separate ways, with blanks and sentinels
in between, and agree on every raw value.
-/

namespace RecordSchema

theorem Json.rawText_of_blank {raw : Json} (blank : raw.isBlank = true) :
    Text.isBlankText raw.rawText = true ∨ raw.rawText ∈ ["false", "[]", "\x7b\x7d"] := by
  cases raw with
  | null => exact .inl rfl
  | str s => exact .inl blank
  | num n => cases blank
  | bool b =>
    cases b with
    | true => cases blank
    | false => exact .inr (by decide)
  | arr items =>
    obtain rfl : items = [] := List.isEmpty_iff.mp blank
    exact .inr (by decide)
  | obj fields =>
    obtain rfl : fields = [] := List.isEmpty_iff.mp blank
    exact .inr (by decide)

namespace Scalar

theorem checkInteger_visible {nonNegative : Bool} {text : String} {i : Int}
    (checked : checkInteger nonNegative text = .ok i) :
    ∃ c ∈ text.toList, Text.isBlank c = false := by
  simp only [checkInteger] at checked
  split at checked
  next => cases checked
  next filled =>
    split at checked
    next => cases checked
    next allowed =>
      rw [Bool.not_eq_true, List.isEmpty_eq_false_iff_exists_mem] at filled
      obtain ⟨c, member⟩ := filled
      refine ⟨c, member, ?_⟩
      have digitOrSign : c.isDigit = true ∨ c = '-' := by
        simp only [List.any_eq_true, not_exists, not_and] at allowed
        simpa [or_iff_not_imp_left] using allowed c member
      rcases digitOrSign with digit | rfl
      · exact Text.not_isBlank_of_isDigit digit
      · decide

theorem isCanonicalInteger_visible {cs : List Char} (canonical : isCanonicalInteger cs = true) :
    ∃ c ∈ cs, Text.isBlank c = false := by
  have visible {digits : List Char} (all : isCanonicalDigits digits = true) :
      ∃ c ∈ digits, Text.isBlank c = false := by
    simp only [isCanonicalDigits, Bool.and_eq_true, Bool.not_eq_true',
      List.isEmpty_eq_false_iff_exists_mem] at all
    obtain ⟨⟨⟨c, member⟩, digits⟩, _⟩ := all
    exact ⟨c, member, Text.not_isBlank_of_isDigit (List.all_eq_true.mp digits c member)⟩
  unfold isCanonicalInteger at canonical
  split at canonical
  next => exact ⟨'-', by simp, by decide⟩
  next => exact visible canonical

theorem checkFloat_visible {text : String} {d : Number.Double}
    (checked : checkFloat text = .ok d) : ∃ c ∈ text.toList, Text.isBlank c = false := by
  have finite := checkFloat_value checked
  simp only [checkFloat] at checked
  split at checked
  next => cases checked
  next =>
    split at checked
    next canonical => exact isCanonicalInteger_visible canonical
    next =>
      split at checked
      next other _ =>
        split at checked
        next same =>
          cases checked
          rw [← same]
          exact Number.Double.visible_chars finite
        next => cases checked
      next => cases checked

/-- A check that takes only texts with something to see, and none of the texts of the blank values
that have one, takes no blank value. -/
theorem not_blank_of_checked {α : Type} {check : String → Except CoercionError.Reason α}
    (visible : ∀ text a, check text = .ok a → ∃ c ∈ text.toList, Text.isBlank c = false)
    (refused : ∀ text ∈ ["false", "[]", "\x7b\x7d"], (check text).isOk = false) {raw : Json}
    (checked : (check raw.rawText).isOk = true) : raw.isBlank = false := by
  by_contra blank
  rw [Bool.not_eq_false] at blank
  rcases Json.rawText_of_blank blank with unseen | listed
  · obtain ⟨a, passed⟩ := exists_of_isOk checked
    obtain ⟨c, member, seen⟩ := visible _ a passed
    have hidden := List.all_eq_true.mp unseen c member
    rw [seen] at hidden
    cases hidden
  · rw [refused _ listed] at checked
    cases checked

theorem not_blank_of_checkInteger {nonNegative : Bool} {raw : Json}
    (checked : (checkInteger nonNegative raw.rawText).isOk = true) : raw.isBlank = false := by
  refine not_blank_of_checked (fun _ _ => checkInteger_visible) ?_ checked
  cases nonNegative <;> decide +kernel

theorem not_blank_of_checkFloat {raw : Json} (checked : (checkFloat raw.rawText).isOk = true) :
    raw.isBlank = false := by
  refine not_blank_of_checked (fun _ _ => checkFloat_visible) ?_ checked
  decide +kernel

theorem boolean?_of_blank {raw : Json} (blank : raw.isBlank = true)
    (unflagged : ∀ flag, raw ≠ .bool flag) : boolean? raw = none := by
  cases raw with
  | bool flag => exact absurd rfl (unflagged flag)
  | num n => cases blank
  | str s =>
    rw [boolean?, booleanWord?, Text.trim_of_blank blank]
    rfl
  | _ => rfl

end Scalar

namespace BuiltIn

variable {b : BuiltIn} {settings : ScalarSettings} {raw : Json}

/-- The raw value is a text that the type takes for nil. -/
def takesForNil (b : BuiltIn) (settings : ScalarSettings) (raw : Json) : Bool :=
  b.hasSentinels && settings.isSentinel raw

/-- Parsing and validity agree on which raw values are refused and which give a value. -/
structure Agrees (b : BuiltIn) (settings : ScalarSettings) (raw : Json) : Prop where
  refused : (∃ e, b.parse settings raw = .error e) ↔
    b.isValid settings raw = false ∧ raw.isBlank = false ∧ b.takesForNil settings raw = false
  given : (∃ value, b.parse settings raw = .ok value ∧ value ≠ .nil) ↔
    b.isValid settings raw = true ∧ b.takesForNil settings raw = false

theorem report_eq_error_iff {α : Type} (b : BuiltIn) (raw : Json) (toValue : α → Value)
    (checked : Except CoercionError.Reason α) (e : CoercionError) :
    b.report raw toValue checked = .error e ↔
      ∃ reason, checked = .error reason ∧ ⟨b.name, raw.rawText, reason⟩ = e := by
  cases checked <;> simp [report]

theorem outcomes_of_report {α : Type} {exempt : Bool} {toValue : α → Value}
    {checked : Except CoercionError.Reason α} (valued : ∀ a, toValue a ≠ .nil)
    (parsed : b.parse settings raw = if exempt then .ok .nil else b.report raw toValue checked) :
    ((∃ e, b.parse settings raw = .error e) ↔ exempt = false ∧ checked.isOk = false) ∧
      ((∃ value, b.parse settings raw = .ok value ∧ value ≠ .nil) ↔
        exempt = false ∧ checked.isOk = true) := by
  rw [parsed]
  cases exempt with
  | true => simp
  | false =>
    cases checked with
    | error reason => simp [report, Except.isOk, Except.toBool]
    | ok a => simp [report, Except.isOk, Except.toBool, valued a]

/-- A type of numbers checks what is neither blank nor a sentinel, and its check takes no blanks. -/
theorem agrees_of_number {α : Type} {toValue : α → Value}
    {checked : Except CoercionError.Reason α} (valued : ∀ a, toValue a ≠ .nil)
    (parsed : b.parse settings raw =
      if raw.isBlank || settings.isSentinel raw then .ok .nil else b.report raw toValue checked)
    (valid : b.isValid settings raw = checked.isOk) (sentinels : b.hasSentinels = true)
    (filled : checked.isOk = true → raw.isBlank = false) : b.Agrees settings raw := by
  obtain ⟨refused, given⟩ := outcomes_of_report valued parsed
  have own : b.takesForNil settings raw = settings.isSentinel raw := by
    rw [takesForNil, sentinels, Bool.true_and]
  constructor
  · rw [refused, valid, own, Bool.or_eq_false_iff, and_comm]
  · rw [given, valid, own, Bool.or_eq_false_iff]
    constructor
    · rintro ⟨⟨_, other⟩, passed⟩
      exact ⟨passed, other⟩
    · rintro ⟨passed, other⟩
      exact ⟨⟨filled passed, other⟩, passed⟩

/-- A type of dates checks what is not blank, and nothing blank is valid. -/
theorem agrees_of_date {α : Type} {toValue : α → Value}
    {checked : Except CoercionError.Reason α} (valued : ∀ a, toValue a ≠ .nil)
    (parsed : b.parse settings raw =
      if raw.isBlank then .ok .nil else b.report raw toValue checked)
    (valid : b.isValid settings raw = (!raw.isBlank && checked.isOk))
    (sentinels : b.hasSentinels = false) : b.Agrees settings raw := by
  obtain ⟨refused, given⟩ := outcomes_of_report valued parsed
  have none : b.takesForNil settings raw = false := by
    rw [takesForNil, sentinels, Bool.false_and]
  constructor
  · rw [refused, valid, none]
    cases raw.isBlank <;> simp
  · rw [given, valid, none]
    cases raw.isBlank <;> simp

theorem agrees_boolean (settings : ScalarSettings) (raw : Json) :
    BuiltIn.boolean.Agrees settings raw := by
  have own : BuiltIn.boolean.takesForNil settings raw = false := rfl
  by_cases flagged : ∃ flag, raw = .bool flag
  next =>
    -- The flag false is blank and valid at once.
    obtain ⟨flag, rfl⟩ := flagged
    constructor <;> simp [parse, isValid, Scalar.boolean?, own]
  next =>
    have unflagged (flag : Bool) : raw ≠ .bool flag := fun same => flagged ⟨flag, same⟩
    have parsed : BuiltIn.boolean.parse settings raw =
        if raw.isBlank then .ok .nil
        else (Scalar.boolean? raw).elim (.error ⟨BuiltIn.boolean.name, raw.rawText, .notABoolean⟩)
          fun flag => .ok (.boolean flag) := by
      cases raw with
      | bool flag => exact absurd rfl (unflagged flag)
      | null | num _ | str _ | arr _ | obj _ =>
        simp only [parse]
        cases Scalar.boolean? _ <;> rfl
    cases blank : raw.isBlank with
    | true =>
      have unread := Scalar.boolean?_of_blank blank unflagged
      constructor <;> simp [parsed, isValid, unread, blank]
    | false =>
      cases read : Scalar.boolean? raw with
      | none => constructor <;> simp [parsed, isValid, read, blank, own]
      | some flag => constructor <;> simp [parsed, isValid, read, blank, own]

theorem agrees (b : BuiltIn) (settings : ScalarSettings) (raw : Json) : b.Agrees settings raw := by
  cases b with
  | integer =>
    exact agrees_of_number (by simp) rfl rfl rfl Scalar.not_blank_of_checkInteger
  | positiveInteger =>
    exact agrees_of_number (by simp) rfl rfl rfl Scalar.not_blank_of_checkInteger
  | float => exact agrees_of_number (by simp) rfl rfl rfl Scalar.not_blank_of_checkFloat
  | date => exact agrees_of_date (by simp) rfl rfl rfl
  | datetime => exact agrees_of_date (by simp) rfl rfl rfl
  | string =>
    constructor
    · simp only [parse, isValid]
      split <;> simp
    · simp only [parse, isValid, takesForNil, hasSentinels]
      split <;> simp
  | boolean => exact agrees_boolean settings raw

theorem error_of_report {α : Type} {exempt : Bool} {toValue : α → Value}
    {checked : Except CoercionError.Reason α} {e : CoercionError}
    (failed : (if exempt then .ok .nil else b.report raw toValue checked) = .error e) :
    e.typeName = b.name ∧ e.raw = raw.rawText := by
  split at failed
  next => cases failed
  next =>
    obtain ⟨reason, _, rfl⟩ := (report_eq_error_iff ..).mp failed
    exact ⟨rfl, rfl⟩

theorem error_of_parse {e : CoercionError} (failed : b.parse settings raw = .error e) :
    e.typeName = b.name ∧ e.raw = raw.rawText := by
  cases b with
  | integer | positiveInteger | float | date | datetime => exact error_of_report failed
  | string =>
    simp only [parse] at failed
    split at failed <;> cases failed
  | boolean =>
    simp only [parse] at failed
    repeat' split at failed
    all_goals cases failed
    exact ⟨rfl, rfl⟩

/-- A raw value is refused when it is neither valid nor exempt, and only then; and what is given for
a valid value is never nil. -/
theorem parse_agrees_isValid (b : BuiltIn) (settings : ScalarSettings) (raw : Json) :
    ((∃ e, b.parse settings raw = .error e) ↔ b.isValid settings raw = false ∧
      raw.isBlank = false ∧ b.takesForNil settings raw = false) ∧
    ((∃ value, b.parse settings raw = .ok value ∧ value ≠ .nil) ↔
      b.isValid settings raw = true ∧ b.takesForNil settings raw = false) ∧
    (b = .string → ∃ text, b.parse settings raw = .ok (.string text)) ∧
    (∀ value, b.parse settings raw = .ok value → b.HasValue value) ∧
    ∀ e, b.parse settings raw = .error e → e.typeName = b.name ∧ e.raw = raw.rawText := by
  obtain ⟨refused, given⟩ := b.agrees settings raw
  refine ⟨refused, given, ?_, fun _ => b.hasValue_of_parse settings raw, fun _ => error_of_parse⟩
  rintro rfl
  simp only [parse]
  split
  next => exact ⟨"", rfl⟩
  next => exact ⟨raw.rawText, rfl⟩

end BuiltIn

end RecordSchema
