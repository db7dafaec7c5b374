import RecordSchema.Proofs.Number.Integers
import RecordSchema.Proofs.Number.Layout
import RecordSchema.Proofs.Scalar.Values

set_option autoImplicit false

/-!
The integer types: they take exactly the raw values whose text writes an integer of 64 bits.
-/

namespace RecordSchema

namespace Scalar

/-- The guards in front of the reading refuse no text that writes an integer. -/
theorem checkInteger_eq_ok_iff (nonNegative : Bool) (text : String) (value : Int) :
    checkInteger nonNegative text = .ok value ↔
      Number.WritesInteger text.toList value ∧ Number.int64Fits value = true ∧
        (nonNegative = true → 0 ≤ value) := by
  constructor
  · intro checked
    refine ⟨?_, checkInteger_value checked⟩
    simp only [checkInteger] at checked
    split at checked
    next => cases checked
    next =>
      split at checked
      next => cases checked
      next allowed =>
        split at checked
        next => cases checked
        next =>
          split at checked
          next => cases checked
          next read =>
            split at checked
            next => cases checked
            next =>
              cases checked
              have plus : text.toList.head? ≠ some '+' := by
                intro first
                exact allowed (List.any_eq_true.mpr ⟨'+', List.mem_of_head? first, rfl⟩)
              exact ((Number.readInt64?_eq_some_iff plus value).mp read).1
  · rintro ⟨writes, fits, sign⟩
    have plus : text.toList.head? ≠ some '+' := by
      intro first
      rcases writes.digit_or_minus (List.mem_of_head? first) with digit | minus
      · cases digit
      · cases minus
    have read := (Number.readInt64?_eq_some_iff plus value).mpr ⟨writes, fits⟩
    have allowed : (text.toList.any fun c => !c.isDigit && c != '-') = false := by
      rw [List.any_eq_false]
      intro c member
      rcases writes.digit_or_minus member with digit | minus
      · simp [digit]
      · simp [minus]
    have accepted : (nonNegative && decide (value < 0)) = false := by
      cases nonNegative with
      | false => rfl
      | true => simpa using sign rfl
    simp only [checkInteger, writes.isEmpty_eq_false, allowed, writes.hyphen_in_place, read, accepted,
      Bool.false_eq_true, if_false]

theorem checkInteger_intDigits (nonNegative : Bool) {i : Int}
    (fits : Number.int64Fits i = true) (sign : nonNegative = true → 0 ≤ i) :
    checkInteger nonNegative (String.ofList (Number.intDigits i)) = .ok i := by
  rw [checkInteger_eq_ok_iff, String.toList_ofList]
  exact ⟨Number.writesInteger_intDigits i, fits, sign⟩

end Scalar

theorem Json.rawText_num (n : Numeral) : (Json.num n).rawText = String.ofList n.chars := by
  rw [rawText, text, chars]
  all_goals simp

namespace Number

theorem int64Fits_iff (i : Int) : int64Fits i = true ↔ -2 ^ 63 ≤ i ∧ i ≤ 2 ^ 63 - 1 := by
  simp [int64Fits]

theorem WritesInteger.not_float {value : Int} {negative : Bool} {m : Magnitude} :
    ¬ WritesInteger (Numeral.float negative m).chars value := by
  intro writes
  obtain ⟨c, member, mark⟩ := Layout.data.mark_mem_renderSigned negative m
  rcases writes.digit_or_minus member with digit | minus
  · rcases mark with rfl | rfl <;> cases digit
  · rcases mark with rfl | rfl <;> cases minus

end Number

namespace BuiltIn

open Number (WritesInteger)

variable (settings : ScalarSettings) {raw : Json}

theorem parse_integer_eq_ok_iff (filled : raw.isBlank = false)
    (ordinary : settings.isSentinel raw = false) (value : Value) :
    integer.parse settings raw = .ok value ↔
      ∃ i, value = .integer i ∧ WritesInteger raw.rawText.toList i ∧ -2 ^ 63 ≤ i ∧ i ≤ 2 ^ 63 - 1 := by
  simp only [parse, filled, ordinary, Bool.or_self, Bool.false_eq_true, if_false, report_eq_ok_iff,
    Scalar.checkInteger_eq_ok_iff, Number.int64Fits_iff, false_imp_iff, and_true]
  constructor
  · rintro ⟨i, written, rfl⟩
    exact ⟨i, rfl, written⟩
  · rintro ⟨i, rfl, written⟩
    exact ⟨i, written, rfl⟩

theorem parse_positiveInteger_eq_ok_iff (filled : raw.isBlank = false)
    (ordinary : settings.isSentinel raw = false) (value : Value) :
    positiveInteger.parse settings raw = .ok value ↔
      integer.parse settings raw = .ok value ∧ ∃ i, value = .integer i ∧ 0 ≤ i := by
  simp only [parse, filled, ordinary, Bool.or_self, Bool.false_eq_true, if_false, report_eq_ok_iff,
    Scalar.checkInteger_eq_ok_iff, false_imp_iff, true_imp_iff, and_true]
  constructor
  · rintro ⟨i, ⟨writes, fits, sign⟩, rfl⟩
    exact ⟨⟨i, ⟨writes, fits⟩, rfl⟩, i, rfl, sign⟩
  · rintro ⟨⟨i, ⟨writes, fits⟩, rfl⟩, j, same, sign⟩
    obtain rfl := Value.integer.inj same
    exact ⟨i, ⟨writes, fits, sign⟩, rfl⟩

/-- Of the numbers of data, those that are whole and fit are given as they are. -/
theorem parse_integer_num_eq_ok_iff (n : Numeral) (value : Value) :
    integer.parse settings (.num n) = .ok value ↔
      ∃ i least greatest, n = .integer i least greatest ∧ i ≤ 2 ^ 63 - 1 ∧ value = .integer i := by
  rw [parse_integer_eq_ok_iff settings rfl rfl, Json.rawText_num, String.toList_ofList]
  cases n with
  | integer i least greatest =>
    have own : WritesInteger (Numeral.integer i least greatest).chars i :=
      Number.writesInteger_intDigits i
    constructor
    · rintro ⟨j, rfl, writes, _, bounded⟩
      obtain rfl := writes.unique own
      exact ⟨j, least, greatest, rfl, bounded, rfl⟩
    · rintro ⟨j, _, _, same, bounded, rfl⟩
      obtain rfl := (Numeral.integer.inj same)
      exact ⟨i, rfl, own, by omega, bounded⟩
  | float negative m =>
    constructor
    · rintro ⟨i, _, writes, _⟩
      exact absurd writes WritesInteger.not_float
    · rintro ⟨i, least, greatest, impossible, _⟩
      cases impossible

/-- Any zeros may stand in front, and zero may have a sign; a number that does not fit 64 bits or
is no whole number is refused. -/
theorem integers_read_from_text (raw : Json) (filled : raw.isBlank = false)
    (ordinary : settings.isSentinel raw = false) :
    (∀ value, integer.parse settings raw = .ok value ↔
      ∃ i, value = .integer i ∧ WritesInteger raw.rawText.toList i ∧
        -2 ^ 63 ≤ i ∧ i ≤ 2 ^ 63 - 1) ∧
    (∀ value, positiveInteger.parse settings raw = .ok value ↔
      ∃ i, value = .integer i ∧ WritesInteger raw.rawText.toList i ∧
        (-2 ^ 63 ≤ i ∧ i ≤ 2 ^ 63 - 1) ∧ 0 ≤ i) ∧
    ∀ n value, integer.parse settings (.num n) = .ok value ↔
      ∃ i least greatest, n = .integer i least greatest ∧ i ≤ 2 ^ 63 - 1 ∧ value = .integer i := by
  have whole := parse_integer_eq_ok_iff settings filled ordinary
  refine ⟨whole, fun value => ?_, parse_integer_num_eq_ok_iff settings⟩
  rw [parse_positiveInteger_eq_ok_iff settings filled ordinary, whole]
  constructor
  · rintro ⟨⟨i, rfl, writes, fits⟩, j, same, sign⟩
    obtain rfl := Value.integer.inj same
    exact ⟨i, rfl, writes, fits, sign⟩
  · rintro ⟨i, rfl, writes, fits, sign⟩
    exact ⟨⟨i, rfl, writes, fits⟩, i, rfl, sign⟩

theorem integers_read_from_text_least :
    (Json.str "-0009223372036854775808").isBlank = false ∧
      ScalarSettings.empty.isSentinel (.str "-0009223372036854775808") = false ∧
      integer.parse .empty (.str "-0009223372036854775808") =
        .ok (.integer (-9223372036854775808)) ∧
      ∀ value, positiveInteger.parse .empty (.str "-0009223372036854775808") ≠ .ok value := by
  have filled : (Json.str "-0009223372036854775808").isBlank = false := by decide
  have writes : WritesInteger (Json.str "-0009223372036854775808").rawText.toList
      (-9223372036854775808) :=
    ⟨"0009223372036854775808".toList, by decide, List.all_eq_true.mp rfl,
      .inr ⟨by decide, by decide⟩⟩
  obtain ⟨whole, positive, _⟩ :=
    integers_read_from_text .empty (.str "-0009223372036854775808") filled rfl
  refine ⟨filled, rfl, (whole _).mpr ⟨_, rfl, writes, by decide, by decide⟩, fun value given => ?_⟩
  obtain ⟨i, _, other, _, sign⟩ := (positive value).mp given
  have same := writes.unique other
  omega

example : positiveInteger.parse .empty (.str "-000") = .ok (.integer 0) := rfl

end BuiltIn

end RecordSchema
