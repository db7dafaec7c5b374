import RecordSchema.Scalar.Basic

set_option autoImplicit false

/-!
The values that the built-in types give: of their own kind, and nil of all but texts.
-/

namespace RecordSchema

namespace Number

theorem int64Fits_of_readInt64? {cs : List Char} {i : Int} (read : readInt64? cs = some i) :
    int64Fits i = true := by
  simp only [readInt64?, Option.ite_none_left_eq_some, Option.ite_none_right_eq_some,
    Option.some.injEq] at read
  obtain ⟨_, fits, rfl⟩ := read
  exact fits

theorem isFinite_of_finiteDouble? {cs : List Char} {d : Double}
    (read : Scalar.finiteDouble? cs = some d) : d.isFinite = true :=
  (Option.filter_eq_some_iff.mp read).2

end Number

namespace Scalar

theorem checkInteger_value {nonNegative : Bool} {text : String} {i : Int}
    (checked : checkInteger nonNegative text = .ok i) :
    Number.int64Fits i = true ∧ (nonNegative = true → 0 ≤ i) := by
  simp only [checkInteger] at checked
  split at checked
  · cases checked
  · split at checked
    · cases checked
    · split at checked
      · cases checked
      · split at checked
        next => cases checked
        next value read =>
          split at checked
          next => cases checked
          next accepted =>
            cases checked
            refine ⟨Number.int64Fits_of_readInt64? read, ?_⟩
            rintro rfl
            simpa using accepted

theorem checkFloat_value {text : String} {d : Number.Double} (checked : checkFloat text = .ok d) :
    d.isFinite = true := by
  simp only [checkFloat] at checked
  split at checked
  · cases checked
  · split at checked
    · split at checked
      next read =>
        cases checked
        exact Number.isFinite_of_finiteDouble? read
      next => cases checked
    · split at checked
      next read =>
        split at checked
        · cases checked
          exact Number.isFinite_of_finiteDouble? read
        · cases checked
      next => cases checked

end Scalar

namespace BuiltIn

def HasValue : BuiltIn → Value → Prop
  | integer, value => value = .nil ∨ ∃ i, value = .integer i ∧ Number.int64Fits i = true
  | positiveInteger, value =>
      value = .nil ∨ ∃ i, value = .integer i ∧ Number.int64Fits i = true ∧ 0 ≤ i
  | float, value => value = .nil ∨ ∃ d, value = .float d ∧ d.isFinite = true
  | date, value => value = .nil ∨ ∃ d, value = .date d
  | datetime, value => value = .nil ∨ ∃ t, value = .datetime t
  | string, value => ∃ s, value = .string s
  | boolean, value => value = .nil ∨ ∃ flag, value = .boolean flag

theorem HasValue.not_list {b : BuiltIn} {value : Value} (has : b.HasValue value)
    (items : List Value) : value ≠ .list items := by
  rintro rfl
  cases b <;> simp [HasValue] at has

theorem report_eq_ok_iff {α : Type} (b : BuiltIn) (raw : Json) (toValue : α → Value)
    (checked : Except CoercionError.Reason α) (value : Value) :
    b.report raw toValue checked = .ok value ↔ ∃ a, checked = .ok a ∧ toValue a = value := by
  cases checked <;> simp [report]

theorem hasValue_of_parse (b : BuiltIn) (settings : ScalarSettings) (raw : Json) {value : Value}
    (parsed : b.parse settings raw = .ok value) : b.HasValue value := by
  cases b with
  | integer =>
    simp only [parse] at parsed
    split at parsed
    next => exact .inl (Except.ok.inj parsed).symm
    next =>
      obtain ⟨i, checked, rfl⟩ := (report_eq_ok_iff ..).mp parsed
      exact .inr ⟨i, rfl, (Scalar.checkInteger_value checked).1⟩
  | positiveInteger =>
    simp only [parse] at parsed
    split at parsed
    next => exact .inl (Except.ok.inj parsed).symm
    next =>
      obtain ⟨i, checked, rfl⟩ := (report_eq_ok_iff ..).mp parsed
      obtain ⟨fits, sign⟩ := Scalar.checkInteger_value checked
      exact .inr ⟨i, rfl, fits, sign rfl⟩
  | float =>
    simp only [parse] at parsed
    split at parsed
    next => exact .inl (Except.ok.inj parsed).symm
    next =>
      obtain ⟨d, checked, rfl⟩ := (report_eq_ok_iff ..).mp parsed
      exact .inr ⟨d, rfl, Scalar.checkFloat_value checked⟩
  | date =>
    simp only [parse] at parsed
    split at parsed
    next => exact .inl (Except.ok.inj parsed).symm
    next =>
      obtain ⟨d, _, rfl⟩ := (report_eq_ok_iff ..).mp parsed
      exact .inr ⟨d, rfl⟩
  | datetime =>
    simp only [parse] at parsed
    split at parsed
    next => exact .inl (Except.ok.inj parsed).symm
    next =>
      obtain ⟨t, _, rfl⟩ := (report_eq_ok_iff ..).mp parsed
      exact .inr ⟨t, rfl⟩
  | string =>
    simp only [parse] at parsed
    split at parsed <;> exact ⟨_, (Except.ok.inj parsed).symm⟩
  | boolean =>
    simp only [parse] at parsed
    split at parsed
    next flag => exact .inr ⟨flag, (Except.ok.inj parsed).symm⟩
    next =>
      split at parsed
      next => exact .inl (Except.ok.inj parsed).symm
      next =>
        split at parsed
        next flag _ => exact .inr ⟨flag, (Except.ok.inj parsed).symm⟩
        next => cases parsed

end BuiltIn

end RecordSchema
