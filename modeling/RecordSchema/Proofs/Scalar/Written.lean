import RecordSchema.Proofs.Scalar.Integers
import RecordSchema.Proofs.Text.Blank
import RecordSchema.Proofs.Value.Tree

set_option autoImplicit false

/-!
Integers, booleans and texts are read again from the data that they are written as.
-/

namespace RecordSchema

theorem Number.not_isBlank_of_mark {c : Char} (mark : c = '.' ∨ c = 'e') :
    Text.isBlank c = false := by
  rcases mark with rfl | rfl <;> decide

theorem Number.Double.visible_chars {d : Double} (finite : d.isFinite = true) :
    ∃ c ∈ d.chars, Text.isBlank c = false := by
  cases d with
  | nan => cases finite
  | infinity negative => cases finite
  | finite negative m =>
    obtain ⟨c, member, mark⟩ := Layout.canonical.mark_mem_renderSigned negative m
    exact ⟨c, member, not_isBlank_of_mark mark⟩

theorem Numeral.visible_chars (n : Numeral) : ∃ c ∈ n.chars, Text.isBlank c = false := by
  cases n with
  | integer i _ _ =>
    obtain ⟨d, rest, shape, digits⟩ := Number.exists_natDigits_cons i.natAbs
    refine ⟨d, ?_, Text.not_isBlank_of_isDigit (digits d (by simp))⟩
    rw [chars, Number.intDigits]
    split <;> simp [shape]
  | float negative m =>
    obtain ⟨c, member, mark⟩ := Number.Layout.data.mark_mem_renderSigned negative m
    exact ⟨c, member, Number.not_isBlank_of_mark mark⟩

theorem Json.rawText_not_blank {data : Json} (filled : data.isBlank = false) :
    Text.isBlankText data.rawText = false := by
  cases data with
  | null => cases filled
  | str s => exact filled
  | num n =>
    obtain ⟨c, member, visible⟩ := n.visible_chars
    exact Text.isBlankText_ofList_eq_false member visible
  | bool b =>
    refine Text.isBlankText_ofList_eq_false (c := 'e') ?_ (by decide)
    cases b <;> decide
  | arr items =>
    cases items with
    | nil => cases filled
    | cons item rest =>
      exact Text.isBlankText_ofList_eq_false (c := '[') (by simp [chars]) (by decide)
  | obj fields =>
    cases fields with
    | nil => cases filled
    | cons field rest =>
      exact Text.isBlankText_ofList_eq_false (c := '\x7b') (by simp [chars]) (by decide)

namespace Json

variable {i : Int}

theorem exists_ofInt64 (fits : Number.int64Fits i = true) :
    ∃ n : Numeral, ofInt64 i = .num n ∧ n.chars = Number.intDigits i := by
  simp only [Number.int64Fits, Bool.and_eq_true, decide_eq_true_eq] at fits
  have inRange : -9223372036854775808 ≤ i ∧ i ≤ 18446744073709551615 := by omega
  refine ⟨.integer i inRange.1 inRange.2, ?_, rfl⟩
  simp only [ofInt64, Numeral.ofInt?, dif_pos inRange]

theorem rawText_ofInt64 (fits : Number.int64Fits i = true) :
    (ofInt64 i).rawText = String.ofList (Number.intDigits i) := by
  obtain ⟨n, written, digits⟩ := exists_ofInt64 fits
  rw [written, ← digits, rawText, text, chars]
  all_goals simp

-- Only texts are sentinels.
theorem ofInt64_not_nil (fits : Number.int64Fits i = true) (settings : ScalarSettings) :
    ((ofInt64 i).isBlank || settings.isSentinel (ofInt64 i)) = false := by
  obtain ⟨n, written, _⟩ := exists_ofInt64 fits
  rw [written]
  rfl

theorem ofInt64_ne_arr (i : Int) (items : List Json) : ofInt64 i ≠ .arr items := by
  unfold ofInt64
  split <;> simp

end Json

namespace BuiltIn

/-- The data of a value of the type is read as the same value, whatever tokens are set. -/
def readsBack : BuiltIn → Bool
  | integer | positiveInteger | boolean | string => true
  | float | date | datetime => false

theorem parse_written (b : BuiltIn) (settings : ScalarSettings)
    (object : List (String × Json) → Json) {raw : Json} {value : Value} (back : b.readsBack = true)
    (parsed : b.parse settings raw = .ok value) :
    b.parse settings (value.writeWith object) = .ok value := by
  have has := b.hasValue_of_parse settings raw parsed
  cases b with
  | integer =>
    rcases has with rfl | ⟨i, rfl, fits⟩
    · rfl
    · have checked := Scalar.checkInteger_intDigits false fits (by simp)
      simp [Value.writeWith, parse, Json.ofInt64_not_nil fits, Json.rawText_ofInt64 fits, checked,
        report]
  | positiveInteger =>
    rcases has with rfl | ⟨i, rfl, fits, sign⟩
    · rfl
    · have checked := Scalar.checkInteger_intDigits true fits fun _ => sign
      simp [Value.writeWith, parse, Json.ofInt64_not_nil fits, Json.rawText_ofInt64 fits, checked,
        report]
  | boolean =>
    rcases has with rfl | ⟨flag, rfl⟩
    · rfl
    · rfl
  | string =>
    simp only [parse] at parsed
    split at parsed
    next =>
      cases parsed
      rfl
    next filled =>
      cases parsed
      have again : (Json.str raw.rawText).isBlank = false :=
        Json.rawText_not_blank (eq_false_of_ne_true filled)
      simp only [Value.writeWith, parse, again]
      rfl
  | float | date | datetime => cases back

theorem HasValue.written_single {b : BuiltIn} {value : Value} (has : b.HasValue value)
    (object : List (String × Json) → Json) (items : List Json) :
    value.writeWith object ≠ .arr items := by
  cases b with
  | integer | positiveInteger =>
    rcases has with rfl | ⟨i, rfl, _⟩
    · simp [Value.writeWith]
    · exact Json.ofInt64_ne_arr i items
  | float =>
    rcases has with rfl | ⟨d, rfl, _⟩
    · simp [Value.writeWith]
    · cases d <;> simp [Value.writeWith, Json.ofDouble]
  | string =>
    obtain ⟨s, rfl⟩ := has
    simp [Value.writeWith]
  | date | datetime | boolean => rcases has with rfl | ⟨v, rfl⟩ <;> simp [Value.writeWith]

end BuiltIn

end RecordSchema
