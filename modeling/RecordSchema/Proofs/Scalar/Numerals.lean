import RecordSchema.Proofs.Number.Threshold
import RecordSchema.Proofs.Scalar.Floats
import RecordSchema.Proofs.Scalar.Integers
import RecordSchema.Proofs.Scalar.Validity

set_option autoImplicit false

/-!
The numbers of data as floats. The float type checks the text that data has for a number, and that
text is not canonical for every double.
-/

namespace RecordSchema

namespace Number

theorem natDigits_of_pos {n : Nat} (positive : 0 < n) :
    ∃ d rest, natDigits n = d :: rest ∧ d ≠ '0' := by
  obtain ⟨d, rest, shape, all⟩ := exists_natDigits_cons n
  refine ⟨d, rest, shape, ?_⟩
  rintro rfl
  have front := pow_le_of_pos positive
  have value := digitsValue_natDigits n
  have small := digitsValue_lt fun c later => all c (List.mem_cons_of_mem '0' later)
  -- After a zero in front there is one place too few for the number.
  have split := digitsValue_append ['0'] rest
  rw [shape, List.length_cons, Nat.add_sub_cancel] at front
  rw [List.singleton_append, show digitsValue ['0'] = 0 from rfl, Nat.zero_mul, Nat.zero_add,
    ← shape, value] at split
  omega

theorem writesCanonicalInteger_intDigits (i : Int) : WritesCanonicalInteger (intDigits i) i := by
  by_cases zero : i = 0
  next =>
    subst zero
    exact .inl ⟨by simp [intDigits, natDigits]; rfl, rfl⟩
  next =>
    obtain ⟨d, rest, shape, other⟩ := natDigits_of_pos (Int.natAbs_pos.mpr zero)
    have value := digitsValue_natDigits i.natAbs
    rw [digitsValue_eq_decimalValue, shape] at value
    refine .inr ⟨d, rest, other, fun c member => ?_, ?_⟩
    · rw [← shape] at member
      exact isDigit_of_mem_natDigits member
    · rw [intDigits, shape, value]
      split
      next negative => exact .inr ⟨rfl, by omega⟩
      next whole => exact .inl ⟨rfl, by omega⟩

end Number

open Number

theorem Numeral.isFinite_toDouble (n : Numeral) : n.toDouble.isFinite = true := by
  cases n with
  | integer i least greatest =>
    refine (Double.isFinite_ofInt i).mpr ?_
    have large : 2 ^ 64 ≤ Magnitude.limit := by decide +kernel
    omega
  | float negative m => rfl

/-- The number has its canonical text in data. For a double this depends on its value alone: on its
size, and on whether it is in the middle between two of its shortest decimals. -/
def Numeral.KeepsText : Numeral → Prop
  | integer _ _ _ => True
  | float _ m =>
      (m.value < 10 ^ (-5 : Int) ∨ (10 ^ (-4 : Int) ≤ m.value ∧ m.value < 10 ^ (16 : Int))) ∧
        ¬ m.Ties

namespace Scalar

theorem renderSigned_data_eq_chars_iff (negative : Bool) (m : Magnitude) (d : Double) :
    d.isFinite = true ∧ Layout.data.renderSigned negative m = d.chars ↔
      (Numeral.float negative m).KeepsText ∧ d = .finite negative m := by
  have kept : (Numeral.float negative m).KeepsText ↔
      Layout.data.renderSigned negative m = Layout.canonical.renderSigned negative m := by
    rw [Numeral.KeepsText, ← Layout.render_data_eq_iff_value]
    cases negative <;> simp [Layout.renderSigned]
  rw [kept]
  constructor
  · rintro ⟨finite, same⟩
    -- The same text is read as one double only, whichever layout it is of.
    have read := Double.readDouble?_chars finite
    rw [← same, Layout.readDouble?_renderSigned] at read
    obtain rfl := Option.some.inj read
    exact ⟨same, rfl⟩
  · rintro ⟨same, rfl⟩
    exact ⟨rfl, same⟩

theorem not_isCanonicalInteger_num (negative : Bool) (m : Magnitude) :
    isCanonicalInteger (Json.num (.float negative m)).rawText.toList = false := by
  obtain ⟨c, member, mark⟩ := Layout.data.mark_mem_renderSigned negative m
  rw [Json.rawText_num, String.toList_ofList]
  exact not_isCanonicalInteger_of_mark member mark

theorem checkFloat_num_eq_ok_iff (n : Numeral) (d : Double) :
    checkFloat (Json.num n).rawText = .ok d ↔ n.KeepsText ∧ d = n.toDouble := by
  cases n with
  | integer i least greatest =>
    have writes : WritesCanonicalInteger (Json.num (.integer i least greatest)).rawText.toList i := by
      rw [Json.rawText_num, String.toList_ofList]
      exact writesCanonicalInteger_intDigits i
    have finite : (Double.ofInt i).isFinite = true :=
      (Numeral.integer i least greatest).isFinite_toDouble
    rw [checkFloat_of_writes writes, if_pos finite, Except.ok.injEq]
    exact ⟨fun same => ⟨trivial, same.symm⟩, fun ⟨_, same⟩ => same.symm⟩
  | float negative m =>
    rw [checkFloat_of_not_canonical (not_isCanonicalInteger_num negative m), Json.rawText_num,
      Double.text, String.ofList_inj]
    exact renderSigned_data_eq_chars_iff negative m d

theorem checkFloat_num_eq_error_iff (n : Numeral) (reason : CoercionError.Reason) :
    checkFloat (Json.num n).rawText = .error reason ↔ ¬ n.KeepsText ∧ reason = .notANumber := by
  have accepted := checkFloat_num_eq_ok_iff n
  have reported {reason : CoercionError.Reason}
      (failed : checkFloat (Json.num n).rawText = .error reason) : reason = .notANumber := by
    cases n with
    | integer i least greatest =>
      rw [(accepted _).mpr ⟨trivial, rfl⟩] at failed
      cases failed
    | float negative m =>
      have words := not_isCanonicalInteger_num negative m
      obtain ⟨c, member, _⟩ := Layout.data.mark_mem_renderSigned negative m
      have filled : (Json.num (.float negative m)).rawText.toList.isEmpty = false := by
        rw [Json.rawText_num, String.toList_ofList, List.isEmpty_eq_false_iff]
        exact List.ne_nil_of_mem member
      exact notANumber_of_not_canonical filled words failed
  constructor
  · intro failed
    refine ⟨fun keeps => ?_, reported failed⟩
    rw [(accepted _).mpr ⟨keeps, rfl⟩] at failed
    cases failed
  · rintro ⟨loses, rfl⟩
    cases checked : checkFloat (Json.num n).rawText with
    | ok d => exact absurd ((accepted d).mp checked).1 loses
    | error other => rw [reported checked]

end Scalar

namespace BuiltIn

variable (settings : ScalarSettings) (n : Numeral)

/-- Data numbers that are whole are floats, and of the others those below a hundred-thousandth
or from a ten-thousandth up to ten to the sixteenth, unless they are in the middle between two of
their shortest decimals of which the lower is even; the rest are refused as no numbers. -/
theorem numbers_as_floats :
    (∀ value, float.parse settings (.num n) = .ok value ↔
      n.KeepsText ∧ value = .float n.toDouble) ∧
    (∀ e, float.parse settings (.num n) = .error e ↔
      ¬ n.KeepsText ∧ e = ⟨"float", (Json.num n).rawText, .notANumber⟩) ∧
    (float.isValid settings (.num n) = true ↔ n.KeepsText) := by
  have parsed : float.parse settings (.num n) =
      float.report (.num n) .float (Scalar.checkFloat (Json.num n).rawText) := rfl
  refine ⟨fun value => ?_, fun e => ?_, ?_⟩
  · rw [parsed, report_eq_ok_iff]
    simp only [Scalar.checkFloat_num_eq_ok_iff]
    constructor
    · rintro ⟨d, ⟨keeps, rfl⟩, rfl⟩
      exact ⟨keeps, rfl⟩
    · rintro ⟨keeps, rfl⟩
      exact ⟨_, ⟨keeps, rfl⟩, rfl⟩
  · rw [parsed, report_eq_error_iff]
    simp only [Scalar.checkFloat_num_eq_error_iff]
    constructor
    · rintro ⟨reason, ⟨loses, rfl⟩, rfl⟩
      exact ⟨loses, rfl⟩
    · rintro ⟨loses, rfl⟩
      exact ⟨_, ⟨loses, rfl⟩, rfl⟩
  · constructor
    · intro valid
      obtain ⟨d, checked⟩ := exists_of_isOk valid
      exact ((Scalar.checkFloat_num_eq_ok_iff n d).mp checked).1
    · intro keeps
      have checked := (Scalar.checkFloat_num_eq_ok_iff n _).mpr ⟨keeps, rfl⟩
      rw [isValid, checked]
      rfl

end BuiltIn

namespace Number

def Magnitude.tenToSixteenth : Magnitude :=
  ⟨5000000000000000, 1075, by decide, by decide, .inr (by decide)⟩

end Number

namespace BuiltIn

/-- Refused as a number of data, the same value is taken as a whole number and as a text. -/
theorem number_with_plus_sign_refused :
    float.parse .empty (.num (.float false .tenToSixteenth)) =
        .error ⟨"float", "1e+16", .notANumber⟩ ∧
      float.isValid .empty (.num (.float false .tenToSixteenth)) = false ∧
      float.parse .empty (.num (.integer 10000000000000000 (by decide) (by decide))) =
        .ok (.float (.finite false .tenToSixteenth)) ∧
      float.parse .empty (.str "1e16") = .ok (.float (.finite false .tenToSixteenth)) := by
  have text : (Json.num (.float false .tenToSixteenth)).rawText = "1e+16" := by
    rw [Json.rawText_num]
    decide +kernel
  have whole : (Json.num (.integer 10000000000000000 (by decide) (by decide))).rawText =
      "10000000000000000" := by
    rw [Json.rawText_num]
    decide +kernel
  have refused : Scalar.checkFloat "1e+16" = .error .notANumber := by decide +kernel
  have taken : Scalar.checkFloat "10000000000000000" = .ok (.finite false .tenToSixteenth) := by
    decide +kernel
  have spelled : Scalar.checkFloat "1e16" = .ok (.finite false .tenToSixteenth) := by decide +kernel
  refine ⟨?_, ?_, ?_, ?_⟩
  · rw [parse, text, refused, report, text]
    rfl
  · rw [isValid, text, refused]
    rfl
  · rw [parse, whole, taken]
    rfl
  · rw [parse, Json.rawText, spelled]
    rfl

/-- A number in the middle between two decimals of seventeen places. -/
example :
    let m : Magnitude := ⟨2477 * 2 ^ 41, 1013, by decide, by decide, by decide⟩
    Layout.data.render m = "0.0023622512817382812".toList ∧
      Scalar.checkFloat "0.0023622512817382812" = .error .notANumber ∧
      Scalar.checkFloat "0.0023622512817382813" = .ok (.finite false m) := by
  decide +kernel

end BuiltIn

end RecordSchema
