import RecordSchema.Proofs.Number.Integers
import RecordSchema.Proofs.Number.Written
import RecordSchema.Proofs.Scalar.Values

set_option autoImplicit false

/-!
The float type: it takes whole numbers without padding and the canonical texts of doubles, and no
other text.
-/

namespace RecordSchema

namespace Number

/-- The text writes the integer without zeros in front and without a sign before zero. -/
def WritesCanonicalInteger (cs : List Char) (value : Int) : Prop :=
  (cs = ['0'] ∧ value = 0) ∨
    ∃ d rest, d ≠ '0' ∧ (∀ c ∈ d :: rest, c.isDigit = true) ∧
      ((cs = d :: rest ∧ value = decimalValue (d :: rest)) ∨
        (cs = '-' :: d :: rest ∧ value = -(decimalValue (d :: rest) : Int)))

theorem digitsValue_pos {d : Char} (digit : d.isDigit = true) (other : d ≠ '0') (rest : List Char) :
    0 < digitsValue (d :: rest) := by
  have code := Text.toNat_of_isDigit digit
  have above : d.toNat ≠ 48 := fun zero => other (Char.toNat_inj.mp zero)
  have first : 0 < digitsValue [d] := by
    simp [digitsValue, digitValue]
    omega
  have split := digitsValue_append [d] rest
  rw [List.singleton_append] at split
  rw [split]
  positivity

theorem readDouble?_digits (negative : Bool) {digits : List Char} (filled : digits ≠ [])
    (all : ∀ c ∈ digits, c.isDigit = true) :
    readDouble? (if negative then '-' :: digits else digits) =
      some (.ofMagnitude? negative (Magnitude.ofNat? (digitsValue digits))) := by
  have read := readMagnitude?_digits filled all
  obtain ⟨d, rest, rfl⟩ := List.exists_cons_of_ne_nil filled
  rw [readDouble?_of_digit negative (all d (by simp)), read]
  rfl

theorem readDouble?_of_writes {cs : List Char} {i : Int} (writes : WritesCanonicalInteger cs i) :
    readDouble? cs = some (.ofInt i) := by
  rcases writes with ⟨rfl, rfl⟩ | ⟨d, rest, other, all, ⟨rfl, value⟩ | ⟨rfl, value⟩⟩
  · exact readDouble?_digits false (List.cons_ne_nil '0' []) (by simp)
  · rw [← digitsValue_eq_decimalValue] at value
    have sign : decide (i < 0) = false := decide_eq_false (by omega)
    have magnitude : i.natAbs = digitsValue (d :: rest) := by omega
    rw [Double.ofInt, sign, magnitude]
    exact readDouble?_digits false (List.cons_ne_nil d rest) all
  · rw [← digitsValue_eq_decimalValue] at value
    have positive := digitsValue_pos (all d (by simp)) other rest
    have sign : decide (i < 0) = true := decide_eq_true (by omega)
    have magnitude : i.natAbs = digitsValue (d :: rest) := by omega
    rw [Double.ofInt, sign, magnitude]
    exact readDouble?_digits true (List.cons_ne_nil d rest) all

end Number

namespace Scalar

open Number

theorem isCanonicalDigits_iff (digits : List Char) :
    isCanonicalDigits digits = true ↔
      (∀ c ∈ digits, c.isDigit = true) ∧
        (digits = ['0'] ∨ ∃ d rest, d ≠ '0' ∧ digits = d :: rest) := by
  cases digits with
  | nil => simp [isCanonicalDigits]
  | cons d rest => simp [isCanonicalDigits]

theorem isCanonicalInteger_of_ne {cs : List Char} (unsigned : cs.head? ≠ some '-') :
    isCanonicalInteger cs = isCanonicalDigits cs := by
  cases cs with
  | nil => rfl
  | cons c rest =>
    rw [List.head?_cons, ne_eq, Option.some.injEq] at unsigned
    simp [isCanonicalInteger, unsigned]

theorem isCanonicalInteger_minus (digits : List Char) :
    isCanonicalInteger ('-' :: digits) = true ↔
      isCanonicalDigits digits = true ∧ digits ≠ ['0'] := by
  simp [isCanonicalInteger]

theorem isCanonicalInteger_iff (cs : List Char) :
    isCanonicalInteger cs = true ↔ ∃ i, WritesCanonicalInteger cs i := by
  constructor
  · intro canonical
    by_cases minus : cs.head? = some '-'
    next =>
      obtain ⟨digits, rfl⟩ := List.head?_eq_some_iff.mp minus
      rw [isCanonicalInteger_minus, isCanonicalDigits_iff] at canonical
      obtain ⟨⟨all, zero | ⟨d, rest, other, rfl⟩⟩, nonzero⟩ := canonical
      · exact absurd zero nonzero
      · exact ⟨_, .inr ⟨d, rest, other, all, .inr ⟨rfl, rfl⟩⟩⟩
    next =>
      rw [isCanonicalInteger_of_ne minus, isCanonicalDigits_iff] at canonical
      obtain ⟨all, zero | ⟨d, rest, other, rfl⟩⟩ := canonical
      · exact ⟨0, .inl ⟨zero, rfl⟩⟩
      · exact ⟨_, .inr ⟨d, rest, other, all, .inl ⟨rfl, rfl⟩⟩⟩
  · rintro ⟨i, ⟨rfl, _⟩ | ⟨d, rest, other, all, ⟨rfl, _⟩ | ⟨rfl, _⟩⟩⟩
    · rfl
    · have unsigned : (d :: rest).head? ≠ some '-' := by
        simpa using (ne_sign_of_isDigit (all d (by simp))).1
      rw [isCanonicalInteger_of_ne unsigned, isCanonicalDigits_iff]
      exact ⟨all, .inr ⟨d, rest, other, rfl⟩⟩
    · rw [isCanonicalInteger_minus, isCanonicalDigits_iff]
      exact ⟨⟨all, .inr ⟨d, rest, other, rfl⟩⟩, fun zero => other (List.cons.inj zero).1⟩

/-- A point or an exponent is in every text of a double, and in no whole number. -/
theorem not_isCanonicalInteger_of_mark {cs : List Char} {c : Char} (member : c ∈ cs)
    (mark : c = '.' ∨ c = 'e') : isCanonicalInteger cs = false := by
  rw [Bool.eq_false_iff, ne_eq, isCanonicalInteger_iff]
  have other (allowed : c.isDigit = true ∨ c = '-') : False := by
    rcases mark with rfl | rfl <;> simp at allowed
  rintro ⟨i, ⟨rfl, _⟩ | ⟨d, rest, _, all, ⟨rfl, _⟩ | ⟨rfl, _⟩⟩⟩
  · exact other (.inl (by simp_all))
  · exact other (.inl (all c member))
  · exact other ((List.mem_cons.mp member).elim .inr fun later => .inl (all c later))

theorem exists_mark_of_finite {d : Double} (finite : d.isFinite = true) :
    ∃ c ∈ d.chars, c = '.' ∨ c = 'e' := by
  obtain ⟨negative, m, rfl⟩ := Double.exists_eq_finite finite
  exact Layout.canonical.mark_mem_renderSigned negative m

theorem not_isCanonicalInteger_chars {d : Double} (finite : d.isFinite = true) :
    isCanonicalInteger d.chars = false := by
  obtain ⟨c, member, mark⟩ := exists_mark_of_finite finite
  exact not_isCanonicalInteger_of_mark member mark

theorem checkFloat_of_writes {text : String} {i : Int}
    (writes : WritesCanonicalInteger text.toList i) :
    checkFloat text =
      if (Double.ofInt i).isFinite then .ok (.ofInt i) else .error .integerOutOfRange := by
  have canonical := (isCanonicalInteger_iff text.toList).mpr ⟨i, writes⟩
  have filled : text.toList.isEmpty = false := by
    rw [List.isEmpty_eq_false_iff]
    intro empty
    rw [empty] at canonical
    cases canonical
  have read : finiteDouble? text.toList =
      if (Double.ofInt i).isFinite then some (.ofInt i) else none := by
    rw [finiteDouble?, readDouble?_of_writes writes]
    rfl
  by_cases finite : (Double.ofInt i).isFinite = true
  · simp [checkFloat, filled, canonical, read, finite]
  · simp [checkFloat, filled, canonical, read, finite]

theorem checkFloat_of_not_canonical {text : String}
    (other : isCanonicalInteger text.toList = false) (d : Double) :
    checkFloat text = .ok d ↔ d.isFinite = true ∧ text = d.text := by
  have own : text = d.text ↔ d.chars = text.toList := by
    rw [Double.text]
    constructor
    · intro same
      rw [same, String.toList_ofList]
    · intro same
      rw [same, String.ofList_toList]
  rw [own]
  simp only [checkFloat, other, Bool.false_eq_true, if_false]
  constructor
  · intro checked
    split at checked
    next => cases checked
    next =>
      split at checked
      next read =>
        split at checked
        next same =>
          cases checked
          exact ⟨isFinite_of_finiteDouble? read, same⟩
        next => cases checked
      next => cases checked
  · rintro ⟨finite, same⟩
    obtain ⟨c, member, _⟩ := exists_mark_of_finite finite
    have filled : text.toList.isEmpty = false := by
      rw [← same, List.isEmpty_eq_false_iff]
      exact List.ne_nil_of_mem member
    have read : finiteDouble? text.toList = some d := by
      rw [finiteDouble?, ← same, Double.readDouble?_chars finite]
      exact if_pos finite
    simp [filled, read, same]

theorem notANumber_of_not_canonical {text : String} (filled : text.toList.isEmpty = false)
    (other : isCanonicalInteger text.toList = false) {reason : CoercionError.Reason}
    (failed : checkFloat text = .error reason) : reason = .notANumber := by
  simp only [checkFloat, filled, other, Bool.false_eq_true, if_false] at failed
  split at failed
  next =>
    split at failed
    next => cases failed
    next => exact (Except.error.inj failed).symm
  next => exact (Except.error.inj failed).symm

/-- Whole numbers are taken if their nearest double is finite, of the other texts those that are
the text of a finite double. -/
theorem checkFloat_eq_ok_iff (text : String) (d : Double) :
    checkFloat text = .ok d ↔ d.isFinite = true ∧
      ((∃ i, WritesCanonicalInteger text.toList i ∧ d = .ofInt i) ∨ text = d.text) := by
  by_cases canonical : isCanonicalInteger text.toList = true
  next =>
    obtain ⟨i, writes⟩ := (isCanonicalInteger_iff text.toList).mp canonical
    rw [checkFloat_of_writes writes]
    constructor
    · intro checked
      split at checked
      next finite =>
        cases checked
        exact ⟨finite, .inl ⟨i, writes, rfl⟩⟩
      next => cases checked
    · rintro ⟨finite, ⟨j, other, rfl⟩ | rfl⟩
      · have same := (readDouble?_of_writes writes).symm.trans (readDouble?_of_writes other)
        rw [Option.some.inj same, if_pos finite]
      · -- The text of a double is not the text of a whole number.
        rw [Double.text, String.toList_ofList, not_isCanonicalInteger_chars finite] at canonical
        cases canonical
  next =>
    have other := Bool.eq_false_iff.mpr canonical
    rw [checkFloat_of_not_canonical other]
    constructor
    · rintro ⟨finite, own⟩
      exact ⟨finite, .inr own⟩
    · rintro ⟨finite, ⟨i, writes, _⟩ | own⟩
      · exact absurd ((isCanonicalInteger_iff text.toList).mpr ⟨i, writes⟩) canonical
      · exact ⟨finite, own⟩

theorem exists_checkFloat_iff (text : String) :
    (∃ d, checkFloat text = .ok d) ↔
      (∃ i, WritesCanonicalInteger text.toList i ∧ i.natAbs < Magnitude.limit) ∨
        ∃ d : Double, d.isFinite = true ∧ text = d.text := by
  simp only [checkFloat_eq_ok_iff]
  constructor
  · rintro ⟨d, finite, ⟨i, writes, rfl⟩ | own⟩
    · exact .inl ⟨i, writes, (Double.isFinite_ofInt i).mp finite⟩
    · exact .inr ⟨d, finite, own⟩
  · rintro (⟨i, writes, small⟩ | ⟨d, finite, own⟩)
    · exact ⟨_, (Double.isFinite_ofInt i).mpr small, .inl ⟨i, writes, rfl⟩⟩
    · exact ⟨d, finite, .inr own⟩

theorem nearest_of_checkFloat {text : String} {i : Int} {d : Double}
    (writes : WritesCanonicalInteger text.toList i) (checked : checkFloat text = .ok d) :
    ∃ m : Magnitude, d = .finite (decide (i < 0)) m ∧ m.Nearest (i.natAbs : ℚ) := by
  rw [checkFloat_of_writes writes] at checked
  split at checked
  next finite =>
    obtain ⟨negative, m, rounded⟩ := Double.exists_eq_finite finite
    obtain ⟨rfl, inside⟩ := (Double.ofInt_eq_finite_iff i negative m).mp rounded
    rw [rounded] at checked
    exact ⟨m, (Except.ok.inj checked).symm, Magnitude.nearest_of_contains inside⟩
  next => cases checked

theorem not_writes_text {d : Double} (finite : d.isFinite = true) (i : Int) :
    ¬ WritesCanonicalInteger d.text.toList i := by
  intro writes
  have canonical := (isCanonicalInteger_iff d.text.toList).mpr ⟨i, writes⟩
  rw [Double.text, String.toList_ofList, not_isCanonicalInteger_chars finite] at canonical
  cases canonical

theorem checkFloat_of_not_writes {text : String}
    (other : ∀ i, ¬ WritesCanonicalInteger text.toList i) (d : Double) :
    checkFloat text = .ok d ↔ d.isFinite = true ∧ text = d.text := by
  refine checkFloat_of_not_canonical ?_ d
  rw [Bool.eq_false_iff, ne_eq, isCanonicalInteger_iff]
  exact fun ⟨i, writes⟩ => other i writes

/-- A whole number of any length gives its nearest double, any other text the double that it is
the text of. -/
theorem floats_read_from_text :
    (∀ text, (∃ d, checkFloat text = .ok d) ↔
      (∃ i, WritesCanonicalInteger text.toList i ∧ i.natAbs < Magnitude.limit) ∨
        ∃ d : Double, d.isFinite = true ∧ text = d.text) ∧
    (∀ text i d, WritesCanonicalInteger text.toList i → checkFloat text = .ok d →
      ∃ m : Magnitude, d = .finite (decide (i < 0)) m ∧ m.Nearest (i.natAbs : ℚ)) ∧
    (∀ text d, (∀ i, ¬ WritesCanonicalInteger text.toList i) →
      (checkFloat text = .ok d ↔ d.isFinite = true ∧ text = d.text)) ∧
    (∀ text other d, (∀ i, ¬ WritesCanonicalInteger text.toList i) →
      (∀ i, ¬ WritesCanonicalInteger other.toList i) →
      checkFloat text = .ok d → checkFloat other = .ok d → text = other) ∧
    ∀ d : Double, d.isFinite = true →
      (∀ i, ¬ WritesCanonicalInteger d.text.toList i) ∧ checkFloat d.text = .ok d := by
  refine ⟨exists_checkFloat_iff, fun text i d => nearest_of_checkFloat,
    fun text d words => checkFloat_of_not_writes words d,
    fun text other d words others checked checkedOther => ?_, fun d finite => ?_⟩
  · rw [((checkFloat_of_not_writes words d).mp checked).2,
      ((checkFloat_of_not_writes others d).mp checkedOther).2]
  · have words := not_writes_text finite
    exact ⟨words, (checkFloat_of_not_writes words d).mpr ⟨finite, rfl⟩⟩

theorem floats_read_from_text_negativeZero :
    checkFloat "-0.0" = .ok (.finite true .zero) ∧
      (∀ i, ¬ WritesCanonicalInteger "-0.0".toList i) ∧
      (∃ m : Magnitude, checkFloat "-99999999999999999999" = .ok (.finite true m) ∧
        m.Nearest 99999999999999999999) ∧
      ∀ text, (∀ i, ¬ WritesCanonicalInteger text.toList i) →
        checkFloat text = .ok (.finite true .zero) → text = "-0.0" := by
  obtain ⟨accepted, whole, _, single, returned⟩ := floats_read_from_text
  have zero : "-0.0" = (Double.finite true .zero).text := by decide +kernel
  have words := (returned (.finite true .zero) rfl).1
  have read := (returned (.finite true .zero) rfl).2
  rw [← zero] at words read
  have writes : WritesCanonicalInteger "-99999999999999999999".toList (-99999999999999999999) :=
    .inr ⟨'9', List.replicate 19 '9', by decide, List.all_eq_true.mp rfl, .inr ⟨by decide, by decide⟩⟩
  obtain ⟨d, checked⟩ := (accepted _).mpr (.inl ⟨_, writes, by decide +kernel⟩)
  obtain ⟨m, rfl, nearest⟩ := whole _ _ d writes checked
  refine ⟨read, words, ⟨m, checked, nearest⟩, fun text other checked => ?_⟩
  exact single text "-0.0" _ other words checked read

end Scalar

end RecordSchema
