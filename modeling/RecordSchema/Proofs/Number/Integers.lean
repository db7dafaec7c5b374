import RecordSchema.Proofs.Number.Digits
import Mathlib.Data.List.Induction
import Mathlib.Data.Nat.Digits.Defs

set_option autoImplicit false

/-!
Whole numbers in text: the texts that write an integer, and reading them.
-/

namespace RecordSchema

namespace Number

/-- The number that digits are in decimal notation. -/
def decimalValue (digits : List Char) : Nat :=
  Nat.ofDigits 10 (digits.reverse.map digitValue)

theorem digitsValue_eq_decimalValue (digits : List Char) :
    digitsValue digits = decimalValue digits := by
  induction digits using List.reverseRecOn with
  | nil => rfl
  | append_singleton digits c ih =>
    rw [digitsValue_append_singleton, ih]
    simp only [decimalValue, List.reverse_append, List.reverse_singleton, List.singleton_append,
      List.map_cons, Nat.ofDigits_cons]
    omega

/-- The text writes the integer: digits, at least one and with any zeros in front, after a minus
sign or none. -/
def WritesInteger (cs : List Char) (value : Int) : Prop :=
  ∃ digits, digits ≠ [] ∧ (∀ c ∈ digits, c.isDigit = true) ∧
    ((cs = digits ∧ value = decimalValue digits) ∨
      (cs = '-' :: digits ∧ value = -(decimalValue digits : Int)))

theorem WritesInteger.unique {cs : List Char} {value other : Int} (writes : WritesInteger cs value)
    (writesOther : WritesInteger cs other) : value = other := by
  obtain ⟨digits, _, all, ⟨rfl, rfl⟩ | ⟨rfl, rfl⟩⟩ := writes
  · obtain ⟨others, _, _, ⟨rfl, rfl⟩ | ⟨rfl, _⟩⟩ := writesOther
    · rfl
    · exact absurd rfl (ne_sign_of_isDigit (all '-' (by simp))).1
  · obtain ⟨others, _, allOthers, ⟨rfl, _⟩ | ⟨same, rfl⟩⟩ := writesOther
    · exact absurd rfl (ne_sign_of_isDigit (allOthers '-' (by simp))).1
    · rw [(List.cons.inj same).2]

theorem WritesInteger.digit_or_minus {cs : List Char} {value : Int}
    (writes : WritesInteger cs value) {c : Char} (member : c ∈ cs) : c.isDigit = true ∨ c = '-' := by
  obtain ⟨digits, _, all, ⟨rfl, _⟩ | ⟨rfl, _⟩⟩ := writes
  · exact .inl (all c member)
  · rcases List.mem_cons.mp member with minus | later
    · exact .inr minus
    · exact .inl (all c later)

theorem WritesInteger.isEmpty_eq_false {cs : List Char} {value : Int}
    (writes : WritesInteger cs value) : cs.isEmpty = false := by
  obtain ⟨digits, filled, _, ⟨rfl, _⟩ | ⟨rfl, _⟩⟩ := writes
  · exact List.isEmpty_eq_false_iff.mpr filled
  · rfl

theorem WritesInteger.hyphen_in_place {cs : List Char} {value : Int}
    (writes : WritesInteger cs value) : Scalar.hyphenOutOfPlace cs = false := by
  have none {digits : List Char} (all : ∀ c ∈ digits, c.isDigit = true) :
      digits.contains '-' = false := by
    rw [← Bool.not_eq_true, List.contains_iff_mem]
    intro hyphen
    exact (ne_sign_of_isDigit (all _ hyphen)).1 rfl
  obtain ⟨digits, _, all, ⟨rfl, _⟩ | ⟨rfl, _⟩⟩ := writes
  · cases cs with
    | nil => rfl
    | cons first rest => exact none fun c later => all c (List.mem_cons_of_mem first later)
  · exact none all

theorem writesInteger_intDigits (i : Int) : WritesInteger (intDigits i) i := by
  have value := digitsValue_natDigits i.natAbs
  rw [digitsValue_eq_decimalValue] at value
  obtain ⟨d, rest, shape, digits⟩ := exists_natDigits_cons i.natAbs
  refine ⟨natDigits i.natAbs, by simp [shape], by rwa [shape], ?_⟩
  rw [intDigits, value]
  split
  next negative => exact .inr ⟨rfl, by omega⟩
  next whole => exact .inl ⟨rfl, by omega⟩

/-- The reading of an integer once its sign is taken off. -/
theorem checked_eq_some_iff (digits : List Char) (signed value : Int) :
    (if digits.isEmpty || !digits.all Char.isDigit then none
      else if int64Fits signed then some signed else none) = some value ↔
      digits ≠ [] ∧ (∀ c ∈ digits, c.isDigit = true) ∧ signed = value ∧ int64Fits value = true := by
  simp only [Option.ite_none_left_eq_some, Option.ite_none_right_eq_some, Option.some.injEq,
    Bool.or_eq_true, not_or, Bool.not_eq_true, Bool.not_eq_false', List.all_eq_true,
    List.isEmpty_eq_false_iff, and_assoc]
  constructor
  · rintro ⟨filled, all, fits, rfl⟩
    exact ⟨filled, all, rfl, fits⟩
  · rintro ⟨filled, all, rfl, fits⟩
    exact ⟨filled, all, fits, rfl⟩

/-- Reading takes what writes an integer of 64 bits, and no other text without a plus sign. -/
theorem readInt64?_eq_some_iff {cs : List Char} (plus : cs.head? ≠ some '+') (value : Int) :
    readInt64? cs = some value ↔ WritesInteger cs value ∧ int64Fits value = true := by
  by_cases minus : cs.head? = some '-'
  next =>
    obtain ⟨digits, rfl⟩ := List.head?_eq_some_iff.mp minus
    refine (checked_eq_some_iff digits (-(digitsValue digits : Int)) value).trans ?_
    rw [digitsValue_eq_decimalValue]
    constructor
    · rintro ⟨filled, all, rfl, fits⟩
      exact ⟨⟨digits, filled, all, .inr ⟨rfl, rfl⟩⟩, fits⟩
    · rintro ⟨⟨others, filled, all, ⟨rfl, _⟩ | ⟨same, rfl⟩⟩, fits⟩
      · exact absurd rfl (ne_sign_of_isDigit (all '-' (by simp))).1
      · obtain rfl := (List.cons.inj same).2
        exact ⟨filled, all, rfl, fits⟩
  next =>
    have unsigned : readInt64? cs = if cs.isEmpty || !cs.all Char.isDigit then none
        else if int64Fits (digitsValue cs) then some (digitsValue cs : Int) else none := by
      cases cs with
      | nil => rfl
      | cons c rest =>
        rw [List.head?_cons, Option.some.injEq] at minus
        rw [List.head?_cons, ne_eq, Option.some.injEq] at plus
        simp [readInt64?, minus, plus]
    rw [unsigned, checked_eq_some_iff, digitsValue_eq_decimalValue]
    constructor
    · rintro ⟨filled, all, rfl, fits⟩
      exact ⟨⟨cs, filled, all, .inl ⟨rfl, rfl⟩⟩, fits⟩
    · rintro ⟨⟨others, filled, all, ⟨rfl, rfl⟩ | ⟨rfl, _⟩⟩, fits⟩
      · exact ⟨filled, all, rfl, fits⟩
      · exact absurd rfl minus

end Number

end RecordSchema
