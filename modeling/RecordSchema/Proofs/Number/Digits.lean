import RecordSchema.Scalar.Integer
import RecordSchema.Proofs.Text.Blank
import Mathlib.Data.List.Induction
import Mathlib.Tactic.Ring

set_option autoImplicit false

/-!
The decimal digits of a number: they read back as the number, and none are zeros in front.
-/

namespace RecordSchema

namespace Number

theorem digitChar_mod (n : Nat) : digitChar (n % 10) = digitChar n := by
  simp [digitChar]

theorem digitValue_digitChar {d : Nat} (single : d < 10) : digitValue (digitChar d) = d := by
  have all : ∀ d, d < 10 → digitValue (digitChar d) = d := by decide
  exact all d single

theorem isDigit_digitChar (n : Nat) : (digitChar n).isDigit = true := by
  have all : ∀ d, d < 10 → (digitChar d).isDigit = true := by decide
  rw [← digitChar_mod]
  exact all _ (Nat.mod_lt n (by decide))

theorem isDigit_of_mem_natDigits {n : Nat} {c : Char} (member : c ∈ natDigits n) :
    c.isDigit = true := by
  induction n using natDigits.induct with
  | case1 n small =>
    rw [natDigits, if_pos small] at member
    rw [List.mem_singleton.mp member]
    exact isDigit_digitChar n
  | case2 n large ih =>
    rw [natDigits, if_neg large] at member
    rcases List.mem_append.mp member with leading | last
    · exact ih leading
    · rw [List.mem_singleton.mp last]
      exact isDigit_digitChar n

theorem exists_natDigits_cons (n : Nat) :
    ∃ d rest, natDigits n = d :: rest ∧ ∀ c ∈ d :: rest, c.isDigit = true := by
  have notEmpty : natDigits n ≠ [] := by
    rw [natDigits]
    split <;> simp
  obtain ⟨d, rest, shape⟩ := List.exists_cons_of_ne_nil notEmpty
  refine ⟨d, rest, shape, ?_⟩
  intro c member
  rw [← shape] at member
  exact isDigit_of_mem_natDigits member

theorem digitsValue_append_singleton (digits : List Char) (c : Char) :
    digitsValue (digits ++ [c]) = 10 * digitsValue digits + digitValue c := by
  simp [digitsValue]

theorem digitsValue_natDigits (n : Nat) : digitsValue (natDigits n) = n := by
  induction n using natDigits.induct with
  | case1 n small =>
    rw [natDigits, if_pos small]
    simpa [digitsValue] using digitValue_digitChar small
  | case2 n large ih =>
    rw [natDigits, if_neg large, digitsValue_append_singleton, ih, ← digitChar_mod,
      digitValue_digitChar (Nat.mod_lt n (by decide))]
    omega

theorem digitsValue_append (digits more : List Char) :
    digitsValue (digits ++ more) = digitsValue digits * 10 ^ more.length + digitsValue more := by
  have fold (seed : Nat) : more.foldl (fun n c => 10 * n + digitValue c) seed =
      seed * 10 ^ more.length + digitsValue more := by
    unfold digitsValue
    induction more generalizing seed with
    | nil => simp
    | cons c rest ih =>
      rw [List.foldl_cons, List.foldl_cons, ih, ih (10 * 0 + digitValue c), List.length_cons]
      ring
  rw [digitsValue, List.foldl_append, fold]
  rfl

theorem digitsValue_zeros (count : Nat) : digitsValue (List.replicate count '0') = 0 := by
  induction count with
  | zero => rfl
  | succ count ih =>
    rw [List.replicate_succ', digitsValue_append_singleton, ih]
    rfl

theorem digitValue_lt {c : Char} (digit : c.isDigit = true) : digitValue c < 10 := by
  have code := Text.toNat_of_isDigit digit
  unfold digitValue
  omega

theorem digitsValue_lt {digits : List Char} (all : ∀ c ∈ digits, c.isDigit = true) :
    digitsValue digits < 10 ^ digits.length := by
  induction digits using List.reverseRecOn with
  | nil => decide
  | append_singleton digits c ih =>
    have front := ih fun d member => all d (by simp [member])
    have last := digitValue_lt (all c (by simp))
    rw [digitsValue_append_singleton, List.length_append, List.length_singleton, Nat.pow_succ]
    omega

theorem length_natDigits_le {n width : Nat} (some_place : 0 < width) (small : n < 10 ^ width) :
    (natDigits n).length ≤ width := by
  induction n using natDigits.induct generalizing width with
  | case1 n single =>
    rw [natDigits, if_pos single]
    exact some_place
  | case2 n large ih =>
    obtain ⟨shorter, rfl⟩ : ∃ shorter, width = shorter + 1 := ⟨width - 1, by omega⟩
    have another : 0 < shorter := by
      rcases Nat.eq_zero_or_pos shorter with rfl | positive
      · omega
      · exact positive
    have tenth := ih another (by rw [Nat.pow_succ] at small; omega)
    rw [natDigits, if_neg large, List.length_append, List.length_singleton]
    omega

theorem length_natDigits_pos (n : Nat) : 0 < (natDigits n).length := by
  obtain ⟨d, rest, shape, _⟩ := exists_natDigits_cons n
  simp [shape]

theorem pow_le_of_pos {n : Nat} (positive : 0 < n) : 10 ^ ((natDigits n).length - 1) ≤ n := by
  induction n using natDigits.induct with
  | case1 n single =>
    rw [natDigits, if_pos single]
    exact positive
  | case2 n large ih =>
    have filled := length_natDigits_pos (n / 10)
    have front := ih (by omega)
    obtain ⟨more, shape⟩ := Nat.exists_eq_add_of_lt filled
    rw [natDigits, if_neg large, List.length_append, List.length_singleton, Nat.add_sub_cancel,
      shape, Nat.pow_succ]
    rw [shape] at front
    simp only [Nat.zero_add, Nat.add_sub_cancel] at front ⊢
    omega

theorem lt_pow_length (n : Nat) : n < 10 ^ (natDigits n).length := by
  have value := digitsValue_lt fun _ => isDigit_of_mem_natDigits (n := n)
  rwa [digitsValue_natDigits] at value

theorem isDigit_of_mem_paddedDigits {width n : Nat} {c : Char}
    (member : c ∈ paddedDigits width n) : c.isDigit = true := by
  rcases List.mem_append.mp member with zero | digit
  · obtain rfl := List.eq_of_mem_replicate zero
    rfl
  · exact isDigit_of_mem_natDigits digit

@[simp] theorem digitsValue_paddedDigits (width n : Nat) :
    digitsValue (paddedDigits width n) = n := by
  rw [paddedDigits, digitsValue_append, digitsValue_zeros, digitsValue_natDigits, Nat.zero_mul,
    Nat.zero_add]

theorem length_paddedDigits {width n : Nat} (some_place : 0 < width) (small : n < 10 ^ width) :
    (paddedDigits width n).length = width := by
  have fits := length_natDigits_le some_place small
  simp only [paddedDigits, List.length_append, List.length_replicate]
  omega

theorem paddedDigits_two {n : Nat} (small : n < 100) :
    paddedDigits 2 n = [digitChar (n / 10), digitChar n] := by
  by_cases single : n < 10
  · have none : n / 10 = 0 := Nat.div_eq_of_lt single
    rw [paddedDigits, natDigits, if_pos single, none]
    rfl
  · have tens : n / 10 < 10 := by omega
    rw [paddedDigits, natDigits, if_neg single, natDigits, if_pos tens]
    rfl

/-- No digit stands at the front. -/
def NoDigitFirst (cs : List Char) : Prop := ∀ c ∈ cs.head?, c.isDigit = false

@[simp] theorem noDigitFirst_nil : NoDigitFirst [] := nofun

@[simp] theorem noDigitFirst_cons {c : Char} {rest : List Char} :
    NoDigitFirst (c :: rest) ↔ c.isDigit = false := by
  simp [NoDigitFirst]

theorem NoDigitFirst.take {cs : List Char} (stop : NoDigitFirst cs) (count : Nat) :
    NoDigitFirst (cs.take count) := by
  cases cs with
  | nil => simp
  | cons c rest =>
    cases count with
    | zero => simp
    | succ count => simpa using stop

theorem NoDigitFirst.takeWhile {cs : List Char} (stop : NoDigitFirst cs) :
    cs.takeWhile Char.isDigit = [] := by
  cases cs with
  | nil => rfl
  | cons c rest => simp [noDigitFirst_cons.mp stop]

theorem NoDigitFirst.dropWhile {cs : List Char} (stop : NoDigitFirst cs) :
    cs.dropWhile Char.isDigit = cs := by
  cases cs with
  | nil => rfl
  | cons c rest => simp [noDigitFirst_cons.mp stop]

theorem takeWhile_isDigit_append {digits rest : List Char}
    (all : ∀ c ∈ digits, c.isDigit = true) (stop : NoDigitFirst rest) :
    (digits ++ rest).takeWhile Char.isDigit = digits := by
  rw [List.takeWhile_append_of_pos all, stop.takeWhile, List.append_nil]

theorem dropWhile_isDigit_append {digits rest : List Char}
    (all : ∀ c ∈ digits, c.isDigit = true) (stop : NoDigitFirst rest) :
    (digits ++ rest).dropWhile Char.isDigit = rest := by
  rw [List.dropWhile_append_of_pos all, stop.dropWhile]

theorem ne_sign_of_isDigit {c : Char} (digit : c.isDigit = true) : c ≠ '-' ∧ c ≠ '+' := by
  constructor <;>
  · rintro rfl
    cases digit

end Number

end RecordSchema
