import RecordSchema.Proofs.Number.Rounding

set_option autoImplicit false

/-!
The value of a magnitude: magnitudes have their own values, none is nearer to a number than the one
that it is rounded to, and a decimal is rounded by its value alone.
-/

namespace RecordSchema.Number

namespace Magnitude

/-- The value as a multiple of the least positive one. -/
def steps (m : Magnitude) : Nat := m.significand * 2 ^ m.scale

def value (m : Magnitude) : ℚ := m.steps / 2 ^ 1074

variable {m other : Magnitude}

theorem steps_lt_of_scale_lt (less : other.scale < m.scale) : other.steps < m.steps := by
  have normal := m.normalized.resolve_left (by omega)
  calc
    other.significand * 2 ^ other.scale < 2 ^ 53 * 2 ^ other.scale :=
      Nat.mul_lt_mul_of_pos_right other.lt_two_pow (by positivity)
    _ = 2 ^ 52 * 2 ^ (other.scale + 1) := by ring
    _ ≤ 2 ^ 52 * 2 ^ m.scale :=
      Nat.mul_le_mul_left _ (Nat.pow_le_pow_right (by decide) less)
    _ ≤ m.significand * 2 ^ m.scale := Nat.mul_le_mul_right _ normal

theorem eq_of_steps_eq (same : m.steps = other.steps) : m = other := by
  have scales : m.scale = other.scale := by
    rcases Nat.lt_trichotomy m.scale other.scale with less | equal | greater
    · exact absurd same (Nat.ne_of_lt (steps_lt_of_scale_lt less))
    · exact equal
    · exact absurd same.symm (Nat.ne_of_lt (steps_lt_of_scale_lt greater))
  have significands : m.significand = other.significand := by
    unfold steps at same
    rw [scales] at same
    exact Nat.eq_of_mul_eq_mul_right (by positivity) same
  cases m
  cases other
  cases scales
  cases significands
  rfl

theorem dvd_steps {scale : Nat} (least : scale ≤ m.scale) : 2 ^ scale ∣ m.steps :=
  (pow_dvd_pow 2 least).mul_left m.significand

theorem add_le_of_lt_of_dvd {step a b : Nat} (stepA : step ∣ a) (stepB : step ∣ b) (less : a < b) :
    a + step ≤ b := by
  obtain ⟨i, rfl⟩ := stepA
  obtain ⟨j, rfl⟩ := stepB
  rw [← Nat.mul_succ]
  exact Nat.mul_le_mul_left step (Nat.lt_of_mul_lt_mul_left less)

theorem steps_add_le (greater : m.steps < other.steps) : m.steps + 2 ^ m.scale ≤ other.steps := by
  have scales : m.scale ≤ other.scale := by
    by_contra less
    have := steps_lt_of_scale_lt (Nat.lt_of_not_le less)
    omega
  exact add_le_of_lt_of_dvd (dvd_steps le_rfl) (dvd_steps scales) greater

instance : Decidable m.IsLeast := inferInstanceAs (Decidable (_ ∧ _))

/-- Half of the way to the magnitude below, in quarters of a step. -/
def below (m : Magnitude) : Nat := if m.IsLeast then 2 ^ m.scale else 2 * 2 ^ m.scale

theorem interval_eq (m : Magnitude) : m.interval =
    ⟨4 * m.steps - m.below, 4 * m.steps, 4 * m.steps + 2 * 2 ^ m.scale, m.significand % 2 == 0⟩ := by
  simp only [interval, steps, below, Nat.pow_eq, Nat.mul_assoc]
  rfl

theorem steps_sub_le (less : other.steps < m.steps) :
    4 * other.steps + 2 * m.below ≤ 4 * m.steps := by
  have grid (scales : m.scale ≤ other.scale) : other.steps + 2 ^ m.scale ≤ m.steps :=
    add_le_of_lt_of_dvd (dvd_steps scales) (dvd_steps le_rfl) less
  have finer (scales : other.scale < m.scale) :
      2 * other.steps + 2 ^ m.scale ≤ 2 ^ 53 * 2 ^ m.scale := by
    have bounded : other.steps ≤ (2 ^ 53 - 1) * 2 ^ (m.scale - 1) :=
      Nat.mul_le_mul (Nat.le_pred_of_lt other.lt_two_pow)
        (Nat.pow_le_pow_right (by decide) (by omega))
    have double : 2 ^ m.scale = 2 * 2 ^ (m.scale - 1) := by
      rw [← pow_succ']
      congr 1
      omega
    omega
  have positive : 0 < 2 ^ m.scale := by positivity
  -- At the same scale or above both are on the grid of the magnitude, below on a finer one that
  -- ends before the least significand.
  rcases Nat.lt_or_ge other.scale m.scale with scales | scales
  · have apart := finer scales
    unfold below
    split
    next least =>
      have leading : m.steps = 2 ^ 52 * 2 ^ m.scale := by rw [steps, least.1]
      omega
    next ordinary =>
      have normal := m.normalized.resolve_left (by omega)
      have other : m.significand ≠ 2 ^ 52 := fun leading => ordinary ⟨leading, by omega⟩
      have above : (2 ^ 52 + 1) * 2 ^ m.scale ≤ m.steps := Nat.mul_le_mul_right _ (by omega)
      omega
  · have apart := grid scales
    unfold below
    split <;> omega

/-- No magnitude is nearer to the number, and of two that are as near this one is even. -/
structure Nearest (m : Magnitude) (x : ℚ) : Prop where
  closest : ∀ other : Magnitude, |x - m.value| ≤ |x - other.value|
  even : ∀ other : Magnitude, other ≠ m → |x - other.value| = |x - m.value| → m.significand % 2 = 0

theorem value_mul_intervalUnit (m : Magnitude) : m.value * intervalUnit = (4 * m.steps : Nat) := by
  have unit : (intervalUnit : ℚ) = 4 * 2 ^ 1074 := by
    rw [intervalUnit_eq, Nat.cast_mul, Nat.cast_pow, Nat.cast_ofNat, Nat.cast_ofNat]
  have positive : (2 : ℚ) ^ 1074 ≠ 0 := by positivity
  rw [value, unit]
  generalize (2 : ℚ) ^ 1074 = least at *
  push_cast
  field_simp

theorem abs_sub_value (m : Magnitude) (x : ℚ) :
    |x - m.value| = |x * intervalUnit - (4 * m.steps : Nat)| / intervalUnit := by
  have unit : (0 : ℚ) < intervalUnit := Nat.cast_pos.mpr intervalUnit_pos
  have scaled : x - m.value = (x * intervalUnit - (4 * m.steps : Nat)) / intervalUnit := by
    rw [← value_mul_intervalUnit, ← sub_mul, mul_div_cancel_right₀ _ unit.ne']
  rw [scaled, abs_div, abs_of_pos unit]

/-- From half of the way to its neighbours on both sides a number is nearest to the middle. -/
theorem abs_sub_le_of_gap {x middle below above other : ℚ} (positive : 0 < below ∧ 0 < above)
    (low : middle - below ≤ x) (high : x ≤ middle + above)
    (gap : other + 2 * below ≤ middle ∨ middle + 2 * above ≤ other) :
    |x - middle| ≤ |x - other| ∧
      (|x - other| = |x - middle| → x = middle - below ∨ x = middle + above) := by
  rcases gap with lower | upper
  · rw [abs_of_nonneg (show 0 ≤ x - other by linarith), abs_le]
    refine ⟨⟨by linarith, by linarith⟩, fun tie => .inl ?_⟩
    rcases abs_cases (x - middle) with ⟨same, _⟩ | ⟨same, _⟩ <;> linarith
  · rw [abs_of_nonpos (show x - other ≤ 0 by linarith), abs_le]
    refine ⟨⟨by linarith, by linarith⟩, fun tie => .inr ?_⟩
    rcases abs_cases (x - middle) with ⟨same, _⟩ | ⟨same, _⟩ <;> linarith

theorem gap_of_ne (different : other ≠ m) :
    4 * other.steps + 2 * m.below ≤ 4 * m.steps ∨
      4 * m.steps + 2 * (2 * 2 ^ m.scale) ≤ 4 * other.steps := by
  rcases Nat.lt_trichotomy other.steps m.steps with less | same | greater
  · exact .inl (steps_sub_le less)
  · exact absurd (eq_of_steps_eq same) different
  · have gap := steps_add_le greater
    omega

theorem below_pos (m : Magnitude) : 0 < m.below := by
  unfold below
  split <;> positivity

/-- No magnitude is nearer to a number than the one that the number is rounded to. -/
theorem nearest_of_contains {x : ℚ} (inside : m.interval.Contains x) : m.Nearest x := by
  have unit : (0 : ℚ) < intervalUnit := Nat.cast_pos.mpr intervalUnit_pos
  have positive : (0 : ℚ) < m.below ∧ (0 : ℚ) < (2 * 2 ^ m.scale : Nat) :=
    ⟨by exact_mod_cast m.below_pos, by positivity⟩
  rw [interval_eq, RoundingInterval.Contains] at inside
  dsimp only at inside
  -- The bound below is cut off at zero.
  have truncated : ((4 * m.steps : Nat) : ℚ) - m.below ≤ (4 * m.steps - m.below : Nat) := by
    rw [sub_le_iff_le_add]
    exact_mod_cast (le_tsub_add : 4 * m.steps ≤ 4 * m.steps - m.below + m.below)
  have apart (other : Magnitude) (different : other ≠ m) :
      |x - m.value| ≤ |x - other.value| ∧
        (|x - other.value| = |x - m.value| → m.significand % 2 = 0) := by
    have gap : ((4 * other.steps : Nat) : ℚ) + 2 * m.below ≤ (4 * m.steps : Nat) ∨
        ((4 * m.steps : Nat) : ℚ) + 2 * (2 * 2 ^ m.scale : Nat) ≤ (4 * other.steps : Nat) := by
      exact_mod_cast gap_of_ne different
    rw [abs_sub_value, abs_sub_value, div_le_div_iff_of_pos_right unit, div_left_inj' unit.ne']
    generalize x * intervalUnit = scaled at *
    rw [Nat.cast_add] at inside
    split at inside
    next closed =>
      obtain ⟨low, high⟩ := inside
      have near := abs_sub_le_of_gap positive (truncated.trans low) high gap
      exact ⟨near.1, fun _ => beq_iff_eq.mp closed⟩
    next =>
      obtain ⟨low, high⟩ := inside
      have near := abs_sub_le_of_gap positive (truncated.trans low.le) high.le gap
      refine ⟨near.1, fun tie => ?_⟩
      -- An open interval does not reach the middles between neighbours.
      rcases near.2 tie with atLow | atHigh <;> linarith
  refine ⟨fun other => ?_, fun other different => (apart other different).2⟩
  by_cases same : other = m
  · rw [same]
  · exact (apart other same).1

theorem round?_eq_none {num den : Nat} (positive : 0 < den) (large : limit * den ≤ num) :
    round? num den = none := by
  rw [Option.eq_none_iff_forall_ne_some]
  intro m rounded
  exact absurd (lt_limit_of_round? positive rounded) (Nat.not_lt.mpr large)

theorem zero_contains_iff (num : Nat) {den : Nat} (positive : 0 < den) :
    zero.interval.Contains (num / den) ↔ num * intervalUnit ≤ 2 * den := by
  have interval : zero.interval = ⟨0, 0, 2, true⟩ := rfl
  rw [RoundingInterval.contains_div_iff _ _ positive, interval, if_pos rfl, Nat.zero_mul]
  exact and_iff_right (Nat.zero_le _)

end Magnitude

namespace Decimal

def value (d : Decimal) : ℚ := d.digits * (10 : ℚ) ^ d.exponent

def num (d : Decimal) : Nat := d.digits * 10 ^ d.exponent.toNat

def den (d : Decimal) : Nat := 10 ^ (-d.exponent).toNat

theorem den_pos (d : Decimal) : 0 < d.den := by
  unfold den
  positivity

theorem value_eq_div (d : Decimal) : d.value = d.num / d.den := by
  obtain ⟨n, whole | fraction⟩ := d.exponent.eq_nat_or_neg
  · simp [value, num, den, whole]
  · simp [value, num, den, fraction, div_eq_mul_inv]

theorem two_pow_le_ten_pow (n : Nat) : 2 ^ (3 * n) ≤ 10 ^ n := by
  rw [pow_mul]
  exact Nat.pow_le_pow_left (by decide) n

theorem mul_two_pow_le (digits n : Nat) : digits * (4 * 2 ^ n) ≤ 2 ^ (digits.log2 + 3 + n) := calc
  digits * (4 * 2 ^ n) ≤ 2 ^ (digits.log2 + 1) * (4 * 2 ^ n) :=
    Nat.mul_le_mul_right _ Nat.lt_log2_self.le
  _ = 2 ^ (digits.log2 + 3 + n) := by ring

theorem round?_of_large {d : Decimal} (filled : d.digits ≠ 0)
    (large : 2000 < (d.digits.log2 : Int) + 3 * d.exponent ∧ 0 < d.exponent) :
    Magnitude.round? d.num d.den = none := by
  obtain ⟨n, whole⟩ := Int.eq_ofNat_of_zero_le large.2.le
  refine Magnitude.round?_eq_none d.den_pos ?_
  have one : d.den = 1 := by simp [den, whole]
  have num : d.num = d.digits * 10 ^ n := by simp [num, whole]
  rw [one, num, Nat.mul_one]
  calc
    Magnitude.limit ≤ 2 ^ 54 * 2 ^ 970 := Nat.mul_le_mul_right _ (by decide)
    _ = 2 ^ (54 + 970) := (pow_add 2 54 970).symm
    _ ≤ 2 ^ (d.digits.log2 + 3 * n) := pow_le_pow_right₀ (by decide) (by omega)
    _ = 2 ^ d.digits.log2 * 2 ^ (3 * n) := pow_add ..
    _ ≤ d.digits * 10 ^ n := Nat.mul_le_mul (Nat.log2_self_le filled) (two_pow_le_ten_pow n)

theorem round?_of_small {d : Decimal}
    (small : (d.digits.log2 : Int) + 3 * d.exponent < -1500 ∧ d.exponent < 0) :
    Magnitude.round? d.num d.den = some .zero := by
  obtain ⟨n, fraction⟩ := Int.eq_ofNat_of_zero_le (show 0 ≤ -d.exponent by omega)
  refine Magnitude.round?_of_contains d.den_pos ((Magnitude.zero_contains_iff _ d.den_pos).mpr ?_)
  have none : d.exponent.toNat = 0 := by omega
  have num : d.num = d.digits := by simp [num, none]
  have den : d.den = 10 ^ n := by simp [den, fraction]
  rw [num, den, intervalUnit_eq]
  calc
    d.digits * (4 * 2 ^ 1074) ≤ 2 ^ (d.digits.log2 + 3 + 1074) := mul_two_pow_le ..
    _ ≤ 2 ^ (3 * n) := pow_le_pow_right₀ (by decide) (by omega)
    _ ≤ 10 ^ n := two_pow_le_ten_pow n
    _ ≤ 2 * 10 ^ n := Nat.le_mul_of_pos_left _ (by decide)

theorem ofDecimal?_eq_round? (d : Decimal) :
    Magnitude.ofDecimal? d.digits d.exponent = Magnitude.round? d.num d.den := by
  unfold Magnitude.ofDecimal?
  dsimp only
  -- The guards on the binary digits only settle what is beyond the limit or rounded to zero.
  split
  next none =>
    have num : d.num = 0 := by rw [num, none, Nat.zero_mul]
    refine (Magnitude.round?_of_contains d.den_pos ?_).symm
    rw [Magnitude.zero_contains_iff _ d.den_pos, num, Nat.zero_mul]
    exact Nat.zero_le _
  next filled =>
    split
    next large => exact (round?_of_large filled large).symm
    next =>
      split
      next small => exact (round?_of_small small).symm
      next =>
        split
        next whole =>
          have none : (-d.exponent).toNat = 0 := by omega
          rw [num, den, none, pow_zero]
          rfl
        next fraction =>
          have none : d.exponent.toNat = 0 := by omega
          rw [num, den, none, pow_zero, Nat.mul_one]
          rfl

theorem ofDecimal?_eq_some_iff (d : Decimal) (m : Magnitude) :
    Magnitude.ofDecimal? d.digits d.exponent = some m ↔ m.interval.Contains d.value := by
  rw [d.ofDecimal?_eq_round?, Magnitude.round?_eq_some_iff d.num d.den_pos, d.value_eq_div]

end Decimal

namespace Double

theorem ofInt_eq_finite_iff (i : Int) (negative : Bool) (m : Magnitude) :
    ofInt i = .finite negative m ↔
      negative = decide (i < 0) ∧ m.interval.Contains (i.natAbs : ℚ) := by
  have whole := Magnitude.round?_eq_some_iff i.natAbs Nat.one_pos m
  rw [Nat.cast_one, div_one] at whole
  rw [← whole, ofInt, Magnitude.ofNat?]
  cases Magnitude.round? i.natAbs 1 with
  | none => simp [ofMagnitude?]
  | some rounded => simp [ofMagnitude?, eq_comm]

theorem isFinite_ofInt (i : Int) : (ofInt i).isFinite = true ↔ i.natAbs < Magnitude.limit := by
  constructor
  · intro finite
    cases rounded : Magnitude.round? i.natAbs 1 with
    | none =>
      rw [ofInt, Magnitude.ofNat?, rounded] at finite
      cases finite
    | some m =>
      have small := Magnitude.lt_limit_of_round? Nat.one_pos rounded
      rwa [Nat.mul_one] at small
  · intro small
    rw [← Nat.mul_one Magnitude.limit] at small
    obtain ⟨m, rounded⟩ := Magnitude.exists_round? Nat.one_pos small
    rw [ofInt, Magnitude.ofNat?, rounded]
    rfl

end Double

end RecordSchema.Number
