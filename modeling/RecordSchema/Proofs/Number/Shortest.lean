import RecordSchema.Proofs.Number.Digits
import RecordSchema.Proofs.Number.Nearest
import Mathlib.Tactic.Positivity

set_option autoImplicit false

/-!
The shortest digits of a magnitude: they are found within twenty grids, and they are rounded back to
the magnitude.
-/

namespace RecordSchema.Number

theorem gridStep_eq (exponent : Int) : gridStep exponent = intervalUnit * 10 ^ exponent.toNat := rfl

theorem gridStep_pos (exponent : Int) : 0 < gridStep exponent := by
  have unit_pos := intervalUnit_pos
  rw [gridStep_eq]
  positivity

theorem gridScale_pos (exponent : Int) : 0 < gridScale exponent :=
  Nat.pow_pos (by decide)

theorem Decimal.den_eq (d : Decimal) : d.den = gridScale d.exponent := rfl

theorem Decimal.num_mul_intervalUnit (d : Decimal) :
    d.num * intervalUnit = d.digits * gridStep d.exponent := by
  rw [num, gridStep_eq, Nat.mul_assoc, Nat.mul_comm intervalUnit]

/-- A decimal is a point of the grid of its exponent. -/
theorem Decimal.value_mul_gridScale (d : Decimal) :
    d.value * gridScale d.exponent * intervalUnit = d.digits * gridStep d.exponent := by
  have positive : (d.den : ℚ) ≠ 0 := by exact_mod_cast d.den_pos.ne'
  rw [← den_eq, value_eq_div, div_mul_cancel₀ _ positive]
  exact_mod_cast d.num_mul_intervalUnit

namespace RoundingInterval

variable {interval : RoundingInterval} {ties : TieRule} {exponent : Int}

theorem holds_iff_bounds (point : Nat) : interval.holds exponent point = true ↔
    if interval.closed then
      interval.low * gridScale exponent ≤ point * gridStep exponent ∧
        point * gridStep exponent ≤ interval.high * gridScale exponent
    else
      interval.low * gridScale exponent < point * gridStep exponent ∧
        point * gridStep exponent < interval.high * gridScale exponent := by
  rw [holds]
  split <;> simp

theorem holds_iff (point : Nat) : interval.holds exponent point = true ↔
    interval.Contains (⟨point, exponent⟩ : Decimal).value := by
  rw [holds_iff_bounds, Decimal.value_eq_div, interval.contains_div_iff _ (Decimal.den_pos _),
    Decimal.num_mul_intervalUnit, Decimal.den_eq]

/-- The grid point that the value is at or above. -/
def lower (interval : RoundingInterval) (exponent : Int) : Nat :=
  interval.value * gridScale exponent / gridStep exponent

/-- Of the two grid points beside the value the lower one is nearer, or as near and taken. -/
def TakesLower (interval : RoundingInterval) (ties : TieRule) (exponent : Int) : Prop :=
  2 * (interval.value * gridScale exponent % gridStep exponent) < gridStep exponent ∨
    (2 * (interval.value * gridScale exponent % gridStep exponent) = gridStep exponent ∧
      ties.takesLower (interval.lower exponent) = true)

instance : Decidable (interval.TakesLower ties exponent) := inferInstanceAs (Decidable (_ ∨ _))

theorem hit?_eq_some_iff (point : Nat) : interval.hit? ties exponent = some point ↔
    interval.holds exponent point = true ∧
      (point = interval.lower exponent ∧
          (interval.holds exponent (interval.lower exponent + 1) = true →
            interval.TakesLower ties exponent) ∨
        point = interval.lower exponent + 1 ∧
          (interval.holds exponent (interval.lower exponent) = true →
            ¬ interval.TakesLower ties exponent)) := by
  have below : interval.value * gridScale exponent / gridStep exponent = interval.lower exponent :=
    rfl
  -- Each of the two points is inside or not, and if both are the rule decides.
  by_cases low : interval.holds exponent (interval.lower exponent) = true <;>
    by_cases high : interval.holds exponent (interval.lower exponent + 1) = true <;>
      by_cases takes : interval.TakesLower ties exponent <;>
        simp only [hit?, below, low, high, ← TakesLower.eq_def, takes]
  all_goals grind

theorem lower_mul_le (interval : RoundingInterval) (exponent : Int) :
    interval.lower exponent * gridStep exponent ≤ interval.value * gridScale exponent :=
  Nat.div_mul_le_self _ _

theorem lt_lower_add_one_mul (interval : RoundingInterval) (exponent : Int) :
    interval.value * gridScale exponent < (interval.lower exponent + 1) * gridStep exponent := by
  rw [Nat.mul_comm _ (gridStep exponent)]
  exact Nat.lt_mul_div_succ _ (gridStep_pos exponent)

/-- The value of the interval is properly inside. -/
def Proper (interval : RoundingInterval) : Prop :=
  interval.low < interval.value ∧ interval.value < interval.high

/-- From a point inside on towards the value all points are inside. -/
theorem holds_towards (proper : interval.Proper) {point other : Nat}
    (inside : interval.holds exponent point = true)
    (between : point * gridStep exponent ≤ other * gridStep exponent ∧
          other * gridStep exponent ≤ interval.value * gridScale exponent ∨
        interval.value * gridScale exponent < other * gridStep exponent ∧
          other * gridStep exponent ≤ point * gridStep exponent) :
    interval.holds exponent other = true := by
  have scale_pos := gridScale_pos exponent
  have low := Nat.mul_lt_mul_of_pos_right proper.1 scale_pos
  have high := Nat.mul_lt_mul_of_pos_right proper.2 scale_pos
  rw [holds_iff_bounds] at inside ⊢
  split at inside
  next closed =>
    rw [if_pos closed]
    omega
  next opened =>
    rw [if_neg opened]
    omega

/-- If there is a point of the grid inside, there is one beside the value. -/
theorem holds_beside (proper : interval.Proper) {point : Nat}
    (inside : interval.holds exponent point = true) :
    interval.holds exponent (interval.lower exponent) = true ∨
      interval.holds exponent (interval.lower exponent + 1) = true := by
  rcases Nat.lt_or_ge (interval.lower exponent) point with above | below
  · exact .inr (holds_towards proper inside
      (.inr ⟨interval.lt_lower_add_one_mul exponent, Nat.mul_le_mul_right _ above⟩))
  · exact .inl (holds_towards proper inside
      (.inl ⟨Nat.mul_le_mul_right _ below, interval.lower_mul_le exponent⟩))

theorem exists_hit?_iff (ties : TieRule) (proper : interval.Proper) :
    (∃ point, interval.hit? ties exponent = some point) ↔
      ∃ point, interval.holds exponent point = true := by
  constructor
  · rintro ⟨point, hit⟩
    exact ⟨point, (hit?_eq_some_iff point).mp hit |>.1⟩
  · rintro ⟨point, inside⟩
    simp only [hit?_eq_some_iff]
    have beside := holds_beside proper inside
    grind

/-- A grid finer than the upper half of the interval has a point in it. -/
theorem exists_hit? (proper : interval.Proper)
    (fine : interval.value * gridScale exponent + gridStep exponent <
      interval.high * gridScale exponent) : ∃ point, interval.hit? ties exponent = some point := by
  refine (exists_hit?_iff ties proper).mpr ⟨interval.lower exponent + 1, ?_⟩
  have low := Nat.mul_lt_mul_of_pos_right proper.1 (gridScale_pos exponent)
  have reached := interval.lower_mul_le exponent
  have next := interval.lt_lower_add_one_mul exponent
  rw [Nat.add_mul, Nat.one_mul] at next
  rw [holds_iff_bounds, Nat.add_mul, Nat.one_mul]
  split <;> omega

/-- The digits are a hit, and no grid was hit between the given exponent and theirs. -/
structure FirstHit (interval : RoundingInterval) (ties : TieRule) (start : Int) (d : Decimal) :
    Prop where
  hit : interval.hit? ties d.exponent = some d.digits
  bounded : d.exponent ≤ start
  missed : ∀ exponent, d.exponent < exponent → exponent ≤ start →
    interval.hit? ties exponent = none

theorem firstHit_spec {interval : RoundingInterval} {ties : TieRule} {count : Nat} {start : Int}
    (hits : ∃ j < count, ∃ x, interval.hit? ties (start - (j : Int)) = some x) :
    interval.FirstHit ties start (interval.firstHit ties count start) := by
  induction count generalizing start with
  | zero =>
    obtain ⟨j, impossible, _⟩ := hits
    omega
  | succ count ih =>
    rw [firstHit]
    split
    next digits hit =>
      exact ⟨hit, le_rfl, fun exponent above within => absurd above (not_lt.mpr within)⟩
    next missed =>
      obtain ⟨j, bounded, x, hit⟩ := hits
      have later : ∃ j < count, ∃ x, interval.hit? ties (start - 1 - (j : Int)) = some x := by
        cases j with
        | zero =>
          rw [Nat.cast_zero, Int.sub_zero, missed] at hit
          cases hit
        | succ j =>
          refine ⟨j, by omega, x, ?_⟩
          rw [← hit]
          congr 1
          omega
      have first := ih later
      have below := first.bounded
      refine ⟨first.hit, by omega, fun exponent above within => ?_⟩
      by_cases top : exponent = start
      · rw [top, missed]
      · exact first.missed exponent above (by omega)

end RoundingInterval

theorem intervalUnit_le : intervalUnit ≤ 4 * 10 ^ 329 := by decide +kernel

theorem leadingExponent_le {value : Nat} (positive : 4 ≤ value) :
    (intervalUnit : ℚ) * 10 ^ leadingExponent value ≤ value := by
  have reach := intervalUnit_le
  have unit_pos := intervalUnit_pos
  unfold leadingExponent
  simp only [Nat.pow_eq]
  generalize intervalUnit = unit at *
  split
  next large =>
    have filled := length_natDigits_pos (value / unit)
    have leading : ((natDigits (value / unit)).length : Int) - 1 =
        (((natDigits (value / unit)).length - 1 : Nat) : Int) := by omega
    have bound : unit * 10 ^ ((natDigits (value / unit)).length - 1) ≤ value := calc
      unit * 10 ^ ((natDigits (value / unit)).length - 1) ≤ unit * (value / unit) :=
        Nat.mul_le_mul_left _ (pow_le_of_pos (Nat.div_pos large unit_pos))
      _ ≤ value := Nat.mul_div_le value unit
    rw [leading, zpow_natCast]
    exact_mod_cast bound
  next =>
    split
    next k found =>
      have reached : unit ≤ value * 10 ^ k := by simpa using List.find?_some found
      rw [zpow_neg, zpow_natCast, mul_inv_le_iff₀ (by positivity)]
      exact_mod_cast reached
    next unfound =>
      -- The last of the powers is large enough for any positive value.
      obtain ⟨k, member, enough⟩ : ∃ k ∈ List.range 330, unit ≤ value * 10 ^ k :=
        ⟨329, List.mem_range.mpr (by decide), reach.trans (Nat.mul_le_mul_right _ positive)⟩
      exact absurd (decide_eq_true enough) (List.find?_eq_none.mp unfound k member)

namespace Magnitude

variable {m : Magnitude}

theorem steps_pos (positive : m.significand ≠ 0) : 0 < m.steps :=
  Nat.mul_pos (Nat.pos_of_ne_zero positive) (by positivity)

theorem interval_proper (positive : m.significand ≠ 0) : m.interval.Proper := by
  have filled := steps_pos positive
  have below := m.below_pos
  have scale_pos : 0 < 2 ^ m.scale := by positivity
  rw [interval_eq, RoundingInterval.Proper]
  dsimp only
  omega

/-- Seventeen places after the leading one tell a magnitude and its neighbours apart. -/
theorem exists_hit?_of_leading (ties : TieRule) (positive : m.significand ≠ 0) : ∃ x,
    m.interval.hit? ties (leadingExponent m.interval.value + 1 - (18 : Nat)) = some x := by
  have filled := steps_pos positive
  have proper := interval_proper positive
  have leading := leadingExponent_le (show 4 ≤ 4 * m.steps by omega)
  have value : m.interval.value = 4 * m.steps := by rw [interval_eq]
  have high : m.interval.high = 4 * m.steps + 2 * 2 ^ m.scale := by rw [interval_eq]
  rw [value]
  generalize leadingExponent (4 * m.steps) = first at *
  obtain ⟨exponent, shifted⟩ : ∃ exponent : Int, first + 1 - (18 : Nat) = exponent := ⟨_, rfl⟩
  have places : first - (17 : Nat) = exponent := by omega
  -- Ten to the seventeenth is the first power of ten above two to the 54th.
  have step : (intervalUnit : ℚ) * 10 ^ exponent < 2 * 2 ^ m.scale := by
    have bounded : ((4 * m.steps : Nat) : ℚ) ≤ 4 * (2 ^ 53 * 2 ^ m.scale) := by
      exact_mod_cast Nat.mul_le_mul_left 4 (Nat.mul_le_mul_right _ m.lt_two_pow.le)
    have scale_pos : (0 : ℚ) < 2 ^ m.scale := by positivity
    rw [← places, zpow_sub₀ (by norm_num), zpow_natCast, ← mul_div_assoc,
      div_lt_iff₀ (by positivity)]
    linarith
  have grid : (10 : ℚ) ^ exponent * gridScale exponent * intervalUnit = gridStep exponent := by
    simpa only [Decimal.value, Nat.cast_one, one_mul] using
      (⟨1, exponent⟩ : Decimal).value_mul_gridScale
  have fine : gridStep exponent < 2 * 2 ^ m.scale * gridScale exponent := by
    have scale_pos : (0 : ℚ) < gridScale exponent := by exact_mod_cast gridScale_pos exponent
    have scaled := mul_lt_mul_of_pos_right step scale_pos
    rw [mul_assoc, mul_comm, grid] at scaled
    exact_mod_cast scaled
  rw [shifted]
  refine RoundingInterval.exists_hit? proper ?_
  rw [value, high, Nat.add_mul]
  exact Nat.add_lt_add_left fine _

theorem isZero_iff : m.isZero = true ↔ m.significand = 0 := beq_iff_eq

theorem eq_zero_of_isZero (none : m.isZero = true) : m = .zero := by
  refine eq_of_steps_eq ?_
  rw [steps, isZero_iff.mp none, Nat.zero_mul]
  rfl

theorem shortest_of_filled (ties : TieRule) (positive : m.significand ≠ 0) :
    m.interval.FirstHit ties (leadingExponent m.interval.value + 1) (m.shortest ties) := by
  rw [shortest, if_neg (mt isZero_iff.mp positive)]
  exact RoundingInterval.firstHit_spec ⟨18, by decide, exists_hit?_of_leading ties positive⟩

theorem shortest_contains (m : Magnitude) (ties : TieRule) :
    m.interval.Contains (m.shortest ties).value := by
  by_cases empty : m.isZero = true
  next =>
    have zero := (zero_contains_iff 0 Nat.one_pos).mpr (by simp)
    rw [shortest, if_pos empty]
    simpa [eq_zero_of_isZero empty, Decimal.value] using zero
  next =>
    have hit := (shortest_of_filled ties (mt isZero_iff.mpr empty)).hit
    exact (RoundingInterval.holds_iff _).mp ((RoundingInterval.hit?_eq_some_iff _).mp hit).1

/-- The shortest digits are read as the magnitude that they were made of. -/
theorem ofDecimal?_shortest (m : Magnitude) (ties : TieRule) :
    ofDecimal? (m.shortest ties).digits (m.shortest ties).exponent = some m :=
  ((m.shortest ties).ofDecimal?_eq_some_iff m).mpr (m.shortest_contains ties)

end Magnitude

end RecordSchema.Number
