import RecordSchema.Proofs.Number.Shortest

set_option autoImplicit false

/-!
The shortest digits under both rules for ties. No coarser decimal is rounded to the magnitude, and
the rules part only at a magnitude in the middle between two of its shortest decimals of which the
lower is even.
-/

namespace RecordSchema.Number

theorem lt_pow_leadingExponent (value : Nat) :
    (value : ℚ) < intervalUnit * 10 ^ (leadingExponent value + 1) := by
  have unit_pos := intervalUnit_pos
  unfold leadingExponent
  simp only [Nat.pow_eq]
  generalize intervalUnit = unit at *
  split
  next =>
    have bounded := lt_pow_length (value / unit)
    have quotient : value < unit * 10 ^ (natDigits (value / unit)).length := by
      rw [Nat.mul_comm]
      exact (Nat.div_lt_iff_lt_mul unit_pos).mp bounded
    rw [Int.sub_add_cancel, zpow_natCast]
    exact_mod_cast quotient
  next small =>
    split
    next k found =>
      obtain ⟨reached, _, before⟩ := List.find?_range_eq_some.mp found
      cases k with
      | zero => exact absurd (by simpa using reached) small
      | succ k =>
        -- One place before the first that reaches the unit the value is below it.
        have short : value * 10 ^ k < unit := by simpa using before k (Nat.lt_succ_self k)
        have shifted : -((k + 1 : Nat) : Int) + 1 = -(k : Int) := by omega
        rw [shifted, zpow_neg, zpow_natCast, lt_mul_inv_iff₀ (by positivity)]
        exact_mod_cast short
    next =>
      have below : value < unit * 10 := by omega
      rw [Int.zero_add, zpow_one]
      exact_mod_cast below

theorem RoundingInterval.Contains.bounds {interval : RoundingInterval} {x : ℚ}
    (inside : interval.Contains x) :
    interval.low ≤ x * intervalUnit ∧ x * intervalUnit ≤ interval.high := by
  unfold Contains at inside
  split at inside
  next => exact inside
  next => exact ⟨inside.1.le, inside.2.le⟩

/-- A value that one rule sends down and the other one up is in the middle above an even point. -/
theorem RoundingInterval.parts_iff {interval : RoundingInterval} {exponent : Int} :
    interval.TakesLower .toEven exponent ∧ ¬ interval.TakesLower .up exponent ↔
      interval.lower exponent % 2 = 0 ∧
        2 * (interval.value * gridScale exponent % gridStep exponent) = gridStep exponent := by
  simp only [TakesLower, TieRule.takesLower, beq_iff_eq, Bool.false_eq_true, and_false, or_false]
  constructor
  · rintro ⟨below | ⟨half, even⟩, up⟩
    · exact absurd below up
    · exact ⟨even, half⟩
  · rintro ⟨even, half⟩
    exact ⟨.inr ⟨half, even⟩, by omega⟩

/-- A number with an even last digit has as many digits as the next one. -/
theorem length_natDigits_succ {n : Nat} (even : n % 2 = 0) :
    (natDigits (n + 1)).length = (natDigits n).length := by
  rw [natDigits, natDigits.eq_def n]
  by_cases small : n < 10
  · rw [if_pos (show n + 1 < 10 by omega), if_pos small]
    rfl
  · have front : (n + 1) / 10 = n / 10 := by omega
    rw [if_neg (show ¬ n + 1 < 10 by omega), if_neg small, front, List.length_append,
      List.length_append]
    rfl

namespace Magnitude

variable {m : Magnitude}

theorem value_eq_zero (none : m.significand = 0) : m.value = 0 := by
  rw [value, steps, none, Nat.zero_mul, Nat.cast_zero, zero_div]

theorem interval_value (m : Magnitude) : (m.interval.value : ℚ) = m.value * intervalUnit := by
  rw [value_mul_intervalUnit, interval_eq]

/-- Numbers above by more than half are rounded to other magnitudes. -/
theorem two_mul_le_of_contains (positive : m.significand ≠ 0) {x : ℚ}
    (inside : m.interval.Contains x) : 2 * x ≤ 3 * m.value := by
  have unit : (0 : ℚ) < intervalUnit := Nat.cast_pos.mpr intervalUnit_pos
  have step : 2 ^ m.scale ≤ m.steps := Nat.le_mul_of_pos_left _ (Nat.pos_of_ne_zero positive)
  have high : (m.interval.high : ℚ) ≤ (6 * m.steps : Nat) := by
    rw [interval_eq, Nat.cast_le]
    dsimp only
    omega
  have bound := inside.bounds.2.trans high
  have own := m.value_mul_intervalUnit
  push_cast at bound own
  refine le_of_mul_le_mul_right ?_ unit
  linarith

theorem ofDecimal?_of_coarser (ties : TieRule) (positive : m.significand ≠ 0) {digits : Nat}
    {exponent : Int} (coarser : (m.shortest ties).exponent < exponent) :
    ofDecimal? digits exponent ≠ some m := by
  intro read
  have inside := ((⟨digits, exponent⟩ : Decimal).ofDecimal?_eq_some_iff m).mp read
  have first := shortest_of_filled ties positive
  rcases Int.lt_or_le (leadingExponent m.interval.value + 1) exponent with above | within
  · -- Above the first grid the least decimal is ten times as large as the magnitude.
    have filled : 1 ≤ digits := by
      refine Nat.pos_of_ne_zero fun none => positive ?_
      rw [none] at read
      rw [← Option.some.inj read]
      rfl
    have unit : (0 : ℚ) < intervalUnit := Nat.cast_pos.mpr intervalUnit_pos
    have small := lt_pow_leadingExponent m.interval.value
    have near := two_mul_le_of_contains positive inside
    rw [interval_value, mul_comm, mul_lt_mul_iff_right₀ unit] at small
    generalize leadingExponent m.interval.value + 1 = start at *
    have scale_pos : (0 : ℚ) < 10 ^ start := zpow_pos (by norm_num) _
    have power : (10 : ℚ) ^ start * 10 ≤ 10 ^ exponent := by
      rw [← zpow_add_one₀ (by norm_num)]
      exact zpow_le_zpow_right₀ (by norm_num) above
    have least : (10 : ℚ) ^ exponent ≤ digits * 10 ^ exponent :=
      le_mul_of_one_le_left (zpow_pos (by norm_num) _).le (by exact_mod_cast filled)
    rw [Decimal.value] at near
    linarith
  · have hit := (RoundingInterval.exists_hit?_iff ties (interval_proper positive)).mpr
      ⟨digits, (RoundingInterval.holds_iff digits).mpr inside⟩
    rw [first.missed exponent coarser within] at hit
    simp at hit

theorem exponent_shortest_eq (ties : TieRule) {digits : Nat} {exponent : Int}
    (positive : m.significand ≠ 0) (read : ofDecimal? digits exponent = some m)
    (coarsest : ∀ other coarser, exponent < coarser → ofDecimal? other coarser ≠ some m) :
    (m.shortest ties).exponent = exponent := by
  rcases Int.lt_trichotomy (m.shortest ties).exponent exponent with finer | same | coarser
  · exact absurd read (ofDecimal?_of_coarser ties positive finer)
  · exact same
  · exact absurd (m.ofDecimal?_shortest ties) (coarsest _ _ coarser)

/-- The magnitude is in the middle between a decimal with an even last digit and the next one, both
are rounded to it, and no coarser decimal is. -/
structure TiesAt (m : Magnitude) (digits : Nat) (exponent : Int) : Prop where
  even : digits % 2 = 0
  middle : 2 * m.value = (2 * digits + 1) * 10 ^ exponent
  lower : ofDecimal? digits exponent = some m
  upper : ofDecimal? (digits + 1) exponent = some m
  coarsest : ∀ other coarser, exponent < coarser → ofDecimal? other coarser ≠ some m

def Ties (m : Magnitude) : Prop := ∃ digits exponent, m.TiesAt digits exponent

theorem TiesAt.filled {digits : Nat} {exponent : Int} (ties : m.TiesAt digits exponent) :
    m.significand ≠ 0 := by
  intro none
  have middle := ties.middle
  rw [value_eq_zero none, mul_zero] at middle
  have positive : (0 : ℚ) < (2 * digits + 1) * 10 ^ exponent :=
    mul_pos (by positivity) (zpow_pos (by norm_num) _)
  exact positive.ne middle

theorem middle_iff (m : Magnitude) (digits : Nat) (exponent : Int) :
    2 * m.value = (2 * digits + 1) * 10 ^ exponent ↔
      2 * (m.interval.value * gridScale exponent) = (2 * digits + 1) * gridStep exponent := by
  have unit : (0 : ℚ) < intervalUnit := Nat.cast_pos.mpr intervalUnit_pos
  have scale : (0 : ℚ) < gridScale exponent := Nat.cast_pos.mpr (gridScale_pos exponent)
  have grid : ((2 * digits + 1 : Nat) : ℚ) * 10 ^ exponent * gridScale exponent * intervalUnit =
      ((2 * digits + 1 : Nat) : ℚ) * gridStep exponent :=
    (⟨2 * digits + 1, exponent⟩ : Decimal).value_mul_gridScale
  have own : 2 * m.value * gridScale exponent * intervalUnit =
      2 * ((m.interval.value : ℚ) * gridScale exponent) := by
    rw [interval_value]
    ring
  rw [← Nat.cast_inj (R := ℚ)]
  push_cast at grid ⊢
  rw [← own, ← grid, mul_left_inj' unit.ne', mul_left_inj' scale.ne']

/-- The middle of a step by quotient and remainder. -/
theorem double_eq_odd_mul_iff {value step : Nat} (positive : 0 < step) (digits : Nat) :
    2 * value = (2 * digits + 1) * step ↔
      value / step = digits ∧ 2 * (value % step) = step := by
  have split := Nat.div_add_mod value step
  have odd : (2 * digits + 1) * step = 2 * (step * digits) + step := by ring
  rw [odd]
  constructor
  · intro middle
    have quotient : value / step = digits :=
      (Nat.div_eq_iff positive).mpr ⟨by rw [Nat.mul_comm]; omega, by rw [Nat.mul_comm]; omega⟩
    rw [quotient] at split
    exact ⟨quotient, by omega⟩
  · rintro ⟨rfl, half⟩
    omega

theorem TiesAt.half {digits : Nat} {exponent : Int} (ties : m.TiesAt digits exponent) :
    m.interval.lower exponent = digits ∧
      2 * (m.interval.value * gridScale exponent % gridStep exponent) = gridStep exponent :=
  (double_eq_odd_mul_iff (gridStep_pos exponent) digits).mp
    ((m.middle_iff digits exponent).mp ties.middle)

theorem hit?_shortest (rule : TieRule) (positive : m.significand ≠ 0) :
    m.interval.hit? rule (m.shortest rule).exponent = some (m.shortest rule).digits :=
  (shortest_of_filled rule positive).hit

/-- At a tie one rule takes the lower of the two decimals, the other one the upper. -/
theorem shortest_of_ties {digits : Nat} {exponent : Int} (ties : m.TiesAt digits exponent) :
    m.shortest .toEven = ⟨digits, exponent⟩ ∧ m.shortest .up = ⟨digits + 1, exponent⟩ := by
  obtain ⟨lower, half⟩ := ties.half
  have lowerInside : m.interval.holds exponent digits = true :=
    (RoundingInterval.holds_iff digits).mpr ((Decimal.ofDecimal?_eq_some_iff ⟨_, _⟩ m).mp ties.lower)
  have upperInside : m.interval.holds exponent (digits + 1) = true :=
    (RoundingInterval.holds_iff _).mpr ((Decimal.ofDecimal?_eq_some_iff ⟨_, _⟩ m).mp ties.upper)
  have place (rule : TieRule) : (m.shortest rule).exponent = exponent :=
    exponent_shortest_eq rule ties.filled ties.lower ties.coarsest
  have parted := RoundingInterval.parts_iff.mpr ⟨lower.symm ▸ ties.even, half⟩
  have even := ((RoundingInterval.hit?_eq_some_iff _).mp (hit?_shortest .toEven ties.filled)).2
  have up := ((RoundingInterval.hit?_eq_some_iff _).mp (hit?_shortest .up ties.filled)).2
  rw [place, lower] at even up
  rcases even with ⟨even, _⟩ | ⟨_, refused⟩
  · rcases up with ⟨_, taken⟩ | ⟨up, _⟩
    · exact absurd (taken upperInside) parted.2
    · exact ⟨congrArg₂ Decimal.mk even (place _), congrArg₂ Decimal.mk up (place _)⟩
  · exact absurd parted.1 (refused lowerInside)

theorem exists_ties_of_ne (different : m.shortest .toEven ≠ m.shortest .up) : m.Ties := by
  have filled : m.significand ≠ 0 := by
    intro none
    have empty : m.isZero = true := isZero_iff.mpr none
    exact different (by rw [shortest, shortest, if_pos empty, if_pos empty])
  have coarsest (other : Nat) (coarser : Int) (above : (m.shortest .up).exponent < coarser) :
      ofDecimal? other coarser ≠ some m :=
    ofDecimal?_of_coarser .up filled above
  have place : (m.shortest .toEven).exponent = (m.shortest .up).exponent :=
    exponent_shortest_eq .toEven filled (m.ofDecimal?_shortest .up) coarsest
  have digits : (m.shortest .toEven).digits ≠ (m.shortest .up).digits :=
    fun same => different (congrArg₂ Decimal.mk same place)
  have lower := m.ofDecimal?_shortest .toEven
  have upper := m.ofDecimal?_shortest .up
  obtain ⟨insideLower, even⟩ :=
    (RoundingInterval.hit?_eq_some_iff _).mp (hit?_shortest .toEven filled)
  obtain ⟨insideUpper, up⟩ := (RoundingInterval.hit?_eq_some_iff _).mp (hit?_shortest .up filled)
  rw [place] at insideLower even lower
  generalize (m.shortest .up).exponent = exponent at *
  generalize (m.shortest .toEven).digits = taken at *
  generalize (m.shortest .up).digits = other at *
  rcases even with ⟨rfl, even⟩ | ⟨rfl, even⟩
  · rcases up with ⟨rfl, _⟩ | ⟨rfl, up⟩
    · exact absurd rfl digits
    · obtain ⟨divisible, half⟩ :=
        RoundingInterval.parts_iff.mp ⟨even insideUpper, up insideLower⟩
      have middle := (double_eq_odd_mul_iff (gridStep_pos exponent) _).mpr ⟨rfl, half⟩
      exact ⟨_, exponent, divisible, (m.middle_iff _ exponent).mpr middle, lower, upper, coarsest⟩
  · rcases up with ⟨rfl, up⟩ | ⟨rfl, _⟩
    · -- A value that is sent down under the second rule is sent down under both.
      have below : 2 * (m.interval.value * gridScale exponent % gridStep exponent) <
          gridStep exponent := by
        simpa [RoundingInterval.TakesLower, TieRule.takesLower] using up insideLower
      exact absurd (.inl below) (even insideUpper)
    · exact absurd rfl digits

theorem shortest_eq_of_not_ties (none : ¬ m.Ties) : m.shortest .toEven = m.shortest .up := by
  by_contra different
  exact none (exists_ties_of_ne different)

/-- The number 0.00236225128173828125, in the middle of two decimals of nineteen places. -/
example : (⟨2477 * 2 ^ 41, 1013, by decide, by decide, by decide⟩ : Magnitude).Ties :=
  exists_ties_of_ne (by decide +kernel)

end Magnitude

end RecordSchema.Number
