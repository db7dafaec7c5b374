import RecordSchema.Number.Shortest
import Mathlib.Algebra.Order.Field.Basic
import Mathlib.Tactic.Linarith
import Mathlib.Tactic.Ring
import Mathlib.Tactic.FieldSimp
import Mathlib.Tactic.NormNum

set_option autoImplicit false

/-!
Rounding to the nearest magnitude: which numbers are rounded to a magnitude, that no other magnitude
is nearer, and where the largest one is left.
-/

namespace RecordSchema.Number

/-- The whole number `n` is one of the nearest to `num / den`, and of two such the even one. -/
structure RoundsTo (num den n : Nat) : Prop where
  low : 2 * (n * den) ≤ 2 * num + den
  high : 2 * num ≤ 2 * (n * den) + den
  even : 2 * (n * den) = 2 * num + den ∨ 2 * num = 2 * (n * den) + den → n % 2 = 0

theorem roundsTo_roundDiv (num : Nat) {den : Nat} (positive : 0 < den) :
    RoundsTo num den (roundDiv num den) := by
  have split := Nat.div_add_mod num den
  have rest := Nat.mod_lt num positive
  have next : (num / den + 1) * den = num / den * den + den := Nat.succ_mul ..
  rw [Nat.mul_comm] at split
  unfold roundDiv
  dsimp only
  split
  next down => constructor <;> omega
  next up => constructor <;> omega

theorem RoundsTo.unique {num den n other : Nat} (positive : 0 < den) (rounds : RoundsTo num den n)
    (roundsOther : RoundsTo num den other) : n = other := by
  -- A larger result is too far away, or a half away from both of two neighbours.
  have not_less {a b : Nat} (roundsA : RoundsTo num den a) (roundsB : RoundsTo num den b) :
      ¬ a < b := by
    intro less
    obtain ⟨gap, rfl⟩ := Nat.exists_eq_add_of_lt less
    obtain ⟨_, high, evenA⟩ := roundsA
    obtain ⟨low, _, evenB⟩ := roundsB
    have expand : (a + gap + 1) * den = a * den + gap * den + den := by ring
    have adjacent : gap = 0 := by
      by_contra farther
      have : den ≤ gap * den := Nat.le_mul_of_pos_left den (by omega)
      omega
    subst adjacent
    omega
  have notLess := not_less rounds roundsOther
  have notGreater := not_less roundsOther rounds
  omega

theorem roundDiv_eq_iff (num : Nat) {den : Nat} (positive : 0 < den) (n : Nat) :
    roundDiv num den = n ↔ RoundsTo num den n := by
  constructor
  · rintro rfl
    exact roundsTo_roundDiv num positive
  · exact (roundsTo_roundDiv num positive).unique positive

namespace Magnitude

/-- At this scale the significand has 53 digits in base two, unless the scale is the least one. -/
structure FitsScale (scaled den scale : Nat) : Prop where
  below : scaled < 2 ^ 53 * (den * 2 ^ scale)
  above : scale = 0 ∨ 2 ^ 52 * (den * 2 ^ scale) ≤ scaled

theorem scale_eq_iff (scaled : Nat) {den : Nat} (positive : 0 < den) (scale : Nat) :
    (scaled / den).log2 + 1 - 53 = scale ↔ FitsScale scaled den scale := by
  have below : scaled < 2 ^ 53 * (den * 2 ^ scale) ↔ scaled / den < 2 ^ (scale + 53) := by
    rw [Nat.div_lt_iff_lt_mul positive, pow_add]
    ring_nf
  have above : 2 ^ 52 * (den * 2 ^ scale) ≤ scaled ↔ 2 ^ (scale + 52) ≤ scaled / den := by
    rw [Nat.le_div_iff_mul_le positive, pow_add]
    ring_nf
  have fits : FitsScale scaled den scale ↔
      scaled / den < 2 ^ (scale + 53) ∧ (scale = 0 ∨ 2 ^ (scale + 52) ≤ scaled / den) := by
    rw [← below, ← above]
    exact ⟨fun ⟨b, a⟩ => ⟨b, a⟩, fun ⟨b, a⟩ => ⟨b, a⟩⟩
  rw [fits]
  by_cases none : scaled / den = 0
  · have small : 0 < 2 ^ (scale + 53) := by positivity
    have large : ¬ 2 ^ (scale + 52) ≤ 0 := by simp
    simp [none, small, large, Nat.log2_zero, eq_comm]
  · rw [← Nat.log2_lt none, ← Nat.le_log2 none]
    omega

theorem lt_two_pow (m : Magnitude) : m.significand < 2 ^ 53 := m.significand_lt

theorem normalized (m : Magnitude) : m.scale = 0 ∨ 2 ^ 52 ≤ m.significand := m.normal

theorem ofParts?_eq_some_iff (significand scale : Nat) (m : Magnitude) :
    ofParts? significand scale = some m ↔ m.significand = significand ∧ m.scale = scale := by
  unfold ofParts?
  split
  next valid =>
    rw [Option.some.injEq]
    constructor
    · rintro rfl
      exact ⟨rfl, rfl⟩
    · rintro ⟨rfl, rfl⟩
      rfl
  next invalid =>
    constructor
    · intro impossible
      cases impossible
    · rintro ⟨rfl, rfl⟩
      exact absurd ⟨m.significand_lt, m.scale_le, m.normal⟩ invalid

end Magnitude

theorem intervalUnit_eq : intervalUnit = 4 * 2 ^ 1074 := by
  unfold intervalUnit
  -- The power itself is too large to be computed.
  generalize 1074 = exponent
  rfl

theorem intervalUnit_pos : 0 < intervalUnit := by
  rw [intervalUnit_eq]
  positivity

namespace RoundingInterval

/-- A number that lies between the middles to the neighbours of a magnitude. -/
def Contains (interval : RoundingInterval) (x : ℚ) : Prop :=
  if interval.closed then interval.low ≤ x * intervalUnit ∧ x * intervalUnit ≤ interval.high
  else interval.low < x * intervalUnit ∧ x * intervalUnit < interval.high

theorem contains_div_iff (interval : RoundingInterval) (num : Nat) {den : Nat}
    (positive : 0 < den) : interval.Contains (num / den) ↔
      if interval.closed then
        interval.low * den ≤ num * intervalUnit ∧ num * intervalUnit ≤ interval.high * den
      else interval.low * den < num * intervalUnit ∧ num * intervalUnit < interval.high * den := by
  have positiveRat : (0 : ℚ) < den := by exact_mod_cast positive
  unfold Contains
  rw [div_mul_eq_mul_div, le_div_iff₀ positiveRat, div_le_iff₀ positiveRat,
    lt_div_iff₀ positiveRat, div_lt_iff₀ positiveRat]
  norm_cast

end RoundingInterval

namespace Magnitude

/-- The least magnitude of its scale: the neighbour below is only half as far as the one above. -/
def IsLeast (m : Magnitude) : Prop := m.significand = 2 ^ 52 ∧ m.scale ≠ 0

theorem contains_iff_roundsTo {m : Magnitude} (ordinary : ¬ m.IsLeast) (num : Nat) {den : Nat}
    (positive : 0 < den) : m.interval.Contains (num / den) ↔
      RoundsTo (num * 2 ^ 1074) (den * 2 ^ m.scale) m.significand := by
  have interval : m.interval = ⟨4 * m.significand * 2 ^ m.scale - 2 * 2 ^ m.scale,
      4 * m.significand * 2 ^ m.scale, 4 * m.significand * 2 ^ m.scale + 2 * 2 ^ m.scale,
      m.significand % 2 == 0⟩ := by
    simp only [Magnitude.interval, Nat.pow_eq]
    rw [if_neg (show ¬ (m.significand = 2 ^ 52 ∧ m.scale ≠ 0) from ordinary)]
  have low : (4 * m.significand * 2 ^ m.scale - 2 * 2 ^ m.scale) * den =
      4 * (m.significand * (den * 2 ^ m.scale)) - 2 * (den * 2 ^ m.scale) := by
    rw [Nat.sub_mul]
    ring_nf
  have high : (4 * m.significand * 2 ^ m.scale + 2 * 2 ^ m.scale) * den =
      4 * (m.significand * (den * 2 ^ m.scale)) + 2 * (den * 2 ^ m.scale) := by
    ring
  have unit : num * intervalUnit = 4 * (num * 2 ^ 1074) := by
    rw [intervalUnit_eq, Nat.mul_left_comm]
  rw [RoundingInterval.contains_div_iff m.interval num positive, interval]
  dsimp only
  rw [low, high, unit]
  -- What is left is linear in the number and in one step, both over the denominator.
  have spread : 0 < den * 2 ^ m.scale := by positivity
  generalize num * 2 ^ 1074 = scaled
  generalize den * 2 ^ m.scale = step at *
  split
  next closed =>
    rw [beq_iff_eq] at closed
    constructor
    · rintro ⟨low, high⟩
      constructor <;> omega
    · rintro ⟨low, high, _⟩
      omega
  next opened =>
    rw [beq_iff_eq] at opened
    -- An odd significand is not zero, so nothing is cut off from the lower bound.
    have far : step ≤ m.significand * step := Nat.le_mul_of_pos_left step (by omega)
    constructor
    · rintro ⟨low, high⟩
      constructor <;> omega
    · rintro ⟨low, high, even⟩
      omega

/-- Below the least magnitude of a scale only half as much is rounded up to it. -/
theorem contains_iff_of_isLeast {m : Magnitude} (least : m.IsLeast) (num : Nat) {den : Nat}
    (positive : 0 < den) : m.interval.Contains (num / den) ↔
      2 ^ 54 * (den * 2 ^ m.scale) ≤ 4 * (num * 2 ^ 1074) + den * 2 ^ m.scale ∧
        4 * (num * 2 ^ 1074) ≤ (2 ^ 54 + 2) * (den * 2 ^ m.scale) := by
  have interval : m.interval = ⟨2 ^ 54 * 2 ^ m.scale - 2 ^ m.scale, 2 ^ 54 * 2 ^ m.scale,
      2 ^ 54 * 2 ^ m.scale + 2 * 2 ^ m.scale, true⟩ := by
    simp only [Magnitude.interval, Nat.pow_eq]
    rw [if_pos (show m.significand = 2 ^ 52 ∧ m.scale ≠ 0 from least), least.1]
    rfl
  have low : (2 ^ 54 * 2 ^ m.scale - 2 ^ m.scale) * den =
      2 ^ 54 * (den * 2 ^ m.scale) - den * 2 ^ m.scale := by
    rw [Nat.sub_mul]
    ring_nf
  have high : (2 ^ 54 * 2 ^ m.scale + 2 * 2 ^ m.scale) * den =
      (2 ^ 54 + 2) * (den * 2 ^ m.scale) := by
    ring
  have unit : num * intervalUnit = 4 * (num * 2 ^ 1074) := by
    rw [intervalUnit_eq, Nat.mul_left_comm]
  rw [RoundingInterval.contains_div_iff m.interval num positive, interval]
  dsimp only
  rw [low, high, unit, if_pos rfl, Nat.sub_le_iff_le_add]

/-- A significand that is rounded up to 54 digits is carried to the next scale. -/
theorem round?_eq_some_iff_parts {num den scale nearest : Nat} (positive : 0 < den)
    (fits : FitsScale (num * 2 ^ 1074) den scale)
    (rounds : RoundsTo (num * 2 ^ 1074) (den * 2 ^ scale) nearest) (m : Magnitude) :
    round? num den = some m ↔
      if nearest = 2 ^ 53 then m.significand = 2 ^ 52 ∧ m.scale = scale + 1
      else m.significand = nearest ∧ m.scale = scale := by
  have scaled_by := (scale_eq_iff _ positive scale).mpr fits
  have rounded := (roundDiv_eq_iff _ (by positivity) nearest).mpr rounds
  simp only [round?, Nat.pow_eq, scaled_by, rounded, -Nat.reducePow]
  split <;> rw [ofParts?_eq_some_iff]

theorem contains_of_round? {num den : Nat} (positive : 0 < den) {m : Magnitude}
    (rounded : round? num den = some m) : m.interval.Contains (num / den) := by
  obtain ⟨scale, scaled_by⟩ : ∃ scale, (num * 2 ^ 1074 / den).log2 + 1 - 53 = scale := ⟨_, rfl⟩
  have fits := (scale_eq_iff _ positive scale).mp scaled_by
  have rounds := roundsTo_roundDiv (num * 2 ^ 1074) (show 0 < den * 2 ^ scale by positivity)
  rw [round?_eq_some_iff_parts positive fits rounds] at rounded
  generalize roundDiv (num * 2 ^ 1074) (den * 2 ^ scale) = nearest at *
  split at rounded
  next carried =>
    -- Carried over, the significand is the least of the next scale, whose step is twice as large.
    obtain ⟨leading, next_scale⟩ := rounded
    have least : m.IsLeast := ⟨leading, by omega⟩
    have double : den * 2 ^ (scale + 1) = 2 * (den * 2 ^ scale) := by ring
    rw [contains_iff_of_isLeast least num positive, next_scale, double]
    obtain ⟨low, high, _⟩ := rounds
    obtain ⟨below, _⟩ := fits
    rw [carried] at low high
    generalize num * 2 ^ 1074 = scaled at *
    omega
  next =>
    obtain ⟨rfl, rfl⟩ := rounded
    by_cases least : m.IsLeast
    next =>
      rw [contains_iff_of_isLeast least num positive]
      -- The number is not below the least significand, or its scale would be smaller.
      have above := fits.above.resolve_left least.2
      obtain ⟨_, high, _⟩ := rounds
      rw [least.1] at high
      generalize num * 2 ^ 1074 = scaled at *
      omega
    next => exact (contains_iff_roundsTo least num positive).mpr rounds

theorem round?_of_contains {num den : Nat} (positive : 0 < den) {m : Magnitude}
    (inside : m.interval.Contains (num / den)) : round? num den = some m := by
  have step_pos : 0 < den * 2 ^ m.scale := by positivity
  by_cases least : m.IsLeast
  next =>
    obtain ⟨low, high⟩ := (contains_iff_of_isLeast least num positive).mp inside
    obtain ⟨leading, scaled_up⟩ := least
    by_cases reached : 2 ^ 52 * (den * 2 ^ m.scale) ≤ num * 2 ^ 1074
    next =>
      have fits : FitsScale (num * 2 ^ 1074) den m.scale := by
        refine ⟨?_, .inr reached⟩
        generalize num * 2 ^ 1074 = scaled at *
        omega
      have down : RoundsTo (num * 2 ^ 1074) (den * 2 ^ m.scale) (2 ^ 52) := by
        generalize num * 2 ^ 1074 = scaled at *
        constructor <;> omega
      rw [round?_eq_some_iff_parts positive fits down, if_neg (by decide)]
      exact ⟨leading, rfl⟩
    next =>
      -- What falls just short of it is rounded up at the scale below.
      obtain ⟨smaller, next_scale⟩ := Nat.exists_eq_add_one_of_ne_zero scaled_up
      have double : den * 2 ^ m.scale = 2 * (den * 2 ^ smaller) := by
        rw [next_scale]
        ring
      have fits : FitsScale (num * 2 ^ 1074) den smaller := by
        generalize num * 2 ^ 1074 = scaled at *
        constructor <;> omega
      have up : RoundsTo (num * 2 ^ 1074) (den * 2 ^ smaller) (2 ^ 53) := by
        generalize num * 2 ^ 1074 = scaled at *
        constructor <;> omega
      rw [round?_eq_some_iff_parts positive fits up, if_pos rfl]
      exact ⟨leading, next_scale⟩
  next =>
    have rounds := (contains_iff_roundsTo least num positive).mp inside
    have fits : FitsScale (num * 2 ^ 1074) den m.scale := by
      obtain ⟨low, high, _⟩ := rounds
      have most : m.significand * (den * 2 ^ m.scale) ≤ (2 ^ 53 - 1) * (den * 2 ^ m.scale) :=
        Nat.mul_le_mul_right _ (Nat.le_pred_of_lt m.lt_two_pow)
      have above_least (scaled_up : m.scale ≠ 0) :
          (2 ^ 52 + 1) * (den * 2 ^ m.scale) ≤ m.significand * (den * 2 ^ m.scale) := by
        have normal := m.normalized.resolve_left scaled_up
        have other : m.significand ≠ 2 ^ 52 := fun leading => least ⟨leading, scaled_up⟩
        exact Nat.mul_le_mul_right _ (by omega)
      generalize num * 2 ^ 1074 = scaled at *
      constructor <;> omega
    have small : m.significand ≠ 2 ^ 53 := Nat.ne_of_lt m.lt_two_pow
    rw [round?_eq_some_iff_parts positive fits rounds, if_neg small]
    exact ⟨rfl, rfl⟩

/-- A number is rounded to the magnitude that has it in its interval. -/
theorem round?_eq_some_iff (num : Nat) {den : Nat} (positive : 0 < den) (m : Magnitude) :
    round? num den = some m ↔ m.interval.Contains (num / den) :=
  ⟨contains_of_round? positive, round?_of_contains positive⟩

/-- The middle between the largest magnitude and the power of two that would come next. -/
def limit : Nat := (2 ^ 54 - 1) * 2 ^ 970

theorem double_scaled_lt_iff (num den : Nat) :
    2 * (num * 2 ^ 1074) < (2 ^ 54 - 1) * (den * 2 ^ 2045) ↔ num < limit * den := by
  have split : (2 ^ 54 - 1) * (den * 2 ^ 2045) = limit * den * (2 * 2 ^ 1074) := by
    have exponent : (2 : Nat) ^ 2045 = 2 ^ 970 * (2 * 2 ^ 1074) := by
      rw [← pow_succ', ← pow_add]
    rw [exponent, limit]
    generalize (2 : Nat) ^ 970 = high
    generalize (2 : Nat) ^ 1074 = unit
    ring
  rw [split, Nat.mul_left_comm]
  exact Nat.mul_lt_mul_right (by positivity)

theorem lt_limit_of_round? {num den : Nat} (positive : 0 < den) {m : Magnitude}
    (rounded : round? num den = some m) : num < limit * den := by
  have step_pos : 0 < den * 2 ^ m.scale := by positivity
  have step_le : den * 2 ^ m.scale ≤ den * 2 ^ 2045 :=
    Nat.mul_le_mul_left den (pow_le_pow_right₀ (by decide) m.scale_le)
  have inside := contains_of_round? positive rounded
  rw [← double_scaled_lt_iff]
  by_cases least : m.IsLeast
  next =>
    obtain ⟨_, high⟩ := (contains_iff_of_isLeast least num positive).mp inside
    generalize num * 2 ^ 1074 = scaled at *
    generalize den * 2 ^ 2045 = largest at *
    omega
  next =>
    obtain ⟨_, high, even⟩ := (contains_iff_roundsTo least num positive).mp inside
    generalize num * 2 ^ 1074 = scaled at *
    generalize den * 2 ^ 2045 = largest at *
    by_cases last : m.significand = 2 ^ 53 - 1
    next =>
      -- The last significand is odd, so the middle above it is rounded away from it.
      rw [last] at high even
      omega
    next =>
      have smaller : m.significand * (den * 2 ^ m.scale) ≤ (2 ^ 53 - 2) * (den * 2 ^ m.scale) :=
        Nat.mul_le_mul_right _ (by have := m.lt_two_pow; omega)
      omega

theorem exists_round? {num den : Nat} (positive : 0 < den) (small : num < limit * den) :
    ∃ m, round? num den = some m := by
  rw [← double_scaled_lt_iff] at small
  obtain ⟨scale, scaled_by⟩ : ∃ scale, (num * 2 ^ 1074 / den).log2 + 1 - 53 = scale := ⟨_, rfl⟩
  have fits := (scale_eq_iff _ positive scale).mp scaled_by
  have rounds := roundsTo_roundDiv (num * 2 ^ 1074) (show 0 < den * 2 ^ scale by positivity)
  generalize roundDiv (num * 2 ^ 1074) (den * 2 ^ scale) = nearest at *
  have parts := round?_eq_some_iff_parts positive fits rounds
  obtain ⟨low, high, _⟩ := rounds
  obtain ⟨below, above⟩ := fits
  have step_pos : 0 < den * 2 ^ scale := by positivity
  have scale_le : scale ≤ 2045 := by
    -- From the next scale on even the least significand is beyond the limit.
    by_contra larger
    have steps : den * 2 ^ 2046 ≤ den * 2 ^ scale :=
      Nat.mul_le_mul_left _ (pow_le_pow_right₀ (by decide) (by omega))
    have double : den * 2 ^ 2046 = 2 * (den * 2 ^ 2045) := by
      rw [pow_succ, Nat.mul_comm _ 2, Nat.mul_left_comm]
    generalize num * 2 ^ 1074 = scaled at *
    generalize den * 2 ^ 2045 = largest at *
    omega
  by_cases carried : nearest = 2 ^ 53
  next =>
    have room : scale + 1 ≤ 2045 := by
      -- At the last scale nothing below the limit is carried.
      by_contra full
      obtain rfl : scale = 2045 := by omega
      rw [carried] at low
      generalize num * 2 ^ 1074 = scaled at *
      generalize den * 2 ^ 2045 = largest at *
      omega
    refine ⟨⟨2 ^ 52, scale + 1, by decide, room, .inr (by decide)⟩, ?_⟩
    rw [parts, if_pos carried]
    exact ⟨rfl, rfl⟩
  next =>
    have less : nearest < 2 ^ 53 := by
      have bounded : nearest * (den * 2 ^ scale) < (2 ^ 53 + 1) * (den * 2 ^ scale) := by
        generalize num * 2 ^ 1074 = scaled at *
        omega
      have := Nat.lt_of_mul_lt_mul_right bounded
      omega
    have normal : scale = 0 ∨ 2 ^ 52 ≤ nearest := by
      refine above.imp_right fun above => ?_
      have bounded : (2 ^ 52 - 1) * (den * 2 ^ scale) < nearest * (den * 2 ^ scale) := by
        generalize num * 2 ^ 1074 = scaled at *
        omega
      have := Nat.lt_of_mul_lt_mul_right bounded
      omega
    refine ⟨⟨nearest, scale, less, scale_le, normal⟩, ?_⟩
    rw [parts, if_neg carried]
    exact ⟨rfl, rfl⟩

end Magnitude

end RecordSchema.Number
