import RecordSchema.Proofs.Number.Layout
import RecordSchema.Proofs.Number.Ties

set_option autoImplicit false

/-!
Where data and canonical text differ: at ties, and by the exponent of the first of the shortest
digits, and so by the value itself, since rounding is monotone.
-/

namespace RecordSchema.Number

theorem exponentForm_of_neg (digits : List Char) {leading : Int} (negative : leading < 0) :
    exponentForm true digits leading = exponentForm false digits leading := by
  simp [exponentForm, negative]

theorem exponentForm_plus_ne (digits : List Char) {leading : Int} (positive : 0 ≤ leading) :
    exponentForm true digits leading ≠ exponentForm false digits leading := by
  intro same
  have lengths := congrArg List.length same
  simp [exponentForm, Int.not_lt.mpr positive] at lengths

theorem e_not_mem_pointForm {digits : List Char} (all : ∀ c ∈ digits, c.isDigit = true)
    (leading : Int) : 'e' ∉ pointForm digits leading := by
  have letter : 'e' ∉ digits := fun member => by cases all 'e' member
  unfold pointForm
  dsimp only
  split
  next => simp [letter]
  next =>
    split
    next => simp [letter]
    next =>
      have front : 'e' ∉ digits.take (leading.toNat + 1) :=
        fun member => letter (List.mem_of_mem_take member)
      have back : 'e' ∉ digits.drop (leading.toNat + 1) :=
        fun member => letter (List.mem_of_mem_drop member)
      simp [front, back]

theorem eq_of_pointForm_eq {digits other : List Char} {leading : Int}
    (lengths : digits.length = other.length)
    (same : pointForm digits leading = pointForm other leading) : digits = other := by
  unfold pointForm at same
  dsimp only at same
  rw [lengths] at same
  split at same
  next => simpa using same
  next =>
    split at same
    next => simpa using same
    next =>
      have cut : (digits.take (leading.toNat + 1)).length =
          (other.take (leading.toNat + 1)).length := by
        rw [List.length_take, List.length_take, lengths]
      obtain ⟨front, back⟩ := List.append_inj same cut
      rw [← List.take_append_drop (leading.toNat + 1) digits, front, (List.cons.inj back).2,
        List.take_append_drop]

theorem eq_of_exponentForm_eq {plusSign otherSign : Bool} {digits other : List Char}
    {leading : Int} (lengths : digits.length = other.length)
    (same : exponentForm plusSign digits leading = exponentForm otherSign other leading) :
    digits = other := by
  simp only [exponentForm, List.append_assoc] at same
  -- The mantissas have one length, whatever follows them.
  cases digits with
  | nil => exact (List.eq_nil_of_length_eq_zero lengths.symm).symm
  | cons d rest =>
    cases other with
    | nil => cases lengths
    | cons e more =>
      have lengths : rest.length = more.length := Nat.succ.inj lengths
      cases rest with
      | nil =>
        obtain rfl := List.eq_nil_of_length_eq_zero lengths.symm
        simpa using (List.append_inj same rfl).1
      | cons next rest =>
        cases more with
        | nil => cases lengths
        | cons other more =>
          have front := (List.append_inj same (by simpa using lengths)).1
          simpa using front

namespace Magnitude

/-- The exponent of the first of the shortest digits. -/
def leading (m : Magnitude) : Int :=
  (m.shortest .up).exponent + (natDigits (m.shortest .up).digits).length - 1

variable {m : Magnitude}

/-- The rule for ties changes neither the exponent of the shortest digits nor their number. -/
theorem shortest_alike (m : Magnitude) (rule : TieRule) :
    (m.shortest rule).exponent = (m.shortest .up).exponent ∧
      (natDigits (m.shortest rule).digits).length =
        (natDigits (m.shortest .up).digits).length := by
  cases rule with
  | up => exact ⟨rfl, rfl⟩
  | toEven =>
    by_cases ties : m.Ties
    · obtain ⟨digits, exponent, tie⟩ := ties
      obtain ⟨even, up⟩ := shortest_of_ties tie
      rw [even, up]
      exact ⟨rfl, (length_natDigits_succ tie.even).symm⟩
    · rw [shortest_eq_of_not_ties ties]
      exact ⟨rfl, rfl⟩

theorem natDigits_ne_of_ties (ties : m.Ties) :
    natDigits (m.shortest .toEven).digits ≠ natDigits (m.shortest .up).digits := by
  obtain ⟨digits, exponent, tie⟩ := ties
  obtain ⟨even, up⟩ := shortest_of_ties tie
  rw [even, up]
  intro same
  have values := congrArg digitsValue same
  rw [digitsValue_natDigits, digitsValue_natDigits] at values
  exact Nat.succ_ne_self digits values.symm

end Magnitude

namespace Layout

theorem render_eq (layout : Layout) (m : Magnitude) : layout.render m =
    if m.isZero ∨ (layout.lowest ≤ m.leading ∧ m.leading ≤ layout.highest) then
      pointForm (natDigits (m.shortest layout.ties).digits) (if m.isZero then 0 else m.leading)
    else exponentForm layout.plusSign (natDigits (m.shortest layout.ties).digits) m.leading := by
  obtain ⟨exponent, length⟩ := m.shortest_alike layout.ties
  rw [render, Magnitude.leading, ← exponent, ← length]

/-- The text of a magnitude shows the digits that were chosen. -/
theorem natDigits_eq_of_render_eq {layout other : Layout} {m : Magnitude}
    (same : layout.render m = other.render m) :
    natDigits (m.shortest layout.ties).digits = natDigits (m.shortest other.ties).digits := by
  have lengths := (m.shortest_alike layout.ties).2.trans (m.shortest_alike other.ties).2.symm
  have pointed (rule : TieRule) (leading : Int) :=
    e_not_mem_pointForm (fun _ => isDigit_of_mem_natDigits (n := (m.shortest rule).digits)) leading
  rw [render_eq, render_eq] at same
  generalize (if m.isZero then 0 else m.leading) = place at same
  split at same
  next =>
    split at same
    next => exact eq_of_pointForm_eq lengths same
    next => exact absurd (same ▸ e_mem_exponentForm ..) (pointed layout.ties _)
  next =>
    split at same
    next => exact absurd (same ▸ e_mem_exponentForm ..) (pointed other.ties _)
    next => exact eq_of_exponentForm_eq lengths same

/-- Data has a point for one more exponent, a plus sign before exponents above zero, and a digit of
its own at ties. -/
theorem render_data_eq_iff (m : Magnitude) :
    data.render m = canonical.render m ↔
      (m.isZero = true ∨ (-4 ≤ m.leading ∧ m.leading ≤ 15) ∨ m.leading < -5) ∧ ¬ m.Ties := by
  by_cases ties : m.Ties
  · refine iff_of_false (fun same => ?_) (fun kept => kept.2 ties)
    have digits := natDigits_eq_of_render_eq same
    exact Magnitude.natDigits_ne_of_ties ties digits
  rw [and_iff_left ties]
  have shortest := Magnitude.shortest_eq_of_not_ties ties
  have all : ∀ c ∈ natDigits (m.shortest .up).digits, c.isDigit = true :=
    fun _ => isDigit_of_mem_natDigits
  by_cases zero : m.isZero = true
  · simp [render_eq, zero, data, canonical, shortest]
  simp only [render_eq, zero, data, canonical, shortest, Bool.false_eq_true, false_or, if_false]
  generalize natDigits (m.shortest .up).digits = digits at *
  rcases Int.lt_or_le m.leading (-4) with below | notBelow
  next =>
    rw [if_neg (show ¬ (-4 ≤ m.leading ∧ m.leading ≤ 15) by omega)]
    by_cases last : m.leading = -5
    next =>
      -- The one exponent at which only data has a point.
      rw [if_pos (by omega)]
      refine iff_of_false (fun same => ?_) (by omega)
      have letter := e_mem_exponentForm false digits m.leading
      rw [← same] at letter
      exact e_not_mem_pointForm all _ letter
    next =>
      rw [if_neg (by omega)]
      exact iff_of_true (exponentForm_of_neg _ (by omega)) (by omega)
  next =>
    rcases Int.lt_or_le 15 m.leading with above | within
    next =>
      rw [if_neg (by omega), if_neg (by omega)]
      exact iff_of_false (exponentForm_plus_ne _ (by omega)) (by omega)
    next =>
      rw [if_pos (by omega), if_pos (by omega)]
      exact iff_of_true rfl (by omega)

end Layout

namespace Magnitude

variable {m other : Magnitude}

theorem high_le_low (less : m.steps < other.steps) : m.interval.high ≤ other.interval.low := by
  have above := steps_add_le less
  have below := steps_sub_le less
  simp only [interval_eq]
  omega

theorem le_of_steps_lt {x y : ℚ} (less : m.steps < other.steps) (inside : m.interval.Contains x)
    (insideOther : other.interval.Contains y) : x ≤ y := by
  have apart : (m.interval.high : ℚ) ≤ other.interval.low := by exact_mod_cast high_le_low less
  refine le_of_mul_le_mul_right ?_ (Nat.cast_pos.mpr intervalUnit_pos)
  exact (inside.bounds.2.trans apart).trans insideOther.bounds.1

theorem value_lt_of_steps_lt {d e : Decimal} (less : m.steps < other.steps)
    (inside : m.interval.Contains d.value) (insideOther : other.interval.Contains e.value) :
    d.value < e.value := by
  refine lt_of_le_of_ne (le_of_steps_lt less inside insideOther) fun same => ?_
  -- The middle between two neighbours is rounded to one of them only.
  rw [← same] at insideOther
  have rounded := (d.ofDecimal?_eq_some_iff m).mpr inside
  have roundedOther := (d.ofDecimal?_eq_some_iff other).mpr insideOther
  obtain rfl := Option.some.inj (rounded.symm.trans roundedOther)
  exact lt_irrefl _ less

theorem value_lt_of_contains {x : ℚ} (less : m.steps < other.steps)
    (inside : other.interval.Contains x) : m.value < x := by
  have below : 4 * m.steps < other.interval.low := by
    have apart := high_le_low less
    have positive : 0 < 2 ^ m.scale := by positivity
    rw [interval_eq] at apart
    dsimp only at apart
    omega
  refine lt_of_mul_lt_mul_right ?_ (Nat.cast_nonneg intervalUnit)
  rw [value_mul_intervalUnit]
  exact lt_of_lt_of_le (by exact_mod_cast below) inside.bounds.1

theorem value_le_value_iff : m.value ≤ other.value ↔ m.steps ≤ other.steps := by
  rw [value, value, div_le_div_iff_of_pos_right (by positivity), Nat.cast_le]

theorem digits_shortest_pos (positive : m.significand ≠ 0) : 0 < (m.shortest .up).digits := by
  refine Nat.pos_of_ne_zero fun none => positive ?_
  have own := m.ofDecimal?_shortest .up
  rw [none] at own
  rw [← Option.some.inj own]
  rfl

theorem leading_add_one (m : Magnitude) :
    m.leading + 1 = (natDigits (m.shortest .up).digits).length + (m.shortest .up).exponent := by
  rw [leading]
  omega

theorem le_leading_iff (positive : m.significand ≠ 0) (k : Int) :
    k ≤ m.leading ↔ (10 : ℚ) ^ k ≤ (m.shortest .up).value := by
  have ten : (10 : ℚ) ≠ 0 := by norm_num
  have scale_pos : (0 : ℚ) < 10 ^ (m.shortest .up).exponent := zpow_pos (by norm_num) _
  have digits := pow_le_of_pos (digits_shortest_pos positive)
  have filled := length_natDigits_pos (m.shortest .up).digits
  have leading : m.leading =
      ((natDigits (m.shortest .up).digits).length - 1 : Nat) + (m.shortest .up).exponent := by
    have := m.leading_add_one
    omega
  have low : (10 : ℚ) ^ m.leading ≤ (m.shortest .up).value := by
    rw [leading, zpow_add₀ ten, zpow_natCast, Decimal.value, mul_le_mul_iff_left₀ scale_pos]
    exact_mod_cast digits
  have bounded := lt_pow_length (m.shortest .up).digits
  have high : (m.shortest .up).value < (10 : ℚ) ^ (m.leading + 1) := by
    rw [leading_add_one, zpow_add₀ ten, zpow_natCast, Decimal.value, mul_lt_mul_iff_left₀ scale_pos]
    exact_mod_cast bounded
  constructor
  · intro reached
    exact (zpow_le_zpow_right₀ (by norm_num) reached).trans low
  · intro reached
    by_contra larger
    have next : (10 : ℚ) ^ (m.leading + 1) ≤ 10 ^ k := zpow_le_zpow_right₀ (by norm_num) (by omega)
    linarith

theorem shortest_le_value_iff (m : Magnitude) : (m.shortest .up).value ≤ m.value ↔
    (m.shortest .up).num * 2 ^ 1074 ≤ m.steps * (m.shortest .up).den := by
  have den_pos : (0 : ℚ) < (m.shortest .up).den := by exact_mod_cast (m.shortest .up).den_pos
  rw [Decimal.value_eq_div, value, div_le_div_iff₀ den_pos (by positivity)]
  norm_cast

/-- The magnitude is written as a power of ten and not below it. -/
structure Marks (m : Magnitude) (k : Int) : Prop where
  written : (m.shortest .up) = ⟨1, k⟩
  reaches : (m.shortest .up).value ≤ m.value

theorem Marks.pow_le_shortest_iff {b : Magnitude} {k : Int} (marks : b.Marks k) (m : Magnitude) :
    (10 : ℚ) ^ k ≤ (m.shortest .up).value ↔ (10 : ℚ) ^ k ≤ m.value := by
  have power : (b.shortest .up).value = 10 ^ k := by simp [marks.written, Decimal.value]
  have reaches := marks.reaches
  rw [power] at reaches
  -- Both sides of the power are told apart by the magnitude that is written as it.
  rcases Nat.lt_trichotomy m.steps b.steps with less | same | greater
  · have below := value_lt_of_steps_lt less (m.shortest_contains .up) (b.shortest_contains .up)
    have short := value_lt_of_contains less (b.shortest_contains .up)
    rw [power] at below short
    exact iff_of_false (not_le.mpr below) (not_le.mpr short)
  · obtain rfl := eq_of_steps_eq same
    exact iff_of_true power.ge reaches
  · have above := value_lt_of_steps_lt greater (b.shortest_contains .up) (m.shortest_contains .up)
    rw [power] at above
    exact iff_of_true above.le (reaches.trans (value_le_value_iff.mpr greater.le))

theorem exists_marks {k : Int} (listed : k ∈ [-5, -4, 16]) : ∃ b : Magnitude, b.Marks k := by
  have marks (b : Magnitude) (written : (b.shortest .up) = ⟨1, k⟩)
      (reaches : (b.shortest .up).num * 2 ^ 1074 ≤ b.steps * (b.shortest .up).den) : ∃ b : Magnitude, b.Marks k :=
    ⟨b, written, b.shortest_le_value_iff.mpr reaches⟩
  simp only [List.mem_cons, List.not_mem_nil, or_false] at listed
  -- The nearest doubles; of the negative powers they are a little above.
  rcases listed with rfl | rfl | rfl
  · exact marks ⟨5902958103587057, 1005, by decide, by decide, by decide⟩ (by decide +kernel)
      (by decide +kernel)
  · exact marks ⟨7378697629483821, 1008, by decide, by decide, by decide⟩ (by decide +kernel)
      (by decide +kernel)
  · exact marks ⟨5000000000000000, 1075, by decide, by decide, by decide⟩ (by decide +kernel)
      (by decide +kernel)

theorem le_leading_iff_value (positive : m.significand ≠ 0) {k : Int} (listed : k ∈ [-5, -4, 16]) :
    k ≤ m.leading ↔ (10 : ℚ) ^ k ≤ m.value := by
  obtain ⟨b, marks⟩ := exists_marks listed
  rw [le_leading_iff positive, marks.pow_le_shortest_iff]

theorem leading_lt_iff_value (positive : m.significand ≠ 0) {k : Int}
    (listed : k ∈ [-5, -4, 16]) : m.leading < k ↔ m.value < (10 : ℚ) ^ k := by
  rw [← not_le, ← not_le, le_leading_iff_value positive listed]

end Magnitude

/-- Data has a point for a hundred-thousandth, a plus sign from ten to the sixteenth on, and a digit
of its own at ties. -/
theorem Layout.render_data_eq_iff_value (m : Magnitude) :
    data.render m = canonical.render m ↔
      (m.value < 10 ^ (-5 : Int) ∨ (10 ^ (-4 : Int) ≤ m.value ∧ m.value < 10 ^ (16 : Int))) ∧
        ¬ m.Ties := by
  rw [render_data_eq_iff, and_congr_left_iff]
  intro _
  by_cases none : m.significand = 0
  next =>
    have small : m.value < 10 ^ (-5 : Int) := by
      rw [Magnitude.value_eq_zero none]
      exact zpow_pos (by norm_num) _
    exact iff_of_true (.inl (Magnitude.isZero_iff.mpr none)) (.inl small)
  next =>
    have filled : ¬ m.isZero = true := mt Magnitude.isZero_iff.mp none
    have small := Magnitude.leading_lt_iff_value none (show (-5 : Int) ∈ [-5, -4, 16] by simp)
    have middle := Magnitude.le_leading_iff_value none (show (-4 : Int) ∈ [-5, -4, 16] by simp)
    have large := Magnitude.leading_lt_iff_value none (show (16 : Int) ∈ [-5, -4, 16] by simp)
    rw [or_iff_right filled, ← small, ← middle, ← large]
    omega

end RecordSchema.Number
