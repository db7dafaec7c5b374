import RecordSchema.Proofs.Number.Layout
import RecordSchema.Proofs.Number.Shortest

set_option autoImplicit false

/-!
Written doubles: in any layout they are read back as they were.
-/

namespace RecordSchema.Number

theorem ofDecimal?_congr {d other : Decimal} (same : d.value = other.value) :
    Magnitude.ofDecimal? d.digits d.exponent =
      Magnitude.ofDecimal? other.digits other.exponent := by
  ext m
  rw [d.ofDecimal?_eq_some_iff, other.ofDecimal?_eq_some_iff, same]

section Parts

variable {whole fraction : List Char}

theorem readMagnitude?_digits (filled : whole ≠ []) (wholeDigits : ∀ c ∈ whole, c.isDigit = true) :
    readMagnitude? whole = some (Magnitude.ofNat? (digitsValue whole)) := by
  have taken := List.takeWhile_eq_self_iff.mpr wholeDigits
  have dropped := List.dropWhile_eq_nil_iff.mpr wholeDigits
  have nearest := (⟨digitsValue whole, 0⟩ : Decimal).ofDecimal?_eq_round?
  simp only [Decimal.num, Decimal.den, Int.neg_zero, Int.toNat_zero, pow_zero, Nat.mul_one]
    at nearest
  simp [readMagnitude?, taken, dropped, filled, nearest, Magnitude.ofNat?]

theorem readMagnitude?_point (filled : whole ≠ []) (wholeDigits : ∀ c ∈ whole, c.isDigit = true)
    (fractionDigits : ∀ c ∈ fraction, c.isDigit = true) :
    readMagnitude? (whole ++ '.' :: fraction) =
      some (Magnitude.ofDecimal? (digitsValue (whole ++ fraction)) (-fraction.length)) := by
  have point : NoDigitFirst ('.' :: fraction) := noDigitFirst_cons.mpr rfl
  have taken := List.takeWhile_eq_self_iff.mpr fractionDigits
  have dropped := List.dropWhile_eq_nil_iff.mpr fractionDigits
  simp [readMagnitude?, takeWhile_isDigit_append wholeDigits point,
    dropWhile_isDigit_append wholeDigits point, taken, dropped, filled]

theorem readMagnitude?_exponent (filled : whole ≠ []) (wholeDigits : ∀ c ∈ whole, c.isDigit = true)
    {written : List Char} {exponent : Int} (read : readExponent? written = some exponent) :
    readMagnitude? (whole ++ 'e' :: written) =
      some (Magnitude.ofDecimal? (digitsValue whole) exponent) := by
  have mark : NoDigitFirst ('e' :: written) := noDigitFirst_cons.mpr rfl
  simp [readMagnitude?, takeWhile_isDigit_append wholeDigits mark,
    dropWhile_isDigit_append wholeDigits mark, read, filled]

theorem readMagnitude?_point_exponent (filled : whole ≠ [])
    (wholeDigits : ∀ c ∈ whole, c.isDigit = true)
    (fractionDigits : ∀ c ∈ fraction, c.isDigit = true) {written : List Char} {exponent : Int}
    (read : readExponent? written = some exponent) :
    readMagnitude? (whole ++ '.' :: (fraction ++ 'e' :: written)) =
      some (Magnitude.ofDecimal? (digitsValue (whole ++ fraction))
        (exponent - fraction.length)) := by
  have point : NoDigitFirst ('.' :: (fraction ++ 'e' :: written)) := noDigitFirst_cons.mpr rfl
  have mark : NoDigitFirst ('e' :: written) := noDigitFirst_cons.mpr rfl
  simp [readMagnitude?, takeWhile_isDigit_append wholeDigits point,
    dropWhile_isDigit_append wholeDigits point, takeWhile_isDigit_append fractionDigits mark,
    dropWhile_isDigit_append fractionDigits mark, read, filled]

end Parts

theorem natDigits_ne_nil (n : Nat) : natDigits n ≠ [] :=
  List.ne_nil_of_length_pos (length_natDigits_pos n)

theorem readExponent?_written (plusSign : Bool) (exponent : Int) :
    readExponent? ((if exponent < 0 then ['-'] else if plusSign then ['+'] else []) ++
      natDigits exponent.natAbs) = some exponent := by
  have value := digitsValue_natDigits exponent.natAbs
  have all : (natDigits exponent.natAbs).all Char.isDigit = true :=
    List.all_eq_true.mpr fun _ => isDigit_of_mem_natDigits
  obtain ⟨d, rest, shape, digits⟩ := exists_natDigits_cons exponent.natAbs
  obtain ⟨notMinus, notPlus⟩ := ne_sign_of_isDigit (digits d (by simp))
  rw [shape] at value all ⊢
  by_cases negative : exponent < 0
  next =>
    have back : -(digitsValue (d :: rest) : Int) = exponent := by omega
    simp [readExponent?, negative, all, back]
  next =>
    have back : (digitsValue (d :: rest) : Int) = exponent := by omega
    cases plusSign with
    | true => simp [readExponent?, negative, all, back]
    | false => simp [readExponent?, negative, notMinus, notPlus, all, back]

theorem readMagnitude?_pointForm (n : Nat) (leading : Int) :
    readMagnitude? (pointForm (natDigits n) leading) =
      some (Magnitude.ofDecimal? n (leading + 1 - (natDigits n).length)) := by
  have value := digitsValue_natDigits n
  have digits (c : Char) (member : c ∈ natDigits n) : c.isDigit = true :=
    isDigit_of_mem_natDigits member
  have filled := natDigits_ne_nil n
  generalize natDigits n = cs at *
  have zeros (count : Nat) (c : Char) (member : c ∈ List.replicate count '0') :
      c.isDigit = true := by
    rw [List.eq_of_mem_replicate member]
    rfl
  unfold pointForm
  dsimp only
  split
  next small =>
    -- Zeros in front add no value.
    have read := readMagnitude?_point (List.cons_ne_nil '0' []) (zeros 1)
      (fun c member => (List.mem_append.mp member).elim (zeros ((-leading).toNat - 1) c) (digits c))
    have front : digitsValue (['0'] ++ (List.replicate ((-leading).toNat - 1) '0' ++ cs)) = n := by
      rw [digitsValue_append, digitsValue_append, digitsValue_zeros, value]
      simp [digitsValue, digitValue]
    have exponent : -((List.replicate ((-leading).toNat - 1) '0' ++ cs).length : Int) =
        leading + 1 - cs.length := by
      simp
      omega
    rwa [front, exponent] at read
  next large =>
    split
    next short =>
      -- Zeros behind are read as digits, which the exponent makes up for.
      have back (c : Char) (member : c ∈ cs ++ List.replicate (leading.toNat + 1 - cs.length) '0') :
          c.isDigit = true :=
        (List.mem_append.mp member).elim (digits c) (zeros _ c)
      have read := readMagnitude?_point (by simp [filled]) back (zeros 1)
      have exponent : leading + 1 - cs.length = ((leading.toNat + 1 - cs.length : Nat) : Int) := by
        omega
      rw [exponent]
      generalize leading.toNat + 1 - cs.length = places at *
      have front : digitsValue (cs ++ List.replicate places '0' ++ List.replicate 1 '0') =
          n * 10 ^ places * 10 := by
        rw [digitsValue_append, digitsValue_append, digitsValue_zeros, digitsValue_zeros, value]
        simp
      have same : (⟨n * 10 ^ places * 10, -1⟩ : Decimal).value = (⟨n, places⟩ : Decimal).value := by
        simp [Decimal.value]
      rw [front] at read
      rw [← ofDecimal?_congr same]
      simpa using read
    next long =>
      have front (c : Char) (member : c ∈ cs.take (leading.toNat + 1)) : c.isDigit = true :=
        digits c (List.mem_of_mem_take member)
      have back (c : Char) (member : c ∈ cs.drop (leading.toNat + 1)) : c.isDigit = true :=
        digits c (List.mem_of_mem_drop member)
      have read := readMagnitude?_point (by simp [filled]) front back
      have exponent : -((cs.drop (leading.toNat + 1)).length : Int) = leading + 1 - cs.length := by
        rw [List.length_drop]
        omega
      rwa [List.take_append_drop, value, exponent] at read

theorem readMagnitude?_exponentForm (plusSign : Bool) (n : Nat) (leading : Int) :
    readMagnitude? (exponentForm plusSign (natDigits n) leading) =
      some (Magnitude.ofDecimal? n (leading + 1 - (natDigits n).length)) := by
  have value := digitsValue_natDigits n
  obtain ⟨d, rest, shape, digits⟩ := exists_natDigits_cons n
  have exponent := readExponent?_written plusSign leading
  have first (c : Char) (member : c ∈ [d]) : c.isDigit = true := by
    simp_all
  rw [shape] at value ⊢
  cases rest with
  | nil =>
    have read := readMagnitude?_exponent (List.cons_ne_nil d []) first exponent
    rw [value] at read
    simpa [exponentForm] using read
  | cons next rest =>
    have read := readMagnitude?_point_exponent (List.cons_ne_nil d []) first
      (fun c member => digits c (List.mem_cons_of_mem d member)) exponent
    rw [show [d] ++ next :: rest = d :: next :: rest from rfl, value] at read
    have same : leading + 1 - ((d :: next :: rest).length : Int) = leading - (next :: rest).length := by
      simp
    rw [same]
    simpa [exponentForm] using read

namespace Layout

theorem readMagnitude?_render (layout : Layout) (m : Magnitude) :
    readMagnitude? (layout.render m) = some (some m) := by
  unfold render
  dsimp only
  split
  next =>
    by_cases none : m.isZero = true
    next =>
      have zero : m.shortest layout.ties = ⟨0, 0⟩ := if_pos none
      rw [if_pos none, zero, readMagnitude?_pointForm, Magnitude.eq_zero_of_isZero none]
      rfl
    next =>
      rw [if_neg none, readMagnitude?_pointForm, Int.sub_add_cancel, Int.add_sub_cancel,
        m.ofDecimal?_shortest layout.ties]
  next =>
    rw [readMagnitude?_exponentForm, Int.sub_add_cancel, Int.add_sub_cancel,
      m.ofDecimal?_shortest layout.ties]

theorem exists_render_cons (layout : Layout) (m : Magnitude) :
    ∃ d rest, layout.render m = d :: rest ∧ d.isDigit = true := by
  obtain ⟨d, rest, shape, digits⟩ := exists_natDigits_cons (m.shortest layout.ties).digits
  have first : d.isDigit = true := digits d (by simp)
  have point (leading : Int) :
      ∃ e more, pointForm (d :: rest) leading = e :: more ∧ e.isDigit = true := by
    unfold pointForm
    dsimp only
    split
    next => exact ⟨'0', _, rfl, rfl⟩
    next =>
      split
      next => exact ⟨d, _, rfl, first⟩
      next => exact ⟨d, _, rfl, first⟩
  unfold render
  dsimp only
  rw [shape]
  split
  next => exact point _
  next =>
    unfold exponentForm
    cases rest with
    | nil => exact ⟨d, _, rfl, first⟩
    | cons next rest => exact ⟨d, _, rfl, first⟩

end Layout

theorem toLower_of_isDigit {d : Char} (digit : d.isDigit = true) : d.toLower = d := by
  have code := Text.toNat_of_isDigit digit
  have upper : ¬ (d.val ≥ 'A'.val ∧ d.val ≤ 'Z'.val) := by
    rintro ⟨least, _⟩
    have least : 65 ≤ d.toNat := UInt32.le_iff_toNat_le.mp least
    omega
  exact dif_neg upper

theorem readDouble?_of_digit (negative : Bool) {d : Char} (digit : d.isDigit = true)
    (rest : List Char) : readDouble? (if negative then '-' :: d :: rest else d :: rest) =
      (readMagnitude? (d :: rest)).map (Double.ofMagnitude? negative) := by
  obtain ⟨notMinus, notPlus⟩ := ne_sign_of_isDigit digit
  -- The names of what is not finite begin with a letter.
  have unnamed (name : String) (letter : name.toList.head?.any Char.isDigit = false) :
      String.ofList ((d :: rest).map Char.toLower) ≠ name := by
    rintro rfl
    simp [toLower_of_isDigit digit, digit] at letter
  -- The first character is no sign but the one that was put in front.
  cases negative <;>
    simp only [readDouble?, Bool.false_eq_true, if_false, if_true, List.cons.injEq, notMinus,
      notPlus, false_and, imp_self, implies_true]
  all_goals
    split
    next named => exact absurd named (unnamed "inf" rfl)
    next named => exact absurd named (unnamed "infinity" rfl)
    next named => exact absurd named (unnamed "nan" rfl)
    next => rfl

/-- A finite double is read back from its text in any layout. -/
theorem Layout.readDouble?_renderSigned (layout : Layout) (negative : Bool) (m : Magnitude) :
    readDouble? (layout.renderSigned negative m) = some (.finite negative m) := by
  obtain ⟨d, rest, shape, digit⟩ := layout.exists_render_cons m
  have read := layout.readMagnitude?_render m
  rw [shape] at read
  rw [renderSigned, shape, readDouble?_of_digit negative digit, read]
  rfl

theorem Double.readDouble?_chars {d : Double} (finite : d.isFinite = true) :
    readDouble? d.chars = some d := by
  obtain ⟨negative, m, rfl⟩ := exists_eq_finite finite
  exact Layout.canonical.readDouble?_renderSigned negative m

end RecordSchema.Number
