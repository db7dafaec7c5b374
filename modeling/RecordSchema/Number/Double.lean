set_option autoImplicit false

/-!
Double-precision numbers as exact values. A magnitude is `significand · 2 ^ scale / 2 ^ 1074`;
every rounding goes to the nearest magnitude, and a half goes to the even significand.
-/

namespace RecordSchema.Number

structure Magnitude where
  significand : Nat
  scale : Nat
  significand_lt : significand < Nat.pow 2 53
  scale_le : scale ≤ 2045
  normal : scale = 0 ∨ Nat.pow 2 52 ≤ significand
  deriving DecidableEq

inductive Double where
  | nan
  | infinity (negative : Bool)
  | finite (negative : Bool) (magnitude : Magnitude)
  deriving DecidableEq

/-- The quotient rounded to the nearest whole number, a half to the even one. -/
def roundDiv (num den : Nat) : Nat :=
  let quotient := num / den
  let rest := num % den
  if 2 * rest < den ∨ (2 * rest = den ∧ quotient % 2 = 0) then quotient else quotient + 1

namespace Magnitude

def zero : Magnitude := ⟨0, 0, by decide, by decide, .inl rfl⟩

def isZero (m : Magnitude) : Bool := m.significand == 0

def ofParts? (significand scale : Nat) : Option Magnitude :=
  if h : significand < Nat.pow 2 53 ∧ scale ≤ 2045 ∧ (scale = 0 ∨ Nat.pow 2 52 ≤ significand) then
    some ⟨significand, scale, h.1, h.2.1, h.2.2⟩
  else
    none

/-- The magnitude nearest to `num / den`; none when that is beyond the largest one. -/
def round? (num den : Nat) : Option Magnitude :=
  let scaled := num * Nat.pow 2 1074
  let scale := (scaled / den).log2 + 1 - 53
  let significand := roundDiv scaled (den * Nat.pow 2 scale)
  if significand = Nat.pow 2 53 then ofParts? (Nat.pow 2 52) (scale + 1)
  else ofParts? significand scale

def ofNat? (n : Nat) : Option Magnitude := round? n 1

/-- The nearest magnitude to `digits · 10 ^ exponent`. Exponents that are out of reach whatever
the digits are settled without computing the power. -/
def ofDecimal? (digits : Nat) (exponent : Int) : Option Magnitude :=
  if digits = 0 then
    some zero
  else
    let width : Int := digits.log2
    if width + 3 * exponent > 2000 ∧ exponent > 0 then none
    else if width + 3 * exponent < -1500 ∧ exponent < 0 then some zero
    else if 0 ≤ exponent then round? (digits * Nat.pow 10 exponent.toNat) 1
    else round? digits (Nat.pow 10 (-exponent).toNat)

def mul? (a b : Magnitude) : Option Magnitude :=
  round? (a.significand * b.significand * Nat.pow 2 (a.scale + b.scale)) (Nat.pow 2 2148)

def div? (a b : Magnitude) : Option Magnitude :=
  round? (a.significand * Nat.pow 2 a.scale) (b.significand * Nat.pow 2 b.scale)

end Magnitude

namespace Double

def isFinite : Double → Bool
  | .finite _ _ => true
  | _ => false

def ofMagnitude? (negative : Bool) : Option Magnitude → Double
  | some m => .finite negative m
  | none => .infinity negative

def ofInt (i : Int) : Double :=
  ofMagnitude? (i < 0) (Magnitude.ofNat? i.natAbs)

end Double

end RecordSchema.Number
