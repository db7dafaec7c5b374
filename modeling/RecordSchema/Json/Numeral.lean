import RecordSchema.Json.Basic
import RecordSchema.Number.Reader

set_option autoImplicit false

/-!
Numbers in data text. Whole numbers that fit 64 bits are kept; any other number is a double, made
from as many leading digits as fit an unsigned 64-bit number, scaled by the nearest double of a
power of ten. Each step of the scaling rounds.
-/

namespace RecordSchema.Numeral

open RecordSchema.Number

def unsignedLimit : Nat := 18446744073709551615

/-- Digits read so far as one number, and how many places the point is off. -/
structure Scaled where
  significand : Nat
  exponent : Int

def Scaled.fitsDigit (s : Scaled) (c : Char) : Bool :=
  s.significand * 10 + digitValue c ≤ unsignedLimit

/-- Digits before the point; once one does not fit, it and all that follow only count. -/
def Scaled.whole (s : Scaled) : List Char → Scaled
  | [] => s
  | c :: rest =>
      if s.fitsDigit c then Scaled.whole ⟨s.significand * 10 + digitValue c, s.exponent⟩ rest
      else ⟨s.significand, s.exponent + (rest.length + 1)⟩

/-- Digits after the point; once one does not fit, it and all that follow are dropped. -/
def Scaled.fraction (s : Scaled) : List Char → Scaled
  | [] => s
  | c :: rest =>
      if s.fitsDigit c then Scaled.fraction ⟨s.significand * 10 + digitValue c, s.exponent - 1⟩ rest
      else s

/-- The double nearest to a power of ten, for exponents up to 308. -/
def powerOfTen? (exponent : Nat) : Option Magnitude :=
  if exponent ≤ 308 then Magnitude.round? (Nat.pow 10 exponent) 1 else none

/-- Scales step by step, by at most 308 places a step; none when the result is too large. -/
def scale? : Nat → Magnitude → Int → Option Magnitude
  | 0, m, _ => some m
  | fuel + 1, m, exponent =>
      match powerOfTen? exponent.natAbs with
      | some power => if 0 ≤ exponent then m.mul? power else m.div? power
      | none =>
          if m.isZero then some m
          else if 0 ≤ exponent then none
          else
            match powerOfTen? 308 with
            | some power => (m.div? power).bind fun smaller => scale? fuel smaller (exponent + 308)
            | none => none

/-- Three steps bring every 64-bit significand down to zero. -/
def Scaled.magnitude? (s : Scaled) : Option Magnitude :=
  (Magnitude.ofNat? s.significand).bind fun m => scale? 4 m s.exponent

def clampInt32 (i : Int) : Int :=
  if i < -2147483648 then -2147483648 else if 2147483647 < i then 2147483647 else i

/-- The exponent part, applied to what was read before it. -/
def Scaled.withExponent? (s : Scaled) (cs : List Char) : Option Magnitude :=
  let (negative, digits) :=
    match cs with
    | '-' :: rest => (true, rest)
    | '+' :: rest => (false, rest)
    | _ => (false, cs)
  if digits.isEmpty || !digits.all Char.isDigit then none
  else
    let exponent := digitsValue digits
    if 2147483647 < exponent then
      if s.significand ≠ 0 ∧ !negative then none else some .zero
    else
      let total := clampInt32 (if negative then s.exponent - exponent else s.exponent + exponent)
      Scaled.magnitude? ⟨s.significand, total⟩

def isExponentMark (c : Char) : Bool := c == 'e' || c == 'E'

/-- A number without its sign. No zero stands before another digit. -/
def readUnsigned? (negative : Bool) (cs : List Char) : Option Numeral :=
  let digits := cs.takeWhile Char.isDigit
  let rest := cs.dropWhile Char.isDigit
  let padded := digits.head? == some '0' && digits.length ≠ 1
  if digits.isEmpty || padded then none
  else
    let whole := Scaled.whole ⟨0, 0⟩ digits
    match rest with
    | [] =>
        if whole.exponent ≠ 0 then whole.magnitude?.map (.float negative)
        else if negative then
          if whole.significand = 0 ∨ 9223372036854775808 < whole.significand then
            whole.magnitude?.map (.float true)
          else ofInt? (-whole.significand)
        else ofInt? whole.significand
    | '.' :: afterPoint =>
        let fraction := afterPoint.takeWhile Char.isDigit
        if fraction.isEmpty then none
        else
          let scaled := whole.fraction fraction
          match afterPoint.dropWhile Char.isDigit with
          | [] => scaled.magnitude?.map (.float negative)
          | mark :: exponent =>
              if isExponentMark mark then (scaled.withExponent? exponent).map (.float negative)
              else none
    | mark :: exponent =>
        if isExponentMark mark then (whole.withExponent? exponent).map (.float negative) else none

def read? : List Char → Option Numeral
  | '-' :: rest => readUnsigned? true rest
  | cs => readUnsigned? false cs

end RecordSchema.Numeral
