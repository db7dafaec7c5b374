import RecordSchema.Number.Double

set_option autoImplicit false

/-!
The fewest decimal digits that round back to a magnitude, and of those the nearest. For one digit,
two digits and so on, the two neighbours of the value on that decimal grid are tried. A rule says
which of them is taken where the value is in the middle between them.
-/

namespace RecordSchema.Number

/-- The value `digits · 10 ^ exponent`. -/
structure Decimal where
  digits : Nat
  exponent : Int
  deriving DecidableEq

def digitChar (n : Nat) : Char := Char.ofNat (48 + n % 10)

/-- The decimal digits of a number, at least one. -/
def natDigits (n : Nat) : List Char :=
  if n < 10 then [digitChar n] else natDigits (n / 10) ++ [digitChar n]
termination_by n
decreasing_by omega

def natText (n : Nat) : String := String.ofList (natDigits n)

def intDigits (i : Int) : List Char :=
  if i < 0 then '-' :: natDigits i.natAbs else natDigits i.natAbs

def intText (i : Int) : String := String.ofList (intDigits i)

/-- The number as decimal digits, filled with zeros on the left up to a width. -/
def paddedDigits (width n : Nat) : List Char :=
  let digits := natDigits n
  List.replicate (width - digits.length) '0' ++ digits

/-- The reals that round to a magnitude, as numerators over `4 · 2 ^ 1074`. -/
structure RoundingInterval where
  low : Nat
  value : Nat
  high : Nat
  closed : Bool

def Magnitude.interval (m : Magnitude) : RoundingInterval :=
  let step := Nat.pow 2 m.scale
  -- Below a power of two the neighbours are half as far apart.
  let below := if m.significand = Nat.pow 2 52 ∧ m.scale ≠ 0 then step else 2 * step
  { low := 4 * m.significand * step - below
    value := 4 * m.significand * step
    high := 4 * m.significand * step + 2 * step
    closed := m.significand % 2 == 0 }

def intervalUnit : Nat := 4 * Nat.pow 2 1074

/-- The exponent of the leading decimal digit of `value / intervalUnit`. -/
def leadingExponent (value : Nat) : Int :=
  if intervalUnit ≤ value then
    ((natDigits (value / intervalUnit)).length : Int) - 1
  else
    match (List.range 330).find? fun k => intervalUnit ≤ value * Nat.pow 10 k with
    | some k => -(k : Int)
    | none => 0

/-- Which of two neighbours on a grid is taken when they are as near: the even one, or the upper. -/
inductive TieRule where
  | toEven
  | up
  deriving DecidableEq

def TieRule.takesLower : TieRule → Nat → Bool
  | toEven, lower => lower % 2 == 0
  | up, _ => false

/-- The step of a decimal grid. Where it is no whole number of units, all is scaled up. -/
def gridStep (exponent : Int) : Nat := intervalUnit * Nat.pow 10 exponent.toNat

def gridScale (exponent : Int) : Nat := Nat.pow 10 (-exponent).toNat

/-- Whether a point of the grid of step `10 ^ exponent` is inside. -/
def RoundingInterval.holds (interval : RoundingInterval) (exponent : Int) (point : Nat) : Bool :=
  let low := interval.low * gridScale exponent
  let high := interval.high * gridScale exponent
  let reached := point * gridStep exponent
  if interval.closed then low ≤ reached && reached ≤ high else low < reached && reached < high

/-- The point of the grid that is nearest to the value and inside. -/
def RoundingInterval.hit? (interval : RoundingInterval) (ties : TieRule) (exponent : Int) :
    Option Nat :=
  let value := interval.value * gridScale exponent
  let unit := gridStep exponent
  let below := value / unit
  let rest := value % unit
  match interval.holds exponent below, interval.holds exponent (below + 1) with
  | true, true =>
      some (if 2 * rest < unit ∨ (2 * rest = unit ∧ ties.takesLower below) then below else below + 1)
  | true, false => some below
  | false, true => some (below + 1)
  | false, false => none

/-- Tries `count` grids from the given exponent down. -/
def RoundingInterval.firstHit (interval : RoundingInterval) (ties : TieRule) : Nat → Int → Decimal
  | 0, exponent => ⟨0, exponent⟩
  | count + 1, exponent =>
      match interval.hit? ties exponent with
      | some digits => ⟨digits, exponent⟩
      | none => interval.firstHit ties count (exponent - 1)

/-- The shortest digits. The first grid is one above the leading digit, for a value that is written
as the power of ten above it. -/
def Magnitude.shortest (m : Magnitude) (ties : TieRule) : Decimal :=
  if m.isZero then ⟨0, 0⟩
  else m.interval.firstHit ties 20 (leadingExponent m.interval.value + 1)

end RecordSchema.Number
