import RecordSchema.Number.Shortest

set_option autoImplicit false

/-!
The text of a double: the shortest digits, laid out with a point or with an exponent. A layout says
for which exponents of the leading digit the point form is used, and which digits are taken for a
value in the middle between two decimals.
-/

namespace RecordSchema.Number

structure Layout where
  lowest : Int
  highest : Int
  plusSign : Bool
  ties : TieRule

/-- The layout of numbers in data text. -/
def Layout.data : Layout := ⟨-5, 15, true, .toEven⟩

/-- The layout of a float on its own. -/
def Layout.canonical : Layout := ⟨-4, 15, false, .up⟩

/-- The layout without exponents: every double has fewer places than four hundred. -/
def Layout.positional : Layout := ⟨-400, 400, false, .up⟩

def pointForm (digits : List Char) (leading : Int) : List Char :=
  if leading < 0 then
    '0' :: '.' :: (List.replicate ((-leading).toNat - 1) '0' ++ digits)
  else
    let whole := leading.toNat + 1
    if digits.length ≤ whole then
      digits ++ List.replicate (whole - digits.length) '0' ++ ['.', '0']
    else
      digits.take whole ++ '.' :: digits.drop whole

def exponentForm (plusSign : Bool) (digits : List Char) (leading : Int) : List Char :=
  let mantissa :=
    match digits with
    | [] => []
    | [d] => [d]
    | d :: rest => d :: '.' :: rest
  let sign := if leading < 0 then ['-'] else if plusSign then ['+'] else []
  mantissa ++ 'e' :: sign ++ natDigits leading.natAbs

def Layout.render (layout : Layout) (m : Magnitude) : List Char :=
  let decimal := m.shortest layout.ties
  let digits := natDigits decimal.digits
  let leading := decimal.exponent + digits.length - 1
  if m.isZero ∨ (layout.lowest ≤ leading ∧ leading ≤ layout.highest) then
    pointForm digits (if m.isZero then 0 else leading)
  else
    exponentForm layout.plusSign digits leading

def Layout.renderSigned (layout : Layout) (negative : Bool) (m : Magnitude) : List Char :=
  if negative then '-' :: layout.render m else layout.render m

/-- The canonical text of a double. -/
def Double.chars : Double → List Char
  | .nan => ['N', 'a', 'N']
  | .infinity false => ['i', 'n', 'f']
  | .infinity true => ['-', 'i', 'n', 'f']
  | .finite negative m => Layout.canonical.renderSigned negative m

def Double.text (d : Double) : String := String.ofList d.chars

end RecordSchema.Number
