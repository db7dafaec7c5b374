import RecordSchema.Number.Layout
import RecordSchema.Text.Blank

set_option autoImplicit false

/-!
Reading numbers from text: 64-bit integers, and doubles rounded to the nearest.
-/

namespace RecordSchema.Number

def digitValue (c : Char) : Nat := c.toNat - 48

def digitsValue (digits : List Char) : Nat :=
  digits.foldl (fun n c => 10 * n + digitValue c) 0

def int64Fits (i : Int) : Bool := -9223372036854775808 ≤ i && i ≤ 9223372036854775807

/-- A 64-bit integer: an optional sign and at least one digit. -/
def readInt64? (cs : List Char) : Option Int :=
  let (negative, digits) :=
    match cs with
    | '-' :: rest => (true, rest)
    | '+' :: rest => (false, rest)
    | _ => (false, cs)
  if digits.isEmpty || !digits.all Char.isDigit then none
  else
    let magnitude : Int := digitsValue digits
    let value := if negative then -magnitude else magnitude
    if int64Fits value then some value else none

/-- The part of an exponent after its mark: an optional sign and at least one digit. -/
def readExponent? (cs : List Char) : Option Int :=
  let (negative, digits) :=
    match cs with
    | '-' :: rest => (true, rest)
    | '+' :: rest => (false, rest)
    | _ => (false, cs)
  if digits.isEmpty || !digits.all Char.isDigit then none
  else some (if negative then -(digitsValue digits : Int) else digitsValue digits)

/-- Digits with at most one point among them, and an optional exponent. -/
def readMagnitude? (cs : List Char) : Option (Option Magnitude) :=
  let whole := cs.takeWhile Char.isDigit
  let afterWhole := cs.dropWhile Char.isDigit
  let (fraction, afterFraction) :=
    match afterWhole with
    | '.' :: rest => (rest.takeWhile Char.isDigit, rest.dropWhile Char.isDigit)
    | _ => ([], afterWhole)
  if whole.isEmpty && fraction.isEmpty then none
  else
    let exponent? :=
      match afterFraction with
      | [] => some 0
      | mark :: rest => if mark == 'e' || mark == 'E' then readExponent? rest else none
    exponent?.map fun exponent =>
      Magnitude.ofDecimal? (digitsValue (whole ++ fraction)) (exponent - fraction.length)

/-- A double: a sign, then digits with point and exponent, or a name for infinity or no number. -/
def readDouble? (cs : List Char) : Option Double :=
  let (negative, body) :=
    match cs with
    | '-' :: rest => (true, rest)
    | '+' :: rest => (false, rest)
    | _ => (false, cs)
  match String.ofList (body.map Char.toLower) with
  | "inf" | "infinity" => some (.infinity negative)
  | "nan" => some .nan
  | _ => (readMagnitude? body).map (Double.ofMagnitude? negative)

end RecordSchema.Number
