import RecordSchema.Scalar.Coercion
import RecordSchema.Number.Reader

set_option autoImplicit false

/-!
Doubles in canonical text: whole numbers without zeros in front, and the canonical text of a
finite double.
-/

namespace RecordSchema.Scalar

open CoercionError (Reason)

def isCanonicalDigits (digits : List Char) : Bool :=
  !digits.isEmpty && digits.all Char.isDigit && (digits == ['0'] || digits.head? != some '0')

/-- Zero has no sign. -/
def isCanonicalInteger : List Char → Bool
  | '-' :: digits => isCanonicalDigits digits && digits != ['0']
  | digits => isCanonicalDigits digits

def finiteDouble? (cs : List Char) : Option Number.Double :=
  (Number.readDouble? cs).filter Number.Double.isFinite

def checkFloat (text : String) : Except Reason Number.Double :=
  let cs := text.toList
  if cs.isEmpty then .error .emptyValue
  else if isCanonicalInteger cs then
    match finiteDouble? cs with
    | some d => .ok d
    | none => .error .integerOutOfRange
  else
    match finiteDouble? cs with
    | some d => if d.chars = cs then .ok d else .error .notANumber
    | none => .error .notANumber

end RecordSchema.Scalar
