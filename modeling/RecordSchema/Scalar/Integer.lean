import RecordSchema.Scalar.Coercion
import RecordSchema.Number.Reader

set_option autoImplicit false

/-!
Whole numbers of 64 bits: digits after an optional hyphen, with any zeros in front.
-/

namespace RecordSchema.Scalar

open CoercionError (Reason)

/-- A hyphen stands after the first character. -/
def hyphenOutOfPlace : List Char → Bool
  | [] => false
  | _ :: rest => rest.contains '-'

def checkInteger (nonNegative : Bool) (text : String) : Except Reason Int :=
  let cs := text.toList
  if cs.isEmpty then .error .emptyValue
  else if cs.any fun c => !c.isDigit && c != '-' then .error .notDigits
  else if hyphenOutOfPlace cs then .error .misplacedSign
  else
    match Number.readInt64? cs with
    | none => .error .notInt64
    | some value => if nonNegative && value < 0 then .error .negative else .ok value

end RecordSchema.Scalar
