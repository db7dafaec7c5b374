import RecordSchema.Scalar.Coercion

set_option autoImplicit false

/-!
Booleans, also as the words true, t, yes, y and false, f, no, n in any case, and as 1 and 0.
-/

namespace RecordSchema.Scalar

def booleanWord? (text : String) : Option Bool :=
  match Text.asciiLower (Text.trim text) with
  | "true" | "t" | "yes" | "y" | "1" => some true
  | "false" | "f" | "no" | "n" | "0" => some false
  | _ => none

def boolean? : Json → Option Bool
  | .bool b => some b
  | .num n =>
      match n.toInt64? with
      | some 1 => some true
      | some 0 => some false
      | _ => none
  | .str s => booleanWord? s
  | _ => none

end RecordSchema.Scalar
