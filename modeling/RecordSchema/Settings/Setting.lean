import RecordSchema.Json.Basic
import RecordSchema.Number.Layout

set_option autoImplicit false

/-!
Raw settings: the tree of values that settings files, environment variables and data give before
it is decoded. Tables list their entries in increasing order of keys.
-/

namespace RecordSchema

/-- Whole numbers are signed and have 64 bits; one that does not fit is a float. -/
inductive Setting where
  | absent
  | flag (b : Bool)
  | integer (i : Int)
  | float (d : Number.Double)
  | text (s : String)
  | list (items : List Setting)
  | table (entries : List (String × Setting))
  deriving Inhabited

namespace Setting

mutual

def ofJson : Json → Setting
  | .null => absent
  | .bool b => flag b
  | .num n =>
      match n with
      | .integer i _ _ => if i ≤ 9223372036854775807 then integer i else float (.ofInt i)
      | .float negative m => float (.finite negative m)
  | .str s => text s
  | .arr items => list (listOfJson items)
  | .obj fields => table (entriesOfJson fields)

def listOfJson : List Json → List Setting
  | [] => []
  | item :: rest => ofJson item :: listOfJson rest

def entriesOfJson : List (String × Json) → List (String × Setting)
  | [] => []
  | (key, value) :: rest => (key, ofJson value) :: entriesOfJson rest

end

end Setting

end RecordSchema
