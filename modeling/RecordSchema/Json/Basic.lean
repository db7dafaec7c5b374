import RecordSchema.KeyMap
import RecordSchema.Number.Double

set_option autoImplicit false

/-!
Raw data: the values a data file can hold. Numbers are whole numbers of 64 bits, signed or
unsigned, or finite doubles. An object is a list of fields under distinct keys: `mkObj` keeps them
in increasing order of the keys, and an object that writes a record keeps the record's order.
-/

namespace RecordSchema

inductive Numeral where
  | integer (value : Int) (least : -9223372036854775808 ≤ value)
      (greatest : value ≤ 18446744073709551615)
  | float (negative : Bool) (magnitude : Number.Magnitude)
  deriving DecidableEq

inductive Json where
  | null
  | bool (b : Bool)
  | num (n : Numeral)
  | str (s : String)
  | arr (items : List Json)
  | obj (fields : List (String × Json))
  deriving Inhabited

namespace Numeral

def ofInt? (i : Int) : Option Numeral :=
  if h : -9223372036854775808 ≤ i ∧ i ≤ 18446744073709551615 then
    some (.integer i h.1 h.2)
  else
    none

/-- The number as a signed 64-bit integer, if it is one. -/
def toInt64? : Numeral → Option Int
  | .integer i _ _ => if i ≤ 9223372036854775807 then some i else none
  | .float _ _ => none

def toDouble : Numeral → Number.Double
  | .integer i _ _ => .ofInt i
  | .float negative m => .finite negative m

end Numeral

namespace Json

def ofInt64 (i : Int) : Json :=
  match Numeral.ofInt? i with
  | some n => .num n
  | none => .null

/-- A double as data; a value that is not finite has no data form and gives null. -/
def ofDouble : Number.Double → Json
  | .finite negative m => .num (.float negative m)
  | _ => .null

/-- An object from its fields; of two fields under one key the later wins. -/
def mkObj (fields : List (String × Json)) : Json :=
  .obj (fields.foldl (fun entries e => insertEntry e.1 e.2 entries) [])

def field? (key : String) : List (String × Json) → Option Json :=
  List.lookup key

/-- The name of the kind of a value, as error texts give it. -/
def kindName : Json → String
  | null => "null"
  | bool _ => "boolean"
  | num _ => "number"
  | str _ => "string"
  | arr _ => "sequence"
  | obj _ => "map"

def isNull : Json → Bool
  | null => true
  | _ => false

end Json

end RecordSchema
