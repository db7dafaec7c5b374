import RecordSchema.Json.Basic
import RecordSchema.Calendar.Timestamp

set_option autoImplicit false

/-!
Values that parsing produces, and records of them. Untyped data stays raw, except that sequences
become lists and null becomes nil.
-/

namespace RecordSchema

inductive Value where
  | nil
  | boolean (b : Bool)
  | integer (i : Int)
  | float (d : Number.Double)
  | string (s : String)
  | date (d : Calendar.Date)
  | datetime (t : Calendar.Timestamp)
  | list (items : List Value)
  | record (typeName : String) (fields : List (String × Value))
  | raw (j : Json)
  deriving Inhabited

/-- The fields of one parsed input, in the order of their declaration. -/
structure Record where
  typeName : String
  fields : List (String × Value)

namespace Record

def toValue (r : Record) : Value := .record r.typeName r.fields

def get? (r : Record) (name : String) : Option Value := r.fields.lookup name

def contains (r : Record) (name : String) : Bool := (r.get? name).isSome

def fieldNames (r : Record) : List String := r.fields.map (·.1)

def size (r : Record) : Nat := r.fields.length

end Record

namespace Value

mutual

/-- The value of data that has no type. -/
def lift : Json → Value
  | .null => nil
  | .arr items => list (liftAll items)
  | .bool b => raw (.bool b)
  | .num n => raw (.num n)
  | .str s => raw (.str s)
  | .obj fields => raw (.obj fields)

def liftAll : List Json → List Value
  | [] => []
  | item :: rest => lift item :: liftAll rest

end

theorem liftAll_eq_map (items : List Json) : liftAll items = items.map lift := by
  induction items with
  | nil => rfl
  | cons item rest ih => simp [liftAll, ih]

def isNil : Value → Bool
  | nil => true
  | _ => false

def isList : Value → Bool
  | list _ => true
  | _ => false

def asBool? : Value → Option Bool
  | boolean b => some b
  | raw (.bool b) => some b
  | _ => none

def asInt? : Value → Option Int
  | integer i => some i
  | raw (.num n) => n.toInt64?
  | _ => none

def asDouble? : Value → Option Number.Double
  | float d => some d
  | integer i => some (.ofInt i)
  | raw (.num n) => some n.toDouble
  | _ => none

def asText? : Value → Option String
  | string s => some s
  | raw (.str s) => some s
  | _ => none

def asDate? : Value → Option Calendar.Date
  | date d => some d
  | _ => none

def asTimestamp? : Value → Option Calendar.Timestamp
  | datetime t => some t
  | _ => none

def asList? : Value → Option (List Value)
  | list items => some items
  | _ => none

def asRecord? : Value → Option Record
  | record typeName fields => some ⟨typeName, fields⟩
  | _ => none

def kindName : Value → String
  | nil => "nil"
  | boolean _ => "boolean"
  | integer _ => "integer"
  | float _ => "float"
  | string _ => "string"
  | date _ => "date"
  | datetime _ => "datetime"
  | list _ => "list"
  | record _ _ => "record"
  | raw _ => "raw"

end Value

end RecordSchema
