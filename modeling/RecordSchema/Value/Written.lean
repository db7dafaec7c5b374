import RecordSchema.Value.Basic
import RecordSchema.Json.Printer
import RecordSchema.Calendar.Printer
import RecordSchema.Text.Quoted

set_option autoImplicit false

/-!
Two written forms of values: as data, with dates and timestamps as texts and records as objects
in the order of their fields; and as a description that names the kind of each value.
-/

namespace RecordSchema

namespace Value

mutual

def toJson : Value → Json
  | nil => .null
  | boolean b => .bool b
  | integer i => .ofInt64 i
  | float d => .ofDouble d
  | string s => .str s
  | date d => .str d.text
  | datetime t => .str t.text
  | list items => .arr (listToJson items)
  | record _ fields => .obj (fieldsToJson fields)
  | raw j => j

def listToJson : List Value → List Json
  | [] => []
  | item :: rest => item.toJson :: listToJson rest

def fieldsToJson : List (String × Value) → List (String × Json)
  | [] => []
  | (name, value) :: rest => (name, value.toJson) :: fieldsToJson rest

end

end Value

def Record.toJson (r : Record) : Json := r.toValue.toJson

/-- A text in round brackets after a name. -/
def labelled (name : String) (content : List Char) : List Char :=
  name.toList ++ '(' :: content ++ [')']

def commaSeparated (parts : List (List Char)) : List Char :=
  (parts.intersperse [',', ' ']).flatten

namespace Json

mutual

def describe : Json → List Char
  | null => ['N', 'u', 'l', 'l']
  | bool b => labelled "Bool" (boolChars b)
  | num n => labelled "Number" n.chars
  | str s => labelled "String" (Text.showQuoted s)
  | arr items => "Array [".toList ++ commaSeparated (describeAll items) ++ [']']
  | obj fields =>
      "Object \x7b".toList ++ commaSeparated (describeFields fields) ++ ['\x7d']

def describeAll : List Json → List (List Char)
  | [] => []
  | item :: rest => item.describe :: describeAll rest

def describeFields : List (String × Json) → List (List Char)
  | [] => []
  | (key, value) :: rest =>
      (Text.showQuoted key ++ ':' :: ' ' :: value.describe) :: describeFields rest

end

end Json

namespace Value

/-- A record by its name, with its fields in braces if it has any. -/
def describeRecord (typeName : String) (fields : List (List Char)) : List Char :=
  if fields.isEmpty then typeName.toList
  else typeName.toList ++ " \x7b ".toList ++ commaSeparated fields ++ " \x7d".toList

mutual

def describe : Value → List Char
  | nil => ['N', 'i', 'l']
  | boolean b => labelled "Boolean" (Json.boolChars b)
  | integer i => labelled "Integer" (Number.intDigits i)
  | float d => labelled "Float" d.chars
  | string s => labelled "String" (Text.showQuoted s)
  | date d => labelled "Date" d.chars
  | datetime t => labelled "DateTime" t.chars
  | list items => labelled "List" ('[' :: commaSeparated (describeAll items) ++ [']'])
  | record typeName fields => labelled "Record" (describeRecord typeName (describeFields fields))
  | raw j => labelled "Raw" j.describe

def describeAll : List Value → List (List Char)
  | [] => []
  | item :: rest => item.describe :: describeAll rest

def describeFields : List (String × Value) → List (List Char)
  | [] => []
  | (name, value) :: rest =>
      (name.toList ++ ':' :: ' ' :: value.describe) :: describeFields rest

end

end Value

def Record.description (r : Record) : String :=
  String.ofList (Value.describeRecord r.typeName (Value.describeFields r.fields))

end RecordSchema
