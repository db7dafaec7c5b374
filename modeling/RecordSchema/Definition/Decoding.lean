import RecordSchema.Definition.Basic
import RecordSchema.Error
import RecordSchema.Text.Quoted

set_option autoImplicit false

/-!
Definitions from data. An object's fields are visited in their order, unknown ones skipped; an
array holds the fields in the order of their declaration, and those with a default may be missing
at its end. The first fault is reported.
-/

namespace RecordSchema

abbrev Decoded := Except DecodeFault

namespace Json

/-- A value as fault texts name it. -/
def faultName : Json → String
  | null => "null"
  | bool b => "boolean \x60" ++ String.ofList (boolChars b) ++ "\x60"
  | num n =>
      match n with
      | .integer _ _ _ => "integer \x60" ++ String.ofList n.chars ++ "\x60"
      | .float _ _ => "floating point \x60" ++ String.ofList n.chars ++ "\x60"
  | str s => "string " ++ String.ofList (Text.showQuoted s)
  | arr _ => "sequence"
  | obj _ => "map"

def mismatch {α : Type} (j : Json) (expected : String) : Decoded α :=
  .error (.invalidType j.faultName expected)

def asString : Json → Decoded String
  | str s => .ok s
  | j => j.mismatch "a string"

def asOptionalString : Json → Decoded (Option String)
  | null => .ok none
  | str s => .ok (some s)
  | j => j.mismatch "a string"

def asBool : Json → Decoded Bool
  | bool b => .ok b
  | j => j.mismatch "a boolean"

/-- Each element decoded, up to the first fault. -/
def decodeEach {α : Type} (decode : Json → Decoded α) : List Json → Decoded (List α)
  | [] => .ok []
  | item :: rest => (decode item).bind fun a => (decodeEach decode rest).map (a :: ·)

def asList {α : Type} (decode : Json → Decoded α) : Json → Decoded (List α)
  | arr items => decodeEach decode items
  | j => j.mismatch "a sequence"

/-- A version may be any value; what is not a text is kept as its data text. -/
def asVersion : Json → Option String
  | null => none
  | j => some j.rawText

end Json

def tooLong {α : Type} (length : Nat) : Decoded α :=
  .error (.invalidLength length "fewer elements in array")

namespace Property

/-- The fields met so far. -/
structure Fields where
  name : Option String := none
  path : Option (List String) := none
  typeName : Option String := none
  isArray : Bool := false

def Fields.visit (f : Fields) (key : String) (value : Json) : Decoded Fields :=
  match key with
  | "name" => value.asString.map fun name => { f with name := some name }
  | "path" => (value.asList Json.asString).map fun path => { f with path := some path }
  | "type" => value.asOptionalString.map fun typeName => { f with typeName }
  | "array" => value.asBool.map fun isArray => { f with isArray }
  | _ => .ok f

def Fields.finish (f : Fields) : Decoded Property :=
  match f.name, f.path with
  | none, _ => .error (.missingField "name")
  | some _, none => .error (.missingField "path")
  | some name, some path => .ok ⟨name, path, f.typeName, f.isArray⟩

def shape : String := "struct PropertySpec"

def ofArray (items : List Json) : Decoded Property :=
  match items with
  | [] => .error (.invalidLength 0 (shape ++ " with 4 elements"))
  | name :: rest => do
      let name ← name.asString
      match rest with
      | [] => .error (.invalidLength 1 (shape ++ " with 4 elements"))
      | path :: rest => do
          let path ← path.asList Json.asString
          let typeName ← (rest[0]?.getD Json.null).asOptionalString
          let isArray ← (rest[1]?.getD (Json.bool false)).asBool
          if 4 < items.length then tooLong items.length else return ⟨name, path, typeName, isArray⟩

def ofJson : Json → Decoded Property
  | .obj fields =>
      (fields.foldlM (fun (f : Fields) (e : String × Json) => f.visit e.1 e.2) {}).bind Fields.finish
  | .arr items => ofArray items
  | j => j.mismatch shape

end Property

namespace Definition

/-- The fields met so far. -/
structure Fields where
  schemaName : Option String := none
  version : Option String := none
  nested : List Definition := []
  className : Option String := none
  properties : List Property := []

def Fields.finish (f : Fields) : Decoded Definition :=
  match f.className with
  | none => .error (.missingField "class")
  | some className => .ok ⟨f.schemaName, f.version, f.nested, className, f.properties⟩

def shape : String := "struct SchemaDefinition"

def missingClass {α : Type} : Decoded α := .error (.invalidLength 3 (shape ++ " with 5 elements"))

/-- The end of the array form, from the class on. -/
def ofArrayEnd (schemaName version : Option String) (nested : List Definition)
    (length : Nat) : List Json → Decoded Definition
  | [] => missingClass
  | className :: rest => do
      let className ← className.asString
      let properties ← (rest[0]?.getD (Json.arr [])).asList Property.ofJson
      if 5 < length then tooLong length
      else return ⟨schemaName, version, nested, className, properties⟩

mutual

def ofJson? : Json → Decoded Definition
  | .obj fields => (visitAll fields {}).bind Fields.finish
  | .arr (schema :: version :: nested :: rest) =>
      schema.asOptionalString.bind fun schemaName =>
        (nestedOfJson nested).bind fun inner =>
          ofArrayEnd schemaName version.asVersion inner (rest.length + 3) rest
  | .arr (schema :: _) => schema.asOptionalString.bind fun _ => missingClass
  | .arr [] => missingClass
  | .null => Json.mismatch .null shape
  | .bool b => (Json.bool b).mismatch shape
  | .num n => (Json.num n).mismatch shape
  | .str s => (Json.str s).mismatch shape

def visitAll : List (String × Json) → Fields → Decoded Fields
  | [], f => .ok f
  | (key, value) :: rest, f =>
      match key with
      | "schema" => value.asOptionalString.bind fun schemaName => visitAll rest { f with schemaName }
      | "version" => visitAll rest { f with version := value.asVersion }
      | "definitions" => (nestedOfJson value).bind fun nested => visitAll rest { f with nested }
      | "class" => value.asString.bind fun name => visitAll rest { f with className := some name }
      | "properties" =>
          (value.asList Property.ofJson).bind fun properties => visitAll rest { f with properties }
      | _ => visitAll rest f

def nestedOfJson : Json → Decoded (List Definition)
  | .arr items => eachOfJson items
  | .null => Json.mismatch .null "a sequence"
  | .bool b => (Json.bool b).mismatch "a sequence"
  | .num n => (Json.num n).mismatch "a sequence"
  | .str s => (Json.str s).mismatch "a sequence"
  | .obj fields => (Json.obj fields).mismatch "a sequence"

def eachOfJson : List Json → Decoded (List Definition)
  | [] => .ok []
  | item :: rest => (ofJson? item).bind fun d => (eachOfJson rest).map (d :: ·)

end

/-- A definition from data, or why it is none. -/
def ofJson (j : Json) : Except ModelError Definition :=
  (ofJson? j).mapError fun fault => .invalidDefinition (.undecodable fault)

end Definition

end RecordSchema
