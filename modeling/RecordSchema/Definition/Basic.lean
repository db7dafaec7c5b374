import RecordSchema.Json.Printer

set_option autoImplicit false

/-!
Schema definitions: a class with its properties, the namespace it asks for, and the definitions
nested in it. The written form leaves out what is absent.
-/

namespace RecordSchema

/-- An attribute as it is declared: where to find it, its type by name, and whether it is a list. -/
structure Property where
  name : String
  path : List String
  typeName : Option String
  isArray : Bool
  deriving DecidableEq

structure Definition where
  schemaName : Option String
  version : Option String
  nested : List Definition
  className : String
  properties : List Property
  deriving Inhabited

namespace Property

def named (name : String) (path : List String) : Property := ⟨name, path, none, false⟩

def typed (p : Property) (typeName : String) : Property := { p with typeName := some typeName }

def array (p : Property) : Property := { p with isArray := true }

def toJson (p : Property) : Json :=
  .obj ([("name", .str p.name), ("path", .arr (p.path.map .str))] ++
    (p.typeName.toList.map fun t => ("type", .str t)) ++ [("array", .bool p.isArray)])

end Property

namespace Definition

def named (className : String) : Definition := ⟨none, none, [], className, []⟩

def withSchema (d : Definition) (schemaName : String) : Definition :=
  { d with schemaName := some schemaName }

def withVersion (d : Definition) (version : String) : Definition :=
  { d with version := some version }

def withDefinition (d : Definition) (inner : Definition) : Definition :=
  { d with nested := d.nested ++ [inner] }

def withProperty (d : Definition) (p : Property) : Definition :=
  { d with properties := d.properties ++ [p] }

mutual

/-- The number of classes, the definition's own included. -/
def classCount : Definition → Nat
  | ⟨_, _, nested, _, _⟩ => 1 + classCounts nested

def classCounts : List Definition → Nat
  | [] => 0
  | d :: rest => d.classCount + classCounts rest

end

mutual

def toJson : Definition → Json
  | ⟨schemaName, version, nested, className, properties⟩ =>
      .obj ((schemaName.toList.map fun s => ("schema", .str s)) ++
        (version.toList.map fun v => ("version", .str v)) ++
        (if nested.isEmpty then [] else [("definitions", .arr (nestedToJson nested))]) ++
        [("class", .str className), ("properties", .arr (properties.map Property.toJson))])

def nestedToJson : List Definition → List Json
  | [] => []
  | d :: rest => d.toJson :: nestedToJson rest

end

/-- The written form of a definition. -/
def chars (d : Definition) : List Char := d.toJson.chars

def text (d : Definition) : String := String.ofList d.chars

mutual

def same : Definition → Definition → Bool
  | ⟨s, v, nested, c, ps⟩, ⟨s', v', nested', c', ps'⟩ =>
      s == s' && v == v' && sameAll nested nested' && c == c' && decide (ps = ps')

def sameAll : List Definition → List Definition → Bool
  | [], [] => true
  | d :: rest, d' :: rest' => d.same d' && sameAll rest rest'
  | _, _ => false

end

end Definition

end RecordSchema
