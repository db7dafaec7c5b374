import RecordSchema.Definition.Decoding
import RecordSchema.Yaml.Reading

set_option autoImplicit false

/-!
Definitions from YAML text. The fields of a mapping may come in any order; a known one must not
come twice, and unknown ones are skipped unread.
-/

namespace RecordSchema

open Yaml

namespace Yaml.Document

/-- A field that was not met before. -/
def once {α : Type} (before : Option α) (read : Reading α) : Reading (Option α) :=
  if before.isSome then failure else some <$> read

end Yaml.Document

structure Property.Declared where
  name : Option String := none
  path : Option (List String) := none
  typeName : Option (Option String) := none
  isArray : Option Bool := none

namespace Property.Declared

def visit (doc : Document) (depth : Nat) (f : Declared) (key : String) (n : Node) :
    Reading Declared :=
  match key with
  | "name" => do return { f with name := ← Document.once f.name (doc.readText n) }
  | "path" => do
      let read := doc.readItems depth (fun _ => doc.readText) n
      return { f with path := ← Document.once f.path read }
  | "type" => do
      return { f with typeName := ← Document.once f.typeName (doc.readOptional doc.readText n) }
  | "array" => do return { f with isArray := ← Document.once f.isArray (doc.readFlag n) }
  | _ => return f

def finish (f : Declared) : Reading Property :=
  match f.name, f.path with
  | some name, some path => return ⟨name, path, f.typeName.join, f.isArray.getD false⟩
  | _, _ => failure

end Property.Declared

def Yaml.Document.readProperty (doc : Document) (depth : Nat) (n : Node) : Reading Property := do
  (← doc.readEntries depth (Property.Declared.visit doc) {} n).finish

structure Definition.Declared where
  schemaName : Option (Option String) := none
  version : Option (Option String) := none
  nested : Option (List Definition) := none
  className : Option String := none
  properties : Option (List Property) := none

namespace Definition.Declared

/-- A version may be any data; what is not a text is kept as its data text. -/
def readVersion (doc : Document) (depth : Nat) (n : Node) : Reading (Option String) := do
  return (← doc.readOptional (doc.readData depth) n).bind Json.asVersion

def visit (doc : Document) (readNested : Node → Reading (List Definition)) (depth : Nat)
    (f : Declared) (key : String) (n : Node) : Reading Declared :=
  match key with
  | "schema" => do
      return { f with schemaName := ← Document.once f.schemaName (doc.readOptional doc.readText n) }
  | "version" => do
      return { f with version := ← Document.once f.version (readVersion doc depth n) }
  | "definitions" => do return { f with nested := ← Document.once f.nested (readNested n) }
  | "class" => do return { f with className := ← Document.once f.className (doc.readText n) }
  | "properties" => do
      let read := doc.readItems depth doc.readProperty n
      return { f with properties := ← Document.once f.properties read }
  | _ => return f

def finish (f : Declared) : Reading Definition :=
  match f.className with
  | some className =>
      return ⟨f.schemaName.join, f.version.join, f.nested.getD [], className, f.properties.getD []⟩
  | none => failure

end Definition.Declared

/-- A definition takes a level of its own, and the list of its nested definitions another. -/
def Yaml.Document.readDefinition (doc : Document) (depth : Nat) (n : Node) : Reading Definition :=
  match depth with
  | 0 => failure
  | 1 => readWith 1 (doc.readItems 0 fun _ _ => failure)
  | depth + 2 => readWith (depth + 2) (doc.readItems (depth + 1) fun _ => doc.readDefinition depth)
where
  readWith (depth : Nat) (readNested : Node → Reading (List Definition)) : Reading Definition := do
    (← doc.readEntries depth (Definition.Declared.visit doc readNested) {} n).finish

/-- The definition in a YAML text. -/
def Definition.ofYaml (s : String) : Except ModelError Definition :=
  let d? := (document? s).bind fun root =>
    root.bind fun root =>
      let doc := Document.ofNode root
      doc.run? (doc.readDefinition Document.depthLimit)
  match d? with
  | some d => .ok d
  | none => .error .yaml

end RecordSchema
