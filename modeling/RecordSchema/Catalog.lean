import RecordSchema.Checksum
import RecordSchema.Compiler
import RecordSchema.Registry

set_option autoImplicit false

/-!
A catalog is what one load gave: the models of a batch in their namespaces, and the checksum of
the batch. The first definition that does not compile fails the batch.
-/

namespace RecordSchema

/-- A definition, the segments of its place, and the file that it was read from. -/
structure SchemaFile where
  segments : List String
  definition : Definition
  origin : Option String

/-- The file, or the class in angle brackets. -/
def SchemaFile.location (f : SchemaFile) : String :=
  f.origin.getD ("<" ++ f.definition.className ++ ">")

/-- How a batch that comes from memory is described. -/
def SchemaFile.batchDescription (batch : List SchemaFile) : String :=
  Number.natText batch.length ++ " in-memory definitions"

/-- The number of classes in a batch, nested ones included. -/
def SchemaFile.classCount : List SchemaFile → Nat
  | [] => 0
  | f :: rest => f.definition.classCount + classCount rest

structure Catalog where
  namespaces : NamespaceTree
  types : TypeContext
  checksum : String
  /-- The number of classes, nested ones included. -/
  definitions : Nat

namespace Catalog

/-- Only the scalar types of a registry. -/
def empty (r : TypeRegistry) : Catalog :=
  ⟨.empty, r.seedContext, Checksum.ofBatch [], 0⟩

def compileBatch (policy : ArrayNilPolicy) (c : Compilation) :
    List SchemaFile → Compilation × Option ModelError
  | [] => (c, none)
  | f :: rest =>
      match c.compileAt policy f.segments f.definition with
      | (c, .error e) => (c, some (.source f.location e))
      | (c, .ok _) => compileBatch policy c rest

def build (r : TypeRegistry) (policy : ArrayNilPolicy) (batch : List SchemaFile) :
    Logged (Except ModelError Catalog) :=
  match compileBatch policy (.start r.seedContext) batch with
  | (c, some e) => ⟨.error e, c.log⟩
  | (c, none) =>
      ⟨.ok
        { namespaces := c.tree
          types := c.context
          checksum := Checksum.ofBatch (batch.map fun f => (f.segments, f.definition))
          definitions := SchemaFile.classCount batch },
        c.log⟩

def model (c : Catalog) (name : String) : Except ModelError Model :=
  match (c.types.get? name).bind TypeRef.model? with
  | some m => .ok m
  | none => .error (.modelNotFound name)

def models (c : Catalog) : List (String × Model) := c.types.models

def parse (c : Catalog) (σ : Store) (name : String) (raw : Json) :
    Logged (Except ModelError (Option Record)) :=
  match c.model name with
  | .error e => .pure (.error e)
  | .ok m => (m.parse σ raw).map (Except.mapError ModelError.parse)

end Catalog

end RecordSchema
