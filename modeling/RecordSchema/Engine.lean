import RecordSchema.Catalog

set_option autoImplicit false

/-!
An engine owns a registry of types and publishes one catalog at a time. A reload compiles a new
catalog and publishes it only when every definition of the batch compiled; the catalogs published
before stay as they were for those who kept them.
-/

namespace RecordSchema

/-- A catalog, and how many were published before it. -/
structure Publication where
  number : Nat
  catalog : Catalog

structure Engine where
  types : TypeRegistry
  policy : ArrayNilPolicy
  current : Publication

namespace Engine

def create (types : TypeRegistry) (policy : ArrayNilPolicy) : Engine :=
  ⟨types, policy, ⟨0, .empty types⟩⟩

/-- Takes effect with the next reload. -/
def registerType (e : Engine) (name : String) (s : Scalar) : Engine :=
  { e with types := e.types.register name s }

/-- The message of an error that has one of its own. -/
def errorField (error : ModelError) : List (String × String) :=
  if error.hasMessage then [("error", error.message)] else []

def publishedEvent (files : Nat) (c : Catalog) : Event :=
  ⟨.info, "published model catalog",
    [("files", Number.natText files), ("definitions", Number.natText c.definitions),
      ("checksum", Checksum.short c.checksum)]⟩

/-- Compiles a batch and publishes its catalog. -/
def reloadBatch (e : Engine) (batch : List SchemaFile) :
    Engine × Logged (Except ModelError Catalog) :=
  let built := Catalog.build e.types e.policy batch
  match built.value with
  | .error error =>
      (e, ⟨.error error, built.log ++
        [⟨.warn, "schema batch rejected; keeping current catalog", errorField error⟩]⟩)
  | .ok catalog =>
      ({ e with current := ⟨e.current.number + 1, catalog⟩ },
        ⟨.ok catalog, built.log ++ [publishedEvent batch.length catalog]⟩)

/-- Reloads from a source, given its description and what loading it gave. -/
def reload (e : Engine) (description : String)
    (loaded : Logged (Except ModelError (List SchemaFile))) :
    Engine × Logged (Except ModelError Catalog) :=
  match loaded.value with
  | .error error =>
      (e, ⟨.error error, loaded.log ++
        [⟨.warn, "schema batch could not be read; keeping current catalog",
          ("source", description) :: errorField error⟩]⟩)
  | .ok batch =>
      let (e, result) := e.reloadBatch batch
      (e, ⟨result.value, loaded.log ++ result.log⟩)

def parse (e : Engine) (σ : Store) (name : String) (raw : Json) :
    Logged (Except ModelError (Option Record)) :=
  e.current.catalog.parse σ name raw

end Engine

end RecordSchema
