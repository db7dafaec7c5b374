import RecordSchema.Registry
import RecordSchema.Engine

set_option autoImplicit false

/-!
Settings of an engine: where schema files are found, what scalar types take for nil and for dates,
and what array attributes give for nil. Every part has a default.
-/

namespace RecordSchema

structure LoaderSettings where
  schemasPath : String
  /-- A pattern on paths below the schemas directory. -/
  filePattern : String

structure TypeSettings where
  /-- Tokens for nil by type name. -/
  sentinels : KeyMap (List String)
  /-- Templates with the patterns that select them. -/
  dateFormats : List (String × String)

structure Settings where
  loader : LoaderSettings
  types : TypeSettings
  policy : ArrayNilPolicy

namespace LoaderSettings

def defaultPath : String := "schemas"

def defaultPattern : String := ".*_schema(?:.\\d+.\\d+.\\d+)?.yml"

def default : LoaderSettings := ⟨defaultPath, defaultPattern⟩

/-- The schemas directory, below the working directory unless its path is absolute. -/
def root (loader : LoaderSettings) (workingDirectory : String) : String :=
  if loader.schemasPath.startsWith "/" then loader.schemasPath
  else if workingDirectory.endsWith "/" then workingDirectory ++ loader.schemasPath
  else workingDirectory ++ "/" ++ loader.schemasPath

end LoaderSettings

namespace TypeSettings

def defaultSentinels : KeyMap (List String) :=
  .ofList [("integer", ["NA"]), ("PositiveInteger", ["NA"]), ("float", ["NA"])]

def default : TypeSettings := ⟨defaultSentinels, []⟩

end TypeSettings

namespace ArrayNilPolicy

def default : ArrayNilPolicy := wrapNil

def name : ArrayNilPolicy → String
  | wrapNil => "wrap_nil"
  | empty => "empty"

def ofName? (name : String) : Option ArrayNilPolicy :=
  if name == wrapNil.name then some wrapNil
  else if name == empty.name then some empty
  else none

@[simp] theorem ofName?_name (policy : ArrayNilPolicy) : ofName? policy.name = some policy := by
  cases policy <;> decide

end ArrayNilPolicy

namespace Settings

def default : Settings := ⟨.default, .default, .default⟩

def toJson (s : Settings) : Json :=
  .obj
    [("loader", .obj
      [("file_pattern", .str s.loader.filePattern), ("schemas_path", .str s.loader.schemasPath)]),
     ("parsing", .obj [("array_nil_policy", .str s.policy.name)]),
     ("types", .obj
      [("date_formats", .arr (s.types.dateFormats.map fun f =>
          .obj [("regex", .str f.2), ("template", .str f.1)])),
       ("nil_sentinels", .obj (s.types.sentinels.toList.map fun e =>
          (e.1, .arr (e.2.map .str))))])]

end Settings

namespace TypeRegistry

/-- The built-in types with the configured sentinels and date formats. -/
def configured (settings : TypeSettings) (σ : Store) :
    Logged (Except ModelError (TypeRegistry × Store)) :=
  let (r, σ) := TypeRegistry.create σ
  let added := r.addSentinels settings.sentinels.toList σ
  ⟨(r.addDateFormats settings.dateFormats added.value).map fun σ => (r, σ), added.log⟩

end TypeRegistry

namespace Engine

/-- An engine with the configured types; nothing is loaded yet. -/
def configured (settings : Settings) (σ : Store) : Logged (Except ModelError (Engine × Store)) :=
  (TypeRegistry.configured settings.types σ).map
    (Except.map fun (r, σ) => (Engine.create r settings.policy, σ))

end Engine

end RecordSchema
