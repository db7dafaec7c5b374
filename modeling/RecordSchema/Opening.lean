import RecordSchema.Discovery
import RecordSchema.Settings.Basic

set_option autoImplicit false

/-!
Engines made from settings, with the schemas of the directory that the settings name.
-/

namespace RecordSchema

/-- What keeps an engine from opening: its settings, or the schemas below a directory. -/
inductive OpeningFault where
  | settings (cause : ModelError)
  | schemas (root : String) (cause : ModelError)

def OpeningFault.cause : OpeningFault → ModelError
  | settings cause => cause
  | schemas _ cause => cause

/-- The message of the fault and of all its causes. -/
def OpeningFault.causes : OpeningFault → List String
  | settings cause => cause.causes
  | schemas root cause => ("compiling schemas under " ++ root) :: cause.causes

def SchemaDirectory.ofSettings (loader : LoaderSettings) (fs : FileSystem) :
    Except ModelError SchemaDirectory :=
  ofPattern (loader.root fs.workingDirectory) loader.filePattern

def Engine.opened (settings : Settings) (fs : FileSystem) :
    Logged (Except OpeningFault (Engine × Store)) :=
  let configured := Engine.configured settings .empty
  match configured.value with
  | .error e => ⟨.error (.settings e), configured.log⟩
  | .ok (engine, store) =>
      match SchemaDirectory.ofSettings settings.loader fs with
      | .error e => ⟨.error (.settings e), configured.log⟩
      | .ok directory =>
          let (engine, result) := engine.reloadDirectory directory fs
          let opened := result.value.mapError (OpeningFault.schemas directory.root)
          ⟨opened.map fun _ => (engine, store), configured.log ++ result.log⟩

end RecordSchema
