import RecordSchema.CommandLine.Help
import RecordSchema.Opening
import RecordSchema.Settings.Sources
import RecordSchema.Settings.Written
import RecordSchema.Value.Written

set_option autoImplicit false

/-!
What the commands do: list the models of a schemas directory, parse a data file as one of them, and
print the settings or write them to a file.
-/

namespace RecordSchema.CommandLine

/-- What a run leaves: its exit code, what it printed, and a file that it wrote. -/
structure Outcome where
  exitCode : Nat
  output : String
  errors : String
  written : Option (String × String)
  deriving DecidableEq

namespace Outcome

def success (output : String) : Outcome := ⟨0, output, "", none⟩

/-- A failed run names its error and every cause below it. -/
def failure (output : String) (causes : List String) : Outcome :=
  ⟨1, output, "Error: " ++ ": ".intercalate causes ++ "\n", none⟩

def misuse : Outcome := ⟨2, "", "error: invalid arguments\n\n" ++ HelpPage.program.text, none⟩

end Outcome

/-! Commands -/

def modelLine (m : String × Model) : String :=
  "  ✅ " ++ m.1 ++ " (" ++ ", ".intercalate m.2.properties ++ ")"

def check (settings : Settings) (fs : FileSystem) : Outcome :=
  match (Engine.opened settings fs).value with
  | .error fault => .failure "" fault.causes
  | .ok (engine, _) =>
      let catalog := engine.current.catalog
      let heading :=
        "🔍 " ++ Number.natText catalog.definitions ++ " definitions from " ++
          settings.loader.root fs.workingDirectory
      .success
        (lines (heading :: catalog.models.map modelLine ++ ["", "checksum: " ++ catalog.checksum]))

/-- The data of a file, whose format its ending tells. -/
def readData (fs : FileSystem) (file : String) : Except (List String) Json :=
  match fs.readText file with
  | .error fault => .error ["reading " ++ file, fault.message]
  | .ok text =>
      match FilePath.extension? file with
      | some "json" => (Json.read? text).elim (.error ModelError.json.causes) .ok
      | some "yml" | some "yaml" => (Yaml.data? text).elim (.error ModelError.yaml.causes) .ok
      | _ => .error ["unsupported data file " ++ file ++ ": expected .json, .yml or .yaml"]

def parse (settings : Settings) (fs : FileSystem) (model file : String) : Outcome :=
  match (Engine.opened settings fs).value with
  | .error fault => .failure "" fault.causes
  | .ok (engine, store) =>
      match readData fs file with
      | .error causes => .failure "" causes
      | .ok raw =>
          match (engine.parse store model raw).value with
          | .error e => .failure "" e.causes
          | .ok none => .success (lines [Json.null.indentedText])
          | .ok (some r) => .success (lines [r.toJson.indentedText])

/-- The settings are printed also when they cannot be written. -/
def printSettings (settings : Settings) (fs : FileSystem) (write : Option String) : Outcome :=
  let output := lines [settings.toToml]
  match write with
  | none => .success output
  | some path =>
      match fs.writeFault? path with
      | some fault => .failure output ["writing " ++ path, fault.message]
      | none => ⟨0, output, "✅ Wrote " ++ path ++ "\n", some (path, settings.toToml)⟩

/-- The settings with the schemas directory that was asked for. -/
def Invocation.adjust (i : Invocation) (settings : Settings) : Settings :=
  match i.schemas with
  | none => settings
  | some path => { settings with loader := { settings.loader with schemasPath := path } }

def invoke (s : Surroundings) (i : Invocation) : Outcome :=
  match Settings.load s i.settingsFile with
  | .error e => .failure "" ("loading configuration" :: e.causes)
  | .ok settings =>
      let settings := i.adjust settings
      match i.command with
      | .check => check settings s.files
      | .parse model file => parse settings s.files model file
      | .settings write => printSettings settings s.files write

def run (s : Surroundings) (args : List String) : Outcome :=
  match Invocation.ofArguments args with
  | .ok i => invoke s i
  | .error (.help page) => .success page.text
  | .error .misuse => .misuse

end RecordSchema.CommandLine
