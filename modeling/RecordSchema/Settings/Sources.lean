import RecordSchema.Error
import RecordSchema.Files.System
import RecordSchema.Ini
import RecordSchema.Json.Relaxed
import RecordSchema.Ron.Document
import RecordSchema.Settings.Decoding
import RecordSchema.Settings.Layers
import RecordSchema.Toml.Document
import RecordSchema.Yaml.Setting

set_option autoImplicit false

/-!
Where settings come from: files with fixed names, a file of the user, a file that was asked for,
and environment variables, each on top of those before it.
-/

namespace RecordSchema

/-- The files and variables that a command runs among. -/
structure Surroundings where
  files : FileSystem
  environment : List (String × String)
  /-- The directory of the user's settings. -/
  settingsHome : Option String

/-! Files -/

inductive SettingsFormat where
  | toml
  | json
  | yaml
  | ini
  | ron
  | relaxedJson

namespace SettingsFormat

/-- The endings of file names in the order in which they are tried. -/
def extensions : List (String × SettingsFormat) :=
  [("toml", toml), ("json", json), ("yaml", yaml), ("yml", yaml), ("ini", ini),
   ("ron", ron), ("json5", relaxedJson)]

def read? : SettingsFormat → String → Option Setting
  | toml, text => Toml.read? text
  | json, text => (Json.read? text).map Setting.ofJson
  | yaml, text => Yaml.setting? text
  | ini, text => (Ini.read? text).map Setting.table
  | ron, text => Ron.read? text
  | relaxedJson, text => (Json.Relaxed.read? text).map Setting.ofJson

/-- The entries that a text gives; anything but a table is refused. -/
def readEntries? (format : SettingsFormat) (text : String) : Option (List (String × Setting)) :=
  match format.read? text with
  | some (.table entries) => some entries
  | _ => none

end SettingsFormat

namespace FileSystem

/-- All paths that a settings file under a name may have. -/
def settingsPaths (name : String) : List String :=
  name :: SettingsFormat.extensions.filterMap fun e => FilePath.withEnding? name e.1

/-- A settings file under a name, with its ending or without. A file that has just the name counts
if its ending is a known one. -/
def settingsFile? (fs : FileSystem) (name : String) : Option (String × SettingsFormat) :=
  if fs.isFile name then
    ((FilePath.extension? name).bind fun ending => SettingsFormat.extensions.lookup ending).map (name, ·)
  else
    SettingsFormat.extensions.findSome? fun (ending, format) =>
      ((FilePath.withEnding? name ending).filter fs.isFile).map (·, format)

/-- The entries of the settings file under a name. Without a file there are none, unless it is
required; a file that cannot be decoded is always a fault. -/
def settingsEntries? (fs : FileSystem) (required : Bool) (name : String) :
    Option (List (String × Setting)) :=
  match fs.settingsFile? name with
  | none => if required then none else some []
  | some (path, format) =>
      match fs.read path with
      | .error _ => if required then none else some []
      | .ok content => format.readEntries? (withoutMark content.nearestText)
where
  /-- Drops the byte order mark. -/
  withoutMark (text : String) : String :=
    match text.toList with
    | '\ufeff' :: rest => String.ofList rest
    | _ => text

end FileSystem

/-! Environment variables -/

def variableStart : String := "models__"

/-- Flags and numbers are taken as such; any other text is a text. -/
def Setting.ofVariable (text : String) : Setting :=
  match Text.lowercase text with
  | "true" => .flag true
  | "false" => .flag false
  | _ =>
      match Number.readInt64? text.toList with
      | some i => .integer i
      | none =>
          match Number.readDouble? text.toList with
          | some d => .float d
          | none => .text text

/-- The variables whose names start as those of settings, in any case. Two underscores go one level
down. -/
def variableEntries (environment : List (String × String)) : List (String × Setting) :=
  let named := environment.filterMap fun (name, value) =>
    let name := Text.lowercase name
    if name.startsWith variableStart then
      let rest := String.ofList (name.toList.drop variableStart.length)
      some (".".intercalate (rest.splitOn "__"), Setting.ofVariable value)
    else none
  named.foldl (fun entries e => insertEntry e.1 e.2 entries) []

/-! Settings -/

namespace Surroundings

def commonNames : List String := ["models.toml", ".models.toml", "config/models.toml"]

/-- The user's settings file, if something is there. -/
def userFile? (s : Surroundings) : Option String :=
  (s.settingsHome.map fun home => FilePath.join home "models/models.toml").filter fun path =>
    (s.files.find path).isOk

/-- The names of settings files, with whether the file is required. -/
def settingsNames (s : Surroundings) (asked : Option String) : List (Bool × String) :=
  (commonNames ++ s.userFile?.toList).map (false, ·) ++ asked.toList.map (true, ·)

end Surroundings

/-- The settings of a command, given the name of the settings file that was asked for. -/
def Settings.load (s : Surroundings) (asked : Option String) : Except ModelError Settings :=
  let sources? := (s.settingsNames asked).mapM fun (required, name) =>
    s.files.settingsEntries? required name
  let settings? := sources?.bind fun sources =>
    Settings.ofSetting? .lenient (Setting.layers (sources ++ [variableEntries s.environment]))
  match settings? with
  | some settings => .ok settings
  | none => .error .config

end RecordSchema
