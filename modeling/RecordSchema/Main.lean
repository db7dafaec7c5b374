import RecordSchema.CommandLine.Run

set_option autoImplicit false

/-!
The program: it looks at the files that a run may need, runs, and prints and writes what the run
gives.
-/

namespace RecordSchema.Main

/-- How deep directories are looked into. -/
def depthLimit : Nat := 4096

/-- What is under a path, if anything is, down to some depth. Links below a directory are not
followed. -/
def look (path : String) : Nat → IO (Option FileTree)
  | 0 => return none
  | depth + 1 => do
      let full := (← IO.currentDir) / path
      if ← full.isDir then
        try
          let mut trees := []
          for e in ← full.readDir do
            let kind := (← e.path.symlinkMetadata).type
            if kind == .dir || kind == .file then
              match ← look e.path.toString depth with
              | some t => trees := insertEntry e.fileName t trees
              | none => pure ()
            else trees := insertEntry e.fileName .other trees
          return some (.directory trees)
        catch _ => return some .closed
      else if ← full.pathExists then
        try return some (.file (FileContent.ofBytes (← IO.FS.readBinFile full).toList))
        catch _ => return some (.file .unreadable)
      else return none

/-- Adds what is under some paths to the files that can be seen. -/
def see (fs : FileSystem) (depth : Nat) (paths : List String) : IO FileSystem := do
  let mut mounts := fs.mounts
  for path in paths do
    match ← look path depth with
    | some t => mounts := mounts ++ [(fs.absolute path, t)]
    | none => pure ()
  return { fs with mounts }

/-- The variables of the process. -/
def environment : IO (List (String × String)) := do
  try
    let bytes ← IO.FS.readBinFile "/proc/self/environ"
    let text := (FileContent.ofBytes bytes.toList).nearestText
    return (text.splitOn "\x00").filterMap fun entry =>
      match entry.splitOn "=" with
      | name :: value => if name.isEmpty then none else some (name, "=".intercalate value)
      | [] => none
  catch _ => return []

def settingsHome (environment : List (String × String)) : Option String :=
  match (environment.lookup "XDG_CONFIG_HOME").filter FilePath.isAbsolute with
  | some home => some home
  | none => (environment.lookup "HOME").map fun home => FilePath.join home ".config"

def parent (path : String) : String :=
  "/".intercalate (FilePath.segments path).dropLast

/-- The surroundings of a run, with the files that it may read or write. -/
def surroundings (args : List String) : IO Surroundings := do
  let here ← IO.currentDir
  let environment ← environment
  let blank : Surroundings := ⟨⟨here.toString, []⟩, environment, settingsHome environment⟩
  match CommandLine.Invocation.ofArguments args with
  | .error _ => return blank
  | .ok i =>
      let userFile := blank.settingsHome.map fun home => FilePath.join home "models/models.toml"
      let names := Surroundings.commonNames ++ userFile.toList ++ i.settingsFile.toList
      let files ← see blank.files 1 (names.flatMap FileSystem.settingsPaths)
      let s := { blank with files }
      match Settings.load s i.settingsFile with
      | .error _ => return s
      | .ok settings =>
          let root := (i.adjust settings).loader.root here.toString
          let files ← match i.command with
            | .check => see files depthLimit [root]
            | .parse _ file => do see (← see files 1 [file]) depthLimit [root]
            | .settings none => pure files
            | .settings (some file) => see files 1 [file, parent (files.absolute file)]
          return { s with files }

def run (args : List String) : IO UInt32 := do
  let outcome := CommandLine.run (← surroundings args) args
  IO.print outcome.output
  match outcome.written with
  | none => pure ()
  | some (path, text) => IO.FS.writeFile path text
  IO.eprint outcome.errors
  return outcome.exitCode.toUInt32

end RecordSchema.Main

def main (args : List String) : IO UInt32 := RecordSchema.Main.run args
