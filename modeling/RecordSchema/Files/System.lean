import RecordSchema.Files.Tree

set_option autoImplicit false

/-!
The files that a command can see: trees under absolute paths, and the directory that relative
paths start from.
-/

namespace RecordSchema

namespace FilePath

def segments (path : String) : List String := path.splitOn "/"

def isAbsolute (path : String) : Bool := path.startsWith "/"

/-- A path below a directory; an absolute path stands for itself. -/
def join (directory path : String) : String :=
  if isAbsolute path then path
  else if directory.endsWith "/" || directory.isEmpty then directory ++ path
  else directory ++ "/" ++ path

/-- The last name of a path, if the path ends in one. -/
def fileName? (path : String) : Option String :=
  (((segments path).filter fun s => !s.isEmpty && s != ".").getLast?).filter (· != "..")

/-- What follows the last point of the name; a point at its start does not count. -/
def extension? (path : String) : Option String :=
  (fileName? path).bind fun name =>
    match (name.splitOn ".").reverse with
    | last :: before =>
        if before.isEmpty || before == [""] then none else some last
    | [] => none

/-- The path without empty names and points; two points undo the name before them. -/
def plain (path : String) : String :=
  let step (names : List String) (name : String) : List String :=
    if name.isEmpty || name == "." then names
    else if name == ".." then names.drop 1
    else name :: names
  let names := "/".intercalate ((segments path).foldl step []).reverse
  if isAbsolute path then "/" ++ names else names

/-- The path with an ending after its last name, if it has one. -/
def withEnding? (path ending : String) : Option String :=
  if (fileName? path).isNone then none
  else
    let names := ((segments path).reverse.dropWhile fun s => s.isEmpty || s == ".").reverse
    some ("/".intercalate names ++ "." ++ ending)

end FilePath

structure FileSystem where
  workingDirectory : String
  /-- Trees with the paths that they are found under. -/
  mounts : List (String × FileTree)

namespace FileSystem

/-- The names below a mounted path; none when the path lies elsewhere. -/
def below? (mount path : String) : Option (List String) :=
  if path == mount then some []
  else if path.startsWith (FilePath.join mount "") then
    some (FilePath.segments (String.ofList (path.toList.drop (FilePath.join mount "").length)))
  else none

def absolute (fs : FileSystem) (path : String) : String :=
  if (below? fs.workingDirectory path).isSome then path else FilePath.join fs.workingDirectory path

def find (fs : FileSystem) (path : String) : Except FileFault FileTree :=
  if path.isEmpty then .error .notFound
  else
    let found := fs.mounts.findSome? fun (mount, t) =>
      (below? mount (fs.absolute path)).map fun names => t.descend [] names
    found.getD (.error .notFound)

def read (fs : FileSystem) (path : String) : Except FileFault FileContent :=
  match fs.find path with
  | .error fault => .error fault
  | .ok (.directory _) => .error .isADirectory
  | .ok .closed | .ok (.file .unreadable) => .error .denied
  | .ok .other => .error .notFound
  | .ok (.file content) => .ok content

def readText (fs : FileSystem) (path : String) : Except FileFault String :=
  match fs.read path with
  | .error fault => .error fault
  | .ok content =>
      match content.text? with
      | some s => .ok s
      | none => .error .notText

def isFile (fs : FileSystem) (path : String) : Bool :=
  match fs.find path with
  | .ok (.file _) => true
  | _ => false

/-- Whether a file can be written under a path: its directory must be there, and no directory may
have the path. -/
def writeFault? (fs : FileSystem) (path : String) : Option FileFault :=
  match fs.find path with
  | .ok (.directory _) | .ok .closed => some .isADirectory
  | .ok (.file _) | .ok .other => none
  | .error .notFound =>
      let parent := (FilePath.segments (fs.absolute path)).dropLast
      match (FilePath.segments (fs.absolute path)).getLast?, fs.find ("/".intercalate parent) with
      | some "", _ => some .isADirectory
      | _, .ok (.directory _) | _, .ok .closed => none
      | _, .ok (.file _) | _, .ok .other => some .notADirectory
      | _, .error fault => some fault
  | .error fault => some fault

/-- Puts a text under a path that can be written. -/
def write (fs : FileSystem) (path text : String) : FileSystem :=
  let absolute := FilePath.plain (fs.absolute path)
  { fs with
    mounts := fs.mounts.map fun (mount, t) =>
      match below? mount absolute with
      | some names => (mount, t.insert (.text text) names)
      | none => (mount, t) }

end FileSystem

end RecordSchema
