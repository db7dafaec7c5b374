import RecordSchema.Engine
import RecordSchema.Definition.Written
import RecordSchema.Files.System

set_option autoImplicit false

/-!
Schema files of a directory. The files whose path below the directory matches a pattern are read
in the order of their paths; the directories on the way are the segments of what they define.
-/

namespace RecordSchema

structure SchemaDirectory where
  root : String
  pattern : Pattern

/-- A file below the root, with the names that lead to it. -/
structure FoundFile where
  names : List String
  content : FileContent

namespace SchemaDirectory

def ofPattern (root patternText : String) : Except ModelError SchemaDirectory :=
  match Pattern.read? patternText with
  | some pattern => .ok ⟨root, pattern⟩
  | none => .error .pattern

/-- The path that patterns see, with forward slashes only. -/
def relativePath (names : List String) : String :=
  ("/".intercalate names).map fun c => if c == '\\' then '/' else c

def path (d : SchemaDirectory) (names : List String) : String :=
  names.foldl FilePath.join d.root

/-- The files of a tree that match. -/
def matching (d : SchemaDirectory) (t : FileTree) : List FoundFile :=
  (t.files.filter fun f => d.pattern.isMatch (relativePath f.1)).map fun f => ⟨f.1, f.2⟩

/-- The files that match, if all directories can be listed. -/
def files (d : SchemaDirectory) (fs : FileSystem) : Except ModelError (List FoundFile) :=
  match fs.find d.root with
  | .ok t => if t.isListable then .ok (d.matching t) else .error .walk
  | .error _ => .error .walk

def read (d : SchemaDirectory) (f : FoundFile) : Except ModelError SchemaFile :=
  match f.content.text? with
  | none => .error .io
  | some text =>
      (Definition.ofYaml text).map fun definition =>
        ⟨f.names.dropLast, definition, some (d.path f.names)⟩

/-- Reads files in order, up to the first that fails. -/
def readAll (d : SchemaDirectory) : List FoundFile → Logged (Except ModelError (List SchemaFile))
  | [] => .pure (.ok [])
  | f :: rest =>
      let event : Event := ⟨.debug, "reading schema file", [("file", d.path f.names)]⟩
      match d.read f with
      | .error e => ⟨.error (.source (d.path f.names) e), [event]⟩
      | .ok file =>
          let others := d.readAll rest
          ⟨others.value.map (file :: ·), event :: others.log⟩

def load (d : SchemaDirectory) (fs : FileSystem) : Logged (Except ModelError (List SchemaFile)) :=
  match d.files fs with
  | .error e => .pure (.error e)
  | .ok found =>
      let batch := d.readAll found
      ⟨batch.value,
        ⟨.debug, "discovered schema files",
          [("root", d.root), ("files", Number.natText found.length)]⟩ :: batch.log⟩

end SchemaDirectory

namespace Engine

/-- Reloads from a directory. -/
def reloadDirectory (e : Engine) (d : SchemaDirectory) (fs : FileSystem) :
    Engine × Logged (Except ModelError Catalog) :=
  e.reload d.root (d.load fs)

end Engine

end RecordSchema
