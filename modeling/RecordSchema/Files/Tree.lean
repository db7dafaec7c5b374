import RecordSchema.KeyMap
import RecordSchema.Text.Utf8

set_option autoImplicit false

/-!
Trees of files. A directory lists its entries in any order; walks visit them by name, depth first.
-/

namespace RecordSchema

/-- What a file holds: a text, or bytes that form none. It may also be kept from being read. -/
inductive FileContent where
  | text (s : String)
  | bytes (bs : List UInt8) (malformed : String.fromUTF8? ⟨bs.toArray⟩ = none)
  | unreadable

namespace FileContent

def ofBytes (bs : List UInt8) : FileContent :=
  match decoded : String.fromUTF8? ⟨bs.toArray⟩ with
  | some s => text s
  | none => bytes bs decoded

def text? : FileContent → Option String
  | text s => some s
  | bytes _ _ | unreadable => none

/-- What can be read of the text, with a replacement character for whatever forms none. -/
def nearestText : FileContent → String
  | text s => s
  | bytes bs _ => Text.Utf8.decode bs
  | unreadable => ""

end FileContent

inductive FileTree where
  | file (content : FileContent)
  | directory (entries : List (String × FileTree))
  /-- A directory that cannot be listed. -/
  | closed
  /-- Neither a file nor a directory, such as a link. -/
  | other
  deriving Inhabited

namespace FileTree

def empty : FileTree := directory []

mutual

/-- Every file with the names that lead to it, in the order of a walk. -/
def files : FileTree → List (List String × FileContent)
  | file content => [([], content)]
  | directory entries =>
      (filesByName entries).flatMap fun e => e.2.map fun f => (e.1 :: f.1, f.2)
  | closed | other => []

/-- The files below each entry, by name. -/
def filesByName : List (String × FileTree) → List (String × List (List String × FileContent))
  | [] => []
  | (name, t) :: rest => insertEntry name t.files (filesByName rest)

end

mutual

/-- A walk gets through: every directory can be listed. -/
def isListable : FileTree → Bool
  | file _ | other => true
  | directory entries => areListable entries
  | closed => false

def areListable : List (String × FileTree) → Bool
  | [] => true
  | (_, t) :: rest => t.isListable && areListable rest

end

/-- A directory with a file at the end of a path, whose missing directories are made; anything else
where a directory has to be gives way. -/
def insert (content : FileContent) : List String → FileTree → FileTree
  | [], _ => file content
  | name :: rest, t =>
      let entries :=
        match t with
        | directory entries => entries
        | file _ | closed | other => []
      let child := (entries.lookup name).getD empty
      directory (insertEntry name (insert content rest child) entries)

end FileTree

/-- Why a file cannot be read or written. -/
inductive FileFault where
  | notFound
  | notADirectory
  | isADirectory
  | denied
  | notText
  deriving DecidableEq

def FileFault.message : FileFault → String
  | notFound => "No such file or directory (os error 2)"
  | notADirectory => "Not a directory (os error 20)"
  | isADirectory => "Is a directory (os error 21)"
  | denied => "Permission denied (os error 13)"
  | notText => "stream did not contain valid UTF-8"

namespace FileTree

/-- Goes down by names. Empty names and single points stay, two points go back up; each of them
needs a directory to stand in. -/
def descend (above : List FileTree) (t : FileTree) : List String → Except FileFault FileTree
  | [] => .ok t
  | name :: rest =>
      match t with
      | file _ => .error .notADirectory
      | closed => .error .denied
      | other => .error .notFound
      | directory entries =>
          if name.isEmpty || name == "." then descend above t rest
          else if name == ".." then
            match above with
            | [] => .error .notFound
            | parent :: above => descend above parent rest
          else
            match entries.lookup name with
            | none => .error .notFound
            | some child => descend (t :: above) child rest

end FileTree

end RecordSchema
