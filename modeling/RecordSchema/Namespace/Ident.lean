import RecordSchema.Error
import RecordSchema.Text.Letter
import RecordSchema.Text.Uppercase
import RecordSchema.Text.Blank

set_option autoImplicit false

/-!
Names of namespaces. A path segment becomes a name by capitalising its words and dropping what
separates them; a version becomes a name with a prefix of its own.
-/

namespace RecordSchema

def separator : String := "::"

/-- A member's name within a namespace; the root adds nothing. -/
def qualify (namespaceName name : String) : String :=
  if namespaceName.isEmpty then name else namespaceName ++ separator ++ name

/-- The parts of a text between separators, which are found from the left. -/
def separated : List Char → List (List Char)
  | ':' :: ':' :: rest => [] :: separated rest
  | c :: rest => (separated rest).modifyHead (c :: ·)
  | [] => [[]]

def hasSeparator : List Char → Bool
  | ':' :: ':' :: _ => true
  | _ :: rest => hasSeparator rest
  | [] => false

namespace Namespace

def isWordBreak (c : Char) : Bool := c == '_' || c == '-' || c == ' '

/-- The capitalised words, or the first character that no name may hold. -/
def capitalise : Bool → List Char → Except Char (List Char)
  | _, [] => .ok []
  | atStart, c :: rest =>
      if isWordBreak c then capitalise true rest
      else if !Text.isAlphanumeric c then .error c
      else
        (capitalise false rest).map fun others =>
          (if atStart then Text.uppercase c else [c]) ++ others

def ident (segment : String) : Except DefinitionFault String :=
  match capitalise true segment.toList with
  | .error c => .error (.segmentCharacter segment c)
  | .ok [] => .error (.segmentStart segment)
  | .ok (first :: rest) =>
      if Text.isAlphabetic first then .ok (String.ofList (first :: rest))
      else .error (.segmentStart segment)

/-- Points become underscores. -/
def versionSegment (version : String) : String :=
  String.ofList ('V' :: '_' :: (Text.trimChars version.toList).map fun c =>
    if c == '.' then '_' else c)

end Namespace

end RecordSchema
