import RecordSchema.Failure

set_option autoImplicit false

/-!
Everything that can go wrong, by cause, and the message of each cause.
-/

namespace RecordSchema

/-- Why data is not a schema definition. -/
inductive DecodeFault where
  | missingField (name : String)
  | invalidType (found expected : String)
  | invalidLength (length : Nat) (expected : String)
  deriving DecidableEq

def DecodeFault.message : DecodeFault → String
  | missingField name => "missing field \x60" ++ name ++ "\x60"
  | invalidType found expected => "invalid type: " ++ found ++ ", expected " ++ expected
  | invalidLength length expected =>
      "invalid length " ++ Number.natText length ++ ", expected " ++ expected

inductive DefinitionFault where
  | segmentCharacter (segment : String) (c : Char)
  | segmentStart (segment : String)
  | replacesScalar (key : String)
  | unnamedProperty (owner : String)
  | duplicateProperty (owner name : String)
  | emptyPath (name owner : String)
  | noClassName
  | separatorInClassName (name : String)
  | undecodable (fault : DecodeFault)
  deriving DecidableEq

def DefinitionFault.message : DefinitionFault → String
  | segmentCharacter segment c =>
      "namespace segment '" ++ segment ++ "' contains '" ++ String.singleton c ++ "'"
  | segmentStart segment => "namespace segment '" ++ segment ++ "' does not start with a letter"
  | replacesScalar key => "class '" ++ key ++ "' would replace the scalar type of the same name"
  | unnamedProperty owner => owner ++ " declares a property without a name"
  | duplicateProperty owner name =>
      owner ++ " declares property '" ++ name ++ "' more than once"
  | emptyPath name owner => "property '" ++ name ++ "' of " ++ owner ++ " has an empty path"
  | noClassName => "definition without a class name"
  | separatorInClassName name => "class name '" ++ name ++ "' must not contain '::'"
  | undecodable fault => fault.message

inductive ModelError where
  | unknownType (name namespaceName : String) (suggestion : Option String)
  | modelNotFound (name : String)
  | invalidDefinition (fault : DefinitionFault)
  | parse (failure : ParseFailure)
  | source (path : String) (cause : ModelError)
  | pattern
  | io
  | yaml
  | json
  | config
  | walk

namespace ModelError

/-- A namespace as messages name it. -/
def namespaceText (namespaceName : String) : String :=
  if namespaceName.isEmpty then "the root namespace" else namespaceName

def message : ModelError → String
  | unknownType name namespaceName suggestion =>
      "Unknown type '" ++ name ++ "' referenced from " ++ namespaceText namespaceName ++
        match suggestion with
        | some close => " (did you mean '" ++ close ++ "'?)"
        | none => ""
  | modelNotFound name => "Model not found: " ++ name
  | invalidDefinition fault => "Invalid schema definition: " ++ fault.message
  | parse failure => failure.message
  | source path cause => "Schema file " ++ path ++ ": " ++ cause.message
  | pattern => "Invalid date format pattern"
  | io => "IO error"
  | yaml => "YAML error"
  | json => "JSON error"
  | config => "Configuration error"
  | walk => "Directory walk error"

/-- The message and those of all causes, from the outermost in. -/
def causes : ModelError → List String
  | parse failure => failure.causes
  | source path cause => (source path cause).message :: cause.causes
  | e => [e.message]

/-- The error comes from a type name that nothing is registered under. -/
def isLookup : ModelError → Bool
  | unknownType _ _ _ => true
  | source _ cause => cause.isLookup
  | _ => false

/-- The text of the error is its own; errors of reading files and texts have only a kind. -/
def hasMessage : ModelError → Bool
  | pattern | io | yaml | json | config | walk => false
  | source _ cause => cause.hasMessage
  | _ => true

end ModelError

end RecordSchema
