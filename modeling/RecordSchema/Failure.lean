import RecordSchema.Scalar.Coercion

set_option autoImplicit false

/-!
Why raw data could not be parsed: the attribute that failed at each level of records, from the
outermost in, and the error of the value at the end.
-/

namespace RecordSchema

/-- An attribute that failed: the model it belongs to, its path, and the input of that model. -/
structure FailedAttribute where
  name : String
  owner : String
  path : List String
  rawInput : Json

structure ParseFailure where
  levels : List FailedAttribute
  root : CoercionError

def joinPath (path : List String) : String := "->".intercalate path

namespace ParseFailure

def ofCoercion (e : CoercionError) : ParseFailure := ⟨[], e⟩

def atAttribute (level : FailedAttribute) (inner : ParseFailure) : ParseFailure :=
  ⟨level :: inner.levels, inner.root⟩

def levelMessage (level : FailedAttribute) (cause : String) : String :=
  "Unable to parse attribute " ++ level.name ++ " (" ++ level.owner ++ ") at " ++
    joinPath level.path ++ ": " ++ cause

def message (f : ParseFailure) : String := f.levels.foldr levelMessage f.root.message

/-- The attribute names from the outermost record to the value that failed. -/
def trail (f : ParseFailure) : List String := f.levels.map (·.name)

/-- The causes below a level, each of them once as the reason of that level and once on its own. -/
def causesBelow (root : CoercionError) : List FailedAttribute → List String
  | [] => [root.message, root.message]
  | level :: rest =>
      let message := ParseFailure.message ⟨level :: rest, root⟩
      message :: message :: causesBelow root rest

/-- The message and those of all causes, from the outermost in. -/
def causes (f : ParseFailure) : List String :=
  match f.levels with
  | [] => [f.root.message]
  | _ :: rest => f.message :: causesBelow f.root rest

end ParseFailure

end RecordSchema
