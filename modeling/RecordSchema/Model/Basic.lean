import RecordSchema.Scalar.Basic

set_option autoImplicit false

/-!
Compiled models. A model has attributes; an attribute is found along a path and has no type, a
scalar type, or another model for its type.
-/

namespace RecordSchema

/-- What an array attribute gives for a value that came out as nil: a list of nil, or no elements. -/
inductive ArrayNilPolicy where
  | wrapNil
  | empty
  deriving DecidableEq

mutual

inductive TypeRef where
  | scalar (s : Scalar)
  | model (m : Model)

inductive Attribute where
  | mk (name : String) (path : List String) (type? : Option TypeRef) (isArray : Bool)

inductive Model where
  | mk (className namespaceName qualifiedName : String) (policy : ArrayNilPolicy)
      (attributes : List Attribute)

end

namespace Attribute

def name : Attribute → String
  | mk name _ _ _ => name

def path : Attribute → List String
  | mk _ path _ _ => path

def type? : Attribute → Option TypeRef
  | mk _ _ type? _ => type?

def isArray : Attribute → Bool
  | mk _ _ _ isArray => isArray

end Attribute

namespace Model

def className : Model → String
  | mk className _ _ _ _ => className

/-- The qualified name of the namespace that the class is bound in. -/
def namespaceName : Model → String
  | mk _ namespaceName _ _ _ => namespaceName

def qualifiedName : Model → String
  | mk _ _ qualifiedName _ _ => qualifiedName

def policy : Model → ArrayNilPolicy
  | mk _ _ _ policy _ => policy

def attributes : Model → List Attribute
  | mk _ _ _ _ attributes => attributes

/-- The names of the attributes in the order of their declaration. -/
def properties (m : Model) : List String := m.attributes.map Attribute.name

end Model

namespace TypeRef

def name : TypeRef → String
  | scalar s => s.name
  | model m => m.qualifiedName

def model? : TypeRef → Option Model
  | model m => some m
  | scalar _ => none

def isScalar : TypeRef → Bool
  | scalar _ => true
  | model _ => false

def description : TypeRef → String
  | scalar s => "Scalar(" ++ s.name ++ ")"
  | model m => "Model(" ++ m.qualifiedName ++ ")"

end TypeRef

end RecordSchema
