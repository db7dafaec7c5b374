import RecordSchema.Model.Parsing
import RecordSchema.Error
import RecordSchema.Namespace.Ident
import RecordSchema.Context.Similarity

set_option autoImplicit false

/-!
The names that types are known by during one load. Scalars have bare names, models the qualified
name of their class.
-/

namespace RecordSchema

structure TypeContext where
  entries : KeyMap TypeRef

namespace TypeContext

def empty : TypeContext := ⟨.empty⟩

def get? (ctx : TypeContext) (key : String) : Option TypeRef := ctx.entries.get? key

def contains (ctx : TypeContext) (key : String) : Bool := ctx.entries.contains key

def register (ctx : TypeContext) (key : String) (type : TypeRef) : TypeContext :=
  ⟨ctx.entries.insert key type⟩

def keys (ctx : TypeContext) : List String := ctx.entries.keys

def size (ctx : TypeContext) : Nat := ctx.entries.size

def models (ctx : TypeContext) : List (String × Model) :=
  ctx.entries.toList.filterMap fun (key, type) => type.model?.map fun m => (key, m)

/-- The key closest to a name. -/
def suggest? (ctx : TypeContext) (name : String) : Option String :=
  Similarity.best? name ctx.keys

/-- A name means what is registered under it alone, else what is registered under it in the
namespace that it is used in. -/
def lookup (ctx : TypeContext) (name namespaceName : String) : Except ModelError TypeRef :=
  match ctx.get? name with
  | some type => .ok type
  | none =>
      match ctx.get? (qualify namespaceName name) with
      | some type => .ok type
      | none => .error (.unknownType name namespaceName (ctx.suggest? name))

end TypeContext

end RecordSchema
