import RecordSchema.Definition.Basic
import RecordSchema.Namespace.Tree
import RecordSchema.Context.Basic

set_option autoImplicit false

/-!
Compiling definitions into models. Nested definitions come before the class that declares them,
and every type name is resolved before the class is registered. What was done before a failure
stays done, and the state after a failure is part of the answer.
-/

namespace RecordSchema

structure Compilation where
  tree : NamespaceTree
  context : TypeContext
  log : List Event

namespace Compilation

def start (context : TypeContext) : Compilation := ⟨.empty, context, []⟩

/-- Continues in a changed tree, where new nodes are announced. -/
def inTree (c : Compilation) (tree : NamespaceTree) : Compilation :=
  { c with tree, log := c.log ++ c.tree.creationLog tree }

/-- The namespace of path segments from the root. -/
def enter (c : Compilation) (segments : List String) : Compilation × Except ModelError Nat :=
  let (tree, result) := c.tree.namespaceFor 0 segments
  (c.inTree tree, result.mapError .invalidDefinition)

def enterVersion (c : Compilation) (node : Nat) (d : Definition) : Compilation × Nat :=
  match d.version.bind Text.nonBlank? with
  | none => (c, node)
  | some version =>
      let (tree, child) := c.tree.findOrCreate node (Namespace.versionSegment version)
      (c.inTree tree, child)

/-- Steps into the namespaces of the schema and the version of a definition. -/
def descend (c : Compilation) (node : Nat) (d : Definition) :
    Compilation × Except ModelError Nat :=
  match d.schemaName.bind Text.nonBlank? with
  | none =>
      let (c, node) := c.enterVersion node d
      (c, .ok node)
  | some schema =>
      match Namespace.ident schema with
      | .error fault => (c, .error (.invalidDefinition fault))
      | .ok name =>
          let (tree, child) := c.tree.findOrCreate node name
          let (c, node) := (c.inTree tree).enterVersion child d
          (c, .ok node)

end Compilation

/-- The class name of a definition without blanks around it. -/
def Definition.validClassName (d : Definition) : Except DefinitionFault String :=
  match Text.nonBlank? d.className with
  | none => .error .noClassName
  | some name =>
      if hasSeparator name.toList then .error (.separatorInClassName name) else .ok name

/-- What is wrong with a property, given the names before it. -/
def Property.fault? (p : Property) (owner : String) (seen : List String) :
    Option DefinitionFault :=
  if Text.isBlankText p.name then some (.unnamedProperty owner)
  else if seen.contains p.name then some (.duplicateProperty owner p.name)
  else if p.path.isEmpty then some (.emptyPath p.name owner)
  else none

def Property.resolveType (p : Property) (context : TypeContext) (namespaceName : String) :
    Except ModelError (Option TypeRef) :=
  match p.typeName.bind Text.nonBlank? with
  | none => .ok none
  | some name => (context.lookup name namespaceName).map some

/-- The attributes of properties, up to the first that is wrong. -/
def buildAttributes (owner namespaceName : String) (context : TypeContext) :
    List String → List Property → Except ModelError (List Attribute)
  | _, [] => .ok []
  | seen, p :: rest =>
      match p.fault? owner seen with
      | some fault => .error (.invalidDefinition fault)
      | none =>
          (p.resolveType context namespaceName).bind fun type? =>
            (buildAttributes owner namespaceName context (p.name :: seen) rest).map
              (.mk p.name p.path type? p.isArray :: ·)

namespace Compilation

/-- The model of a definition in its namespace, from the types known by then. -/
def buildModel (c : Compilation) (policy : ArrayNilPolicy) (node : Nat) (d : Definition) :
    Except ModelError Model :=
  match d.validClassName with
  | .error fault => .error (.invalidDefinition fault)
  | .ok className =>
      let namespaceName := (c.tree.get node).qualifiedName
      let key := qualify namespaceName className
      if (c.context.get? key).any TypeRef.isScalar then
        .error (.invalidDefinition (.replacesScalar key))
      else
        (buildAttributes key namespaceName c.context [] d.properties).map
          (.mk className namespaceName key policy)

def registrationLog (c : Compilation) (m : Model) : List Event :=
  (if c.context.contains m.qualifiedName then
    [⟨.debug, "replacing previously registered type", [("model", m.qualifiedName)]⟩]
  else []) ++
    [⟨.info, "compiled schema definition",
      [("model", m.qualifiedName), ("attributes", Number.natText m.attributes.length)]⟩]

/-- Registers a model under its key and binds its class name. -/
def register (c : Compilation) (node : Nat) (m : Model) : Compilation :=
  { tree := c.tree.bind node m.className m.qualifiedName
    context := c.context.register m.qualifiedName (.model m)
    log := c.log ++ c.registrationLog m }

mutual

/-- Compiles a definition under a node; the answer is the model of its own class. -/
def compile (policy : ArrayNilPolicy) (c : Compilation) (node : Nat) :
    Definition → Compilation × Except ModelError Model
  | ⟨schemaName, version, nested, className, properties⟩ =>
      let d : Definition := ⟨schemaName, version, nested, className, properties⟩
      match c.descend node d with
      | (c, .error e) => (c, .error e)
      | (c, .ok node) =>
          match compileAll policy c node nested with
          | (c, some e) => (c, .error e)
          | (c, none) =>
              match c.buildModel policy node d with
              | .error e => (c, .error e)
              | .ok m => (c.register node m, .ok m)

/-- Compiles definitions in order, up to the first failure. -/
def compileAll (policy : ArrayNilPolicy) (c : Compilation) (node : Nat) :
    List Definition → Compilation × Option ModelError
  | [] => (c, none)
  | d :: rest =>
      match compile policy c node d with
      | (c, .error e) => (c, some e)
      | (c, .ok _) => compileAll policy c node rest

end

/-- Compiles a definition in the namespace of path segments. -/
def compileAt (policy : ArrayNilPolicy) (c : Compilation) (segments : List String)
    (d : Definition) : Compilation × Except ModelError Model :=
  match c.enter segments with
  | (c, .error e) => (c, .error e)
  | (c, .ok node) => compile policy c node d

end Compilation

end RecordSchema
