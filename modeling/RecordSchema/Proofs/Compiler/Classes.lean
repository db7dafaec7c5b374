import RecordSchema.Compiler
import RecordSchema.Proofs.Namespace.Walk

set_option autoImplicit false

/-!
The classes of a definition as a flat list, nested ones first, each with the texts that lead to its
namespace; and what each class means, given the types that the names before it mean.
-/

namespace RecordSchema

/-- A definition leads into its schema and then into its version. -/
def Definition.steps (d : Definition) : List NamespaceStep :=
  (d.schemaName.bind Text.nonBlank?).toList.map .segment ++
    (d.version.bind Text.nonBlank?).toList.map .version

/-- A class in the order of compilation. -/
structure ClassSite where
  steps : List NamespaceStep
  definition : Definition

mutual

def Definition.classes (above : List NamespaceStep) : Definition → List ClassSite
  | ⟨schemaName, version, nested, className, properties⟩ =>
      let d : Definition := ⟨schemaName, version, nested, className, properties⟩
      Definition.allClasses (above ++ d.steps) nested ++ [⟨above ++ d.steps, d⟩]

def Definition.allClasses (above : List NamespaceStep) : List Definition → List ClassSite
  | [] => []
  | d :: rest => d.classes above ++ Definition.allClasses above rest

end

namespace ClassSite

/-- The names on the way to the class; steps that give no name are left out. -/
def names (site : ClassSite) : List String := site.steps.filterMap fun step => step.name.toOption

def namespaceName (site : ClassSite) : String := joined site.names

def className (site : ClassSite) : String := Text.trim site.definition.className

def key (site : ClassSite) : String := qualify site.namespaceName site.className

end ClassSite

/-- What is known by a name alone, else by the name within a namespace. -/
def resolved (known : String → Option TypeRef) (namespaceName name : String) : Option TypeRef :=
  (known name).or (known (qualify namespaceName name))

def Property.attribute (p : Property) (known : String → Option TypeRef) (namespaceName : String) :
    Attribute :=
  .mk p.name p.path ((p.typeName.bind Text.nonBlank?).bind (resolved known namespaceName)) p.isArray

def ClassSite.model (site : ClassSite) (policy : ArrayNilPolicy)
    (known : String → Option TypeRef) : Model :=
  .mk site.className site.namespaceName site.key policy
    (site.definition.properties.map fun p => p.attribute known site.namespaceName)

/-- What a class must be for its model to be built, where `Known` are the names of types before
it and `Scalar` those among them that no class may take. -/
structure ClassSite.Admissible (site : ClassSite) (Scalar Known : String → Prop) : Prop where
  named : Text.isBlankText site.definition.className = false
  whole : ¬ separator.toList <:+: site.className.toList
  notScalar : ¬ Scalar site.key
  properties : ∀ p ∈ site.definition.properties, Text.isBlankText p.name = false ∧ p.path ≠ []
  distinct : (site.definition.properties.map Property.name).Nodup
  types : ∀ p ∈ site.definition.properties, ∀ name, p.typeName.bind Text.nonBlank? = some name →
    Known name ∨ Known (qualify site.namespaceName name)

mutual

theorem Definition.mem_classes (above : List NamespaceStep) :
    ∀ (d : Definition) (site : ClassSite), site ∈ d.classes above →
      ∃ more, site.steps = above ++ d.steps ++ more
  | ⟨schemaName, version, nested, className, properties⟩, site, member => by
      rw [Definition.classes] at member
      rcases List.mem_append.mp member with inner | own
      · obtain ⟨more, steps⟩ := Definition.mem_allClasses _ nested site inner
        exact ⟨more, steps⟩
      · rw [List.mem_singleton.mp own]
        exact ⟨[], by simp⟩

theorem Definition.mem_allClasses (above : List NamespaceStep) :
    ∀ (ds : List Definition) (site : ClassSite), site ∈ Definition.allClasses above ds →
      ∃ more, site.steps = above ++ more
  | [], site, member => by simp [Definition.allClasses] at member
  | d :: rest, site, member => by
      rw [Definition.allClasses] at member
      rcases List.mem_append.mp member with first | later
      · obtain ⟨more, steps⟩ := Definition.mem_classes above d site first
        exact ⟨d.steps ++ more, by rw [steps, List.append_assoc]⟩
      · exact Definition.mem_allClasses above rest site later

end

theorem Definition.classes_eq (above : List NamespaceStep) (d : Definition) :
    d.classes above =
      Definition.allClasses (above ++ d.steps) d.nested ++ [⟨above ++ d.steps, d⟩] := by
  cases d
  rw [Definition.classes]

end RecordSchema
