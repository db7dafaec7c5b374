import RecordSchema.Proofs.Namespace.Descent
import RecordSchema.Proofs.Compiler.Classes
import RecordSchema.Proofs.Success
import Mathlib.Logic.Relation

set_option autoImplicit false

/-!
A compilation as a run of small steps: it enters namespaces and registers classes, whether it
succeeds or fails. What every step keeps, every compilation keeps.
-/

namespace RecordSchema

/-- What a compilation works on, without its log. -/
structure Scope where
  tree : NamespaceTree
  context : TypeContext

def Compilation.scope (c : Compilation) : Scope := ⟨c.tree, c.context⟩

/-- The model of a class in a namespace, from the types known there. -/
def Scope.modelAt (s : Scope) (policy : ArrayNilPolicy) (node : Nat) (d : Definition) :
    Except ModelError Model :=
  Compilation.buildModel ⟨s.tree, s.context, []⟩ policy node d

mutual

def Definition.versions : Definition → List String
  | ⟨_, version, nested, _, _⟩ => version.toList ++ Definition.allVersions nested

def Definition.allVersions : List Definition → List String
  | [] => []
  | d :: rest => d.versions ++ Definition.allVersions rest

end

/-- The names that segments, schemas and versions give to namespaces. -/
def NamedBy (allowed : String → Prop) (name : String) : Prop :=
  (∃ segment, Namespace.ident segment = .ok name) ∨
    ∃ version, allowed version ∧ Text.isBlankText version = false ∧
      name = Namespace.versionSegment (Text.trim version)

theorem NamedBy.filled {allowed : String → Prop} {name : String} (named : NamedBy allowed name) :
    name ≠ "" := by
  rcases named with ⟨segment, accepted⟩ | ⟨version, _, _, rfl⟩
  · exact Namespace.ident_filled accepted
  · exact Namespace.versionSegment_filled _

inductive Scope.Step (allowed : String → Prop) : Scope → Scope → Prop where
  | enter (s : Scope) (node : Nat) (name : String) (inside : node < s.tree.size)
      (named : NamedBy allowed name) :
      Step allowed s ⟨(s.tree.findOrCreate node name).1, s.context⟩
  | register (s : Scope) (policy : ArrayNilPolicy) (node : Nat) (d : Definition) (m : Model)
      (inside : node < s.tree.size) (built : s.modelAt policy node d = .ok m) :
      Step allowed s ⟨s.tree.bind node m.className m.qualifiedName,
        s.context.register m.qualifiedName (.model m)⟩

abbrev Scope.Steps (allowed : String → Prop) : Scope → Scope → Prop :=
  Relation.ReflTransGen (Scope.Step allowed)

section Kept

variable {allowed : String → Prop}

theorem Scope.Step.grows {s later : Scope} (step : Scope.Step allowed s later)
    (well : s.tree.WellFormed) : later.tree.WellFormed ∧ s.tree.Extends later.tree := by
  cases step with
  | enter node name inside named =>
      exact ⟨NamespaceTree.wellFormed_findOrCreate well inside named.filled,
        NamespaceTree.extends_findOrCreate inside⟩
  | register policy node d m inside built =>
      exact ⟨NamespaceTree.wellFormed_bind well node inside _ _,
        NamespaceTree.extends_bind node inside _ _⟩

theorem Scope.Steps.grows {s later : Scope} (steps : Scope.Steps allowed s later)
    (well : s.tree.WellFormed) : later.tree.WellFormed ∧ s.tree.Extends later.tree := by
  induction steps with
  | refl => exact ⟨well, .refl _⟩
  | tail _ step ih =>
      obtain ⟨middle, before⟩ := ih
      obtain ⟨well', after⟩ := step.grows middle
      exact ⟨well', before.trans after⟩

theorem Scope.Steps.preserve {s later : Scope} (P : Scope → Prop)
    (step : ∀ a b, a.tree.WellFormed → Scope.Step allowed a b → P a → P b)
    (steps : Scope.Steps allowed s later) (well : s.tree.WellFormed) (start : P s) : P later := by
  induction steps with
  | refl => exact start
  | tail before last ih => exact step _ _ (Scope.Steps.grows before well).1 last ih

end Kept

end RecordSchema
