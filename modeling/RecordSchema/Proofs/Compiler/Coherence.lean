import RecordSchema.Proofs.Compiler.Requests
import RecordSchema.Proofs.Compiler.Pass

set_option autoImplicit false

/-!
The names that are bound in the tree and the types of the context say the same: what is bound in a
node is a model of the node's namespace, and each model is bound in its namespace.
-/

namespace RecordSchema

namespace Scope

def Qualified (s : Scope) : Prop :=
  ∀ node name key, (s.tree.get node).bindings.get? name = some key →
    key = qualify (s.tree.get node).qualifiedName name

def Homed (s : Scope) : Prop :=
  ∀ key m, s.context.get? key = some (.model m) → m.qualifiedName = key ∧
    ∃ node, m.namespaceName = (s.tree.get node).qualifiedName ∧
      (s.tree.get node).bindings.get? m.className = some key

structure Coherent (s : Scope) : Prop where
  qualified : s.Qualified
  homed : s.Homed
  known : ∀ node name key, (s.tree.get node).bindings.get? name = some key →
    ∃ m, s.context.get? key = some (.model m)

variable {s : Scope} {node : Nat}

theorem Qualified.enter (qualified : s.Qualified) (inside : node < s.tree.size) (name : String) :
    (s.enter node name).Qualified := by
  intro other className key bound
  rw [Scope.enter, NamespaceTree.bindings_findOrCreate inside] at bound
  have kept : s.tree.Extends (s.tree.findOrCreate node name).1 :=
    NamespaceTree.extends_findOrCreate inside
  rw [Scope.enter, kept.qualifiedName other (s.tree.inside_of_bound bound)]
  exact qualified other className key bound

theorem Homed.enter (homed : s.Homed) (inside : node < s.tree.size) (name : String) :
    (s.enter node name).Homed := by
  intro key m known
  obtain ⟨own, home, place, bound⟩ := homed key m known
  have kept : s.tree.Extends (s.tree.findOrCreate node name).1 :=
    NamespaceTree.extends_findOrCreate inside
  refine ⟨own, home, ?_, ?_⟩
  · rw [Scope.enter, kept.qualifiedName home (s.tree.inside_of_bound bound)]
    exact place
  · rw [Scope.enter, NamespaceTree.bindings_findOrCreate inside]
    exact bound

theorem modelAt_names {policy : ArrayNilPolicy} {d : Definition} {m : Model}
    (built : s.modelAt policy node d = .ok m) :
    ¬ separator.toList <:+: m.className.toList ∧
      m.namespaceName = (s.tree.get node).qualifiedName ∧
      m.qualifiedName = qualify (s.tree.get node).qualifiedName m.className := by
  rw [modelAt, Compilation.buildModel_eq] at built
  exact modelIn_names built

variable {policy : ArrayNilPolicy} {r : Registration}

theorem Qualified.register (qualified : s.Qualified) (inside : r.node < s.tree.size)
    (built : s.modelAt policy r.node r.site.definition = .ok r.model) :
    (s.register r).Qualified := by
  obtain ⟨_, _, own⟩ := modelAt_names built
  intro other name key bound
  rw [Scope.register, NamespaceTree.binding_bind r.node inside] at bound
  rw [Scope.register, NamespaceTree.qualifiedName_bind r.node inside]
  by_cases here : other = r.node ∧ name = r.model.className
  · rw [if_pos here] at bound
    rw [← Option.some.inj bound, here.1, here.2]
    exact own
  · rw [if_neg here] at bound
    exact qualified other name key bound

theorem bound_register (inside : r.node < s.tree.size)
    (built : s.modelAt policy r.node r.site.definition = .ok r.model) {name key : String}
    (bound : (s.tree.get node).bindings.get? name = some key)
    (own : key = qualify (s.tree.get node).qualifiedName name) :
    ((s.register r).tree.get node).bindings.get? name = some key := by
  obtain ⟨_, _, new⟩ := modelAt_names built
  rw [Scope.register, NamespaceTree.binding_bind r.node inside]
  -- A name bound again in its node is bound to the same key.
  split
  next here => rw [own, new, here.1, here.2]
  next => exact bound

theorem Homed.register (homed : s.Homed) (qualified : s.Qualified) (inside : r.node < s.tree.size)
    (built : s.modelAt policy r.node r.site.definition = .ok r.model) :
    (s.register r).Homed := by
  obtain ⟨_, place, _⟩ := modelAt_names built
  intro key other known
  rw [Scope.register, TypeContext.get?_register, Function.update_apply] at known
  simp only [Scope.register, NamespaceTree.qualifiedName_bind r.node inside]
  split at known
  next same =>
    obtain rfl : r.model = other := by simpa using known
    refine ⟨same.symm, r.node, place, ?_⟩
    rw [NamespaceTree.binding_bind r.node inside, if_pos ⟨rfl, rfl⟩, same]
  next =>
    obtain ⟨named, home, homePlace, bound⟩ := homed key other known
    have again := qualified home other.className key bound
    exact ⟨named, home, homePlace, bound_register inside built bound again⟩

theorem Run.qualified {origin : Nat} {sites : List ClassSite} {later : Scope}
    {made : List Registration} (run : Run policy origin sites s made later)
    (contained : s.tree.Contained) (inside : origin < s.tree.size) (start : s.Qualified) :
    later.Qualified := by
  apply run.preserve Scope.Qualified ?_ ?_ contained inside start
  · intro a node name below _ kept
    exact kept.enter below name
  · intro a r below built kept
    exact kept.register below built

theorem Coherent.step {allowed : String → Prop} {later : Scope} (coherent : s.Coherent)
    (step : Step allowed s later) : later.Coherent := by
  cases step with
  | enter node name inside named =>
    refine ⟨coherent.qualified.enter inside name, coherent.homed.enter inside name, ?_⟩
    intro other className key bound
    rw [NamespaceTree.bindings_findOrCreate inside] at bound
    exact coherent.known other className key bound
  | register policy node d m inside built =>
    let entry : Registration := ⟨⟨[], d⟩, node, m⟩
    refine ⟨Qualified.register (r := entry) coherent.qualified inside built,
      Homed.register (r := entry) coherent.homed coherent.qualified inside built, ?_⟩
    intro other name key bound
    rw [TypeContext.get?_register, Function.update_apply]
    by_cases same : key = m.qualifiedName
    · exact ⟨m, by rw [if_pos same]⟩
    · rw [NamespaceTree.binding_bind node inside] at bound
      by_cases here : other = node ∧ name = m.className
      · rw [if_pos here] at bound
        exact absurd (Option.some.inj bound).symm same
      · rw [if_neg here] at bound
        rw [if_neg same]
        exact coherent.known other name key bound

end Scope

namespace Compilation

theorem coherent_start (r : TypeRegistry) : (start r.seedContext).scope.Coherent := by
  refine ⟨?_, ?_, ?_⟩
  · intro node name key bound
    simp [scope, start, NamespaceTree.get_empty, Namespace.root] at bound
  · intro key m known
    exact absurd known (r.seedContext_ne_model key m)
  · intro node name key bound
    simp [scope, start, NamespaceTree.get_empty, Namespace.root] at bound

theorem bindings_and_types_agree (r : TypeRegistry) (qs : List Request)
    (hosts : (start r.seedContext).Hosts qs) :
    let c := (start r.seedContext).performAll qs
    (∀ node name key, (c.tree.get node).bindings.get? name = some key →
      key = qualify (c.tree.get node).qualifiedName name ∧
        ∃ m, c.context.get? key = some (.model m) ∧ m.qualifiedName = key) ∧
    ∀ key m, c.context.get? key = some (.model m) →
      m.qualifiedName = key ∧ key = qualify m.namespaceName m.className ∧
        ∃ node < c.tree.size, (c.tree.get node).qualifiedName = m.namespaceName ∧
          (c.tree.get node).bindings.get? m.className = some key := by
  intro c
  have well : (start r.seedContext).tree.WellFormed := NamespaceTree.wellFormed_empty
  have steps := performAll_steps (start r.seedContext) well qs hosts
  have coherent : c.scope.Coherent :=
    steps.preserve Scope.Coherent (fun _ _ _ step kept => kept.step step) well (coherent_start r)
  constructor
  · intro node name key bound
    obtain ⟨m, known⟩ := coherent.known node name key bound
    exact ⟨coherent.qualified node name key bound, m, known, (coherent.homed key m known).1⟩
  · intro key m known
    obtain ⟨own, node, place, bound⟩ := coherent.homed key m known
    have named := coherent.qualified node m.className key bound
    rw [← place] at named
    exact ⟨own, named, node, c.tree.inside_of_bound bound, place.symm, bound⟩

/-- A path with a class in a schema of a version, then a node of that path: there a nested class is
registered and the class around it has no name. -/
def atlasRequests : List Request :=
  [.atPath .wrapNil ["atlas"] ⟨none, some "1", [⟨some "geo", none, [], "Place", []⟩], "World", []⟩,
    .atNode .wrapNil 1 ⟨none, none, [⟨none, none, [], "Sea", []⟩], "", []⟩]

theorem bindings_and_types_agree_atlas :
    (start (TypeRegistry.create .empty).1.seedContext).Hosts atlasRequests ∧
      let c := (start (TypeRegistry.create .empty).1.seedContext).performAll atlasRequests
      (c.tree.get 1).bindings.get? "Sea" = some "Atlas::Sea" ∧
        ∃ m, c.context.get? "Atlas::Sea" = some (.model m) ∧ m.qualifiedName = "Atlas::Sea" := by
  have hosts : (start (TypeRegistry.create .empty).1.seedContext).Hosts atlasRequests :=
    ⟨by decide, by decide +kernel, trivial⟩
  obtain ⟨bound, _⟩ := bindings_and_types_agree (TypeRegistry.create .empty).1 atlasRequests hosts
  have sea : (((start (TypeRegistry.create .empty).1.seedContext).performAll
      atlasRequests).tree.get 1).bindings.get? "Sea" = some "Atlas::Sea" := by decide +kernel
  exact ⟨hosts, sea, (bound 1 "Sea" "Atlas::Sea" sea).2⟩

end Compilation

end RecordSchema
