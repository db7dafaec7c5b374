import RecordSchema.Proofs.Namespace.Paths
import RecordSchema.Proofs.Compiler.Steps
import RecordSchema.Proofs.Compiler.Attributes

set_option autoImplicit false

/-!
A compilation as a run over its flat list of classes. It enters namespaces on the way to classes of
the list and registers the classes in order; one that fails has registered the classes before the
first that cannot be, and nothing else.
-/

namespace RecordSchema

structure Registration where
  site : ClassSite
  node : Nat
  model : Model

namespace Registration

def typesAfter (start : TypeContext) (made : List Registration) : TypeContext :=
  made.foldl (fun types r => types.register r.model.qualifiedName (.model r.model)) start

def bindingsAfter (start : Nat → KeyMap String) (made : List Registration) : Nat → KeyMap String :=
  made.foldl (fun bound r => Function.update bound r.node
    ((bound r.node).insert r.model.className r.model.qualifiedName)) start

theorem typesAfter_append (start : TypeContext) (made more : List Registration) :
    typesAfter start (made ++ more) = typesAfter (typesAfter start made) more := by
  simp [typesAfter]

theorem bindingsAfter_append (start : Nat → KeyMap String) (made more : List Registration) :
    bindingsAfter start (made ++ more) = bindingsAfter (bindingsAfter start made) more := by
  simp [bindingsAfter]

end Registration

namespace Scope

def enter (s : Scope) (node : Nat) (name : String) : Scope :=
  ⟨(s.tree.findOrCreate node name).1, s.context⟩

def register (s : Scope) (r : Registration) : Scope :=
  ⟨s.tree.bind r.node r.model.className r.model.qualifiedName,
    s.context.register r.model.qualifiedName (.model r.model)⟩

/-- The steps of the class lead from the origin to its node, and its model is the one that the
types of this moment give. -/
structure Admits (s : Scope) (policy : ArrayNilPolicy) (origin : Nat) (r : Registration) : Prop where
  placed : ∃ names, Named r.site.steps names ∧ s.tree.descendTo? origin names = some r.node
  built : s.modelAt policy r.node r.site.definition = .ok r.model

inductive Run (policy : ArrayNilPolicy) (origin : Nat) (sites : List ClassSite) (s : Scope) :
    List Registration → Scope → Prop where
  | refl : Run policy origin sites s [] s
  | enter {made : List Registration} {later : Scope} (run : Run policy origin sites s made later)
      (above : List String) (node : Nat) (name : String)
      (leads : later.tree.descendTo? origin above = some node)
      (toward : ∃ site ∈ sites, ∃ first, first <+: site.steps ∧ Named first (above ++ [name])) :
      Run policy origin sites s made (later.enter node name)
  | register {made : List Registration} {later : Scope} (run : Run policy origin sites s made later)
      (r : Registration) (admitted : later.Admits policy origin r) :
      Run policy origin sites s (made ++ [r]) (later.register r)

/-- All that is left by a compilation that has registered these classes: each was built from the
types once those before it were registered, and the tree has only grown. -/
structure Leaves (policy : ArrayNilPolicy) (origin : Nat) (s : Scope) (made : List Registration)
    (later : Scope) : Prop where
  admitted : ∀ before r after, made = before ++ r :: after →
    Admits ⟨later.tree, Registration.typesAfter s.context before⟩ policy origin r
  types : later.context = Registration.typesAfter s.context made
  bindings : ∀ node, (later.tree.get node).bindings =
    Registration.bindingsAfter (fun i => (s.tree.get i).bindings) made node
  grown : s.tree.Extends later.tree
  added : s.tree.OnlyAddsNodes later.tree

variable {policy : ArrayNilPolicy} {origin : Nat} {sites more : List ClassSite}
  {s middle later : Scope} {made others : List Registration}

theorem Run.trans (first : Run policy origin sites s made middle)
    (second : Run policy origin sites middle others later) :
    Run policy origin sites s (made ++ others) later := by
  induction second with
  | refl => simpa using first
  | enter _ above node name leads toward ih => exact .enter ih above node name leads toward
  | register _ r admitted ih =>
    rw [← List.append_assoc]
    exact .register ih r admitted

theorem Run.mono (run : Run policy origin sites s made later) (included : sites ⊆ more) :
    Run policy origin more s made later := by
  induction run with
  | refl => exact .refl
  | enter _ above node name leads toward ih =>
    obtain ⟨site, member, first, start, named⟩ := toward
    exact .enter ih above node name leads ⟨site, included member, first, start, named⟩
  | register _ r admitted ih => exact .register ih r admitted

theorem Admits.of_extends {tree : NamespaceTree} {r : Registration}
    (admitted : s.Admits policy origin r) (contained : s.tree.Contained)
    (inside : origin < s.tree.size) (grown : s.tree.Extends tree) :
    Admits ⟨tree, s.context⟩ policy origin r := by
  obtain ⟨⟨names, named, leads⟩, built⟩ := admitted
  refine ⟨⟨names, named, grown.descends leads⟩, ?_⟩
  have same := grown.qualifiedName r.node (contained.inside inside leads)
  rw [modelAt, Compilation.buildModel_eq] at built ⊢
  rw [same]
  exact built

theorem Admits.inside {r : Registration} (admitted : s.Admits policy origin r)
    (contained : s.tree.Contained) (inside : origin < s.tree.size) : r.node < s.tree.size := by
  obtain ⟨⟨names, _, leads⟩, _⟩ := admitted
  exact contained.inside inside leads

theorem Leaves.refl (s : Scope) : Leaves policy origin s [] s where
  admitted before r after split := by simp at split
  types := rfl
  bindings _ := rfl
  grown := .refl s.tree
  added := .refl s.tree

theorem Leaves.enter (leaves : Leaves policy origin s made later) (contained : later.tree.Contained)
    (begin : origin < later.tree.size) {node : Nat} (inside : node < later.tree.size)
    (name : String) : Leaves policy origin s made (later.enter node name) where
  admitted before r after split := by
    have admitted := leaves.admitted before r after split
    exact admitted.of_extends contained begin (NamespaceTree.extends_findOrCreate inside)
  types := leaves.types
  bindings i := (NamespaceTree.bindings_findOrCreate inside i).trans (leaves.bindings i)
  grown := leaves.grown.trans (NamespaceTree.extends_findOrCreate inside)
  added := leaves.added.trans (NamespaceTree.onlyAddsNodes_findOrCreate inside) leaves.grown.size

theorem Leaves.register (leaves : Leaves policy origin s made later)
    (contained : later.tree.Contained) (begin : origin < later.tree.size) {r : Registration}
    (admitted : later.Admits policy origin r) :
    Leaves policy origin s (made ++ [r]) (later.register r) := by
  have inside := admitted.inside contained begin
  have bound := NamespaceTree.extends_bind (t := later.tree) r.node inside r.model.className
    r.model.qualifiedName
  refine ⟨?_, ?_, ?_, leaves.grown.trans bound, ?_⟩
  · -- The class of a split is the new one, which is last, or one of those before.
    intro before entry after split
    cases after using List.reverseRecOn with
    | nil =>
      obtain ⟨same, last⟩ := List.append_inj' split rfl
      obtain rfl : r = entry := by simpa using last
      rw [← same, ← leaves.types]
      exact admitted.of_extends contained begin bound
    | append_singleton after last =>
      rw [← List.cons_append, ← List.append_assoc] at split
      have earlier := leaves.admitted before entry after (List.append_inj' split rfl).1
      exact earlier.of_extends contained begin bound
  · rw [Registration.typesAfter_append, ← leaves.types]
    rfl
  · intro node
    have before : (fun i => (later.tree.get i).bindings) =
        Registration.bindingsAfter (fun i => (s.tree.get i).bindings) made :=
      funext leaves.bindings
    rw [Registration.bindingsAfter_append, ← before, Scope.register,
      NamespaceTree.get_bind r.node inside]
    simp only [Registration.bindingsAfter, List.foldl_cons, List.foldl_nil, Function.update_apply]
    split
    next here => rw [here]
    next => rfl
  · exact leaves.added.trans (NamespaceTree.onlyAddsNodes_bind r.node inside _ _) leaves.grown.size

theorem Run.leaves (run : Run policy origin sites s made later) (contained : s.tree.Contained)
    (inside : origin < s.tree.size) :
    later.tree.Contained ∧ Leaves policy origin s made later := by
  induction run with
  | refl => exact ⟨contained, .refl s⟩
  | enter _ above node name leads _ ih =>
    obtain ⟨kept, leaves⟩ := ih
    have begin := Nat.lt_of_lt_of_le inside leaves.grown.size
    have within := kept.inside begin leads
    exact ⟨NamespaceTree.contained_findOrCreate kept within, leaves.enter kept begin within name⟩
  | register _ r admitted ih =>
    obtain ⟨kept, leaves⟩ := ih
    have begin := Nat.lt_of_lt_of_le inside leaves.grown.size
    exact ⟨NamespaceTree.contained_bind kept r.node (admitted.inside kept begin) _ _,
      leaves.register kept begin admitted⟩

/-- What entering a namespace and registering a class keep, a run keeps. -/
theorem Run.preserve (P : Scope → Prop) (run : Run policy origin sites s made later)
    (enter : ∀ (a : Scope) (node : Nat) (name : String), node < a.tree.size →
      (∃ site ∈ sites, ∃ step ∈ site.steps, step.name = .ok name) → P a → P (a.enter node name))
    (register : ∀ (a : Scope) (r : Registration), r.node < a.tree.size →
      a.modelAt policy r.node r.site.definition = .ok r.model → P a → P (a.register r))
    (contained : s.tree.Contained) (inside : origin < s.tree.size) (start : P s) : P later := by
  -- A run stays in the tree: what it enters or binds is found from the origin.
  induction run with
  | refl => exact start
  | enter before above node name leads toward ih =>
    obtain ⟨kept, left⟩ := before.leaves contained inside
    have below := kept.inside (Nat.lt_of_lt_of_le inside left.grown.size) leads
    obtain ⟨site, member, first, begins, named⟩ := toward
    obtain ⟨step, listed, own⟩ := mem_named named (by simp : name ∈ above ++ [name])
    exact enter _ node name below ⟨site, member, step, begins.subset listed, own⟩ ih
  | register before r admitted ih =>
    obtain ⟨kept, left⟩ := before.leaves contained inside
    have below := admitted.inside kept (Nat.lt_of_lt_of_le inside left.grown.size)
    exact register _ r below admitted.built ih

/-- Why a class cannot be registered: its steps give no names, or no model is built in its node. -/
inductive Refuses (s : Scope) (policy : ArrayNilPolicy) (origin : Nat) (site : ClassSite) :
    ModelError → Prop where
  | unnamed (step : NamespaceStep) (fault : DefinitionFault) (member : step ∈ site.steps)
      (refused : step.name = .error fault) : Refuses s policy origin site (.invalidDefinition fault)
  | unbuilt (names : List String) (node : Nat) (e : ModelError) (named : Named site.steps names)
      (leads : s.tree.descendTo? origin names = some node)
      (refused : s.modelAt policy node site.definition = .error e) : Refuses s policy origin site e

/-- A run that registers all classes of a list, or those before the first that is refused. -/
inductive Ends (policy : ArrayNilPolicy) (origin : Nat) (sites : List ClassSite) (s later : Scope)
    (made : List Registration) : Option ModelError → Prop where
  | finished (run : Run policy origin sites s made later)
      (all : made.map Registration.site = sites) : Ends policy origin sites s later made none
  | stopped (run : Run policy origin sites s made later) (site : ClassSite) (rest : List ClassSite)
      (split : sites = made.map Registration.site ++ site :: rest) (e : ModelError)
      (refused : later.Refuses policy origin site e) : Ends policy origin sites s later made (some e)

variable {failure? : Option ModelError}

theorem Ends.run (ends : Ends policy origin sites s later made failure?) :
    Run policy origin sites s made later := by
  cases ends with
  | finished run _ => exact run
  | stopped run _ _ _ _ _ => exact run

theorem Ends.after_entering (run : Run policy origin sites s [] middle)
    (ends : Ends policy origin sites middle later made failure?) :
    Ends policy origin sites s later made failure? := by
  cases ends with
  | finished others all => exact .finished (run.trans others) all
  | stopped others site rest split e refused =>
    exact .stopped (run.trans others) site rest split e refused

theorem Ends.stopped_append {e : ModelError}
    (ends : Ends policy origin sites s later made (some e)) (more : List ClassSite) :
    Ends policy origin (sites ++ more) s later made (some e) := by
  cases ends with
  | stopped run site rest split _ refused =>
    exact .stopped (run.mono (List.subset_append_left ..)) site (rest ++ more)
      (by rw [split, List.append_assoc, List.cons_append]) e refused

theorem Ends.append (first : Ends policy origin sites s middle made none)
    (second : Ends policy origin more middle later others failure?) :
    Ends policy origin (sites ++ more) s later (made ++ others) failure? := by
  cases first with
  | finished before all =>
    have run := (before.mono (List.subset_append_left sites more)).trans
      (second.run.mono (List.subset_append_right sites more))
    cases second with
    | finished _ rest => exact .finished run (by rw [List.map_append, all, rest])
    | stopped _ site rest split e refused =>
      exact .stopped run site rest (by rw [List.map_append, all, split, List.append_assoc]) e refused

theorem Ends.of_unnamed {above : List NamespaceStep} {d : Definition}
    (run : Run policy origin (d.classes above) s [] later) {step : NamespaceStep}
    {fault : DefinitionFault} (member : step ∈ above ++ d.steps)
    (refused : step.name = .error fault) :
    Ends policy origin (d.classes above) s later [] (some (.invalidDefinition fault)) := by
  -- The first class of a definition has all the steps of the definition on its way.
  cases listed : d.classes above with
  | nil => simp [Definition.classes_eq] at listed
  | cons first rest =>
    obtain ⟨more, steps⟩ := Definition.mem_classes above d first (by simp [listed])
    rw [listed] at run
    exact .stopped run first rest rfl _
      (.unnamed step fault (by rw [steps]; exact List.mem_append_left more member) refused)

end Scope

end RecordSchema
