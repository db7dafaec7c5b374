import RecordSchema.Proofs.Compiler.Flat

set_option autoImplicit false

/-!
Requests to the compiler one after the other, at the segments of a path or at a node of the tree.
Those that fail leave what they have done.
-/

namespace RecordSchema.Compilation

inductive Request where
  | atPath (policy : ArrayNilPolicy) (segments : List String) (definition : Definition)
  | atNode (policy : ArrayNilPolicy) (node : Nat) (definition : Definition)

namespace Request

def policy : Request → ArrayNilPolicy
  | atPath policy _ _ => policy
  | atNode policy _ _ => policy

def definition : Request → Definition
  | atPath _ _ d => d
  | atNode _ _ d => d

/-- The node that a request starts from; paths start from the root. -/
def origin : Request → Nat
  | atPath _ _ _ => 0
  | atNode _ node _ => node

def above : Request → List NamespaceStep
  | atPath _ segments _ => segmentSteps segments
  | atNode _ _ _ => []

/-- The classes in the order of compilation, each with its steps from the origin. -/
def classes (q : Request) : List ClassSite := q.definition.classes q.above

end Request

def perform (c : Compilation) : Request → Compilation × Except ModelError Model
  | .atPath policy segments d => c.compileAt policy segments d
  | .atNode policy node d => compile policy c node d

def performAll (c : Compilation) (qs : List Request) : Compilation :=
  qs.foldl (fun c q => (c.perform q).1) c

/-- Each request starts from a node of the tree as it is by then. -/
def Hosts (c : Compilation) : List Request → Prop
  | [] => True
  | q :: rest => q.origin < c.tree.size ∧ Hosts (c.perform q).1 rest

theorem hosts_append (c : Compilation) (qs more : List Request) :
    c.Hosts (qs ++ more) ↔ c.Hosts qs ∧ (c.performAll qs).Hosts more := by
  induction qs generalizing c with
  | nil => simp [Hosts, performAll]
  | cons q rest ih => simp [Hosts, performAll, ih, and_assoc]

theorem perform_ends (c : Compilation) (contained : c.tree.Contained) (q : Request)
    (inside : q.origin < c.tree.size) :
    ∃ made, Scope.Ends q.policy q.origin q.classes c.scope (c.perform q).1.scope made
      (failure? (c.perform q).2) := by
  cases q with
  | atPath policy segments d => exact compileAt_ends policy c contained inside segments d
  | atNode policy node d => exact compile_ends policy c contained inside .nil rfl d

theorem Request.classes_within (q : Request) :
    ∀ site ∈ q.classes, ∀ step ∈ site.steps, step.Within fun _ => True := by
  refine Definition.classes_within ?_ q.definition fun _ _ => trivial
  cases q with
  | atNode policy node d => simp [above]
  | atPath policy segments d =>
    intro step member
    obtain ⟨text, _, rfl⟩ := List.mem_map.mp member
    exact trivial

theorem performAll_steps (c : Compilation) (well : c.tree.WellFormed) (qs : List Request)
    (hosts : c.Hosts qs) : Scope.Steps (fun _ => True) c.scope (c.performAll qs).scope := by
  induction qs generalizing c with
  | nil => exact .refl
  | cons q rest ih =>
    obtain ⟨inside, others⟩ := hosts
    obtain ⟨made, ends⟩ := c.perform_ends well.contained q inside
    have first := ends.run.steps well.contained inside q.classes_within
    exact first.trans (ih _ (first.grows well).1 others)

end RecordSchema.Compilation
