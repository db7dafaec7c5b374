import RecordSchema.Proofs.Namespace.Descent
import RecordSchema.Proofs.Namespace.Walk

set_option autoImplicit false

/-!
What holds of every tree that calls have made of the empty one. The links up and down, the stored
qualified names and the search by such a name agree, also when a call has failed part way, and no
call changes more than it says.
-/

namespace RecordSchema

/-- What path segments become: blank ones nothing, each other one a name or the fault that ends
the way. -/
def Namespace.idents (segments : List String) : List (Except DefinitionFault String) :=
  (segments.filterMap Text.nonBlank?).map Namespace.ident

theorem map_name_segmentSteps (segments : List String) :
    (segmentSteps segments).map NamespaceStep.name = Namespace.idents segments := by
  rw [segmentSteps, List.map_map]
  rfl

theorem named_iff (steps : List NamespaceStep) (names : List String) :
    Named steps names ↔ steps.map NamespaceStep.name = names.map .ok := by
  rw [← List.forall₂_eq_eq_eq, List.forall₂_map_left_iff, List.forall₂_map_right_iff]

namespace NamespaceTree

inductive Call where
  | namespaceFor (node : Nat) (segments : List String)
  | bind (node : Nat) (name key : String)

namespace Call

def node : Call → Nat
  | namespaceFor node _ => node
  | bind node _ _ => node

/-- The key that a call gives to a name of a node. -/
def bound? : Call → Nat → String → Option String
  | namespaceFor _ _, _, _ => none
  | bind node own key, i, name => if i = node ∧ name = own then some key else none

end Call

def perform (t : NamespaceTree) : Call → NamespaceTree
  | .namespaceFor node segments => (t.namespaceFor node segments).1
  | .bind node name key => t.bind node name key

def performAll (t : NamespaceTree) (calls : List Call) : NamespaceTree := calls.foldl perform t

/-- Each call is at a node that the tree has by then. -/
def Hosts (t : NamespaceTree) : List Call → Prop
  | [] => True
  | call :: rest => call.node < t.size ∧ (t.perform call).Hosts rest

/-- The names that the links up from a node pass, from the root. -/
inductive NamesTo (t : NamespaceTree) : Nat → List String → Prop where
  | root (node : Nat) (top : (t.get node).parent = none) : NamesTo t node []
  | child (node parent : Nat) (names : List String) (link : (t.get node).parent = some parent)
      (above : NamesTo t parent names) : NamesTo t node (names ++ [(t.get node).name])

structure Consistent (t : NamespaceTree) : Prop where
  rooted : 0 < t.size
  top : (t.get 0).parent = none
  inside : ∀ parent name node, (t.get parent).children.get? name = some node →
    0 < node ∧ node < t.size
  child : ∀ node, 0 < node → node < t.size → ∃ parent < node, (t.get node).parent = some parent ∧
    ∀ i name, (t.get i).children.get? name = some node ↔ i = parent ∧ name = (t.get node).name
  qualified : ∀ node < t.size, ∃ names, t.NamesTo node names ∧
    (t.get node).qualifiedName = joined names
  distinct : ∀ node < t.size, ∀ other < t.size,
    (t.get node).qualifiedName = (t.get other).qualifiedName → node = other
  found : ∀ node < t.size, t.find? (t.get node).qualifiedName = some node

variable {t : NamespaceTree}

theorem Leads.namesTo (well : t.WellFormed) {names : List String} {node : Nat}
    (leads : t.Leads names node) : t.NamesTo node names := by
  induction names using List.reverseRecOn generalizing node with
  | nil =>
    cases leads
    exact .root 0 well.rootParent
  | append_singleton names name ih =>
    obtain ⟨parent, above, known⟩ := (leads_concat t names name node).mp leads
    have child := well.isChild parent name node known
    rw [← child.named]
    exact .child node parent names child.parentOf (ih above)

theorem WellFormed.child (well : t.WellFormed) {node : Nat} (positive : 0 < node)
    (inside : node < t.size) : ∃ parent < node, (t.get node).parent = some parent ∧
      ∀ i name, (t.get i).children.get? name = some node ↔
        i = parent ∧ name = (t.get node).name := by
  obtain ⟨parent, own, known⟩ := well.linked node positive inside
  have child := well.isChild parent own node known
  refine ⟨parent, child.later, child.parentOf, ?_⟩
  intro i name
  constructor
  · intro listed
    have other := well.isChild i name node listed
    exact ⟨Option.some.inj (other.parentOf.symm.trans child.parentOf), other.named.symm⟩
  · rintro ⟨rfl, rfl⟩
    rw [child.named]
    exact known

theorem consistent (well : t.WellFormed) (closed : t.Closed) : t.Consistent where
  rooted := well.rooted
  top := well.rootParent
  inside parent name node known :=
    have child := well.isChild parent name node known
    ⟨Nat.zero_lt_of_lt child.later, child.inside⟩
  child _ positive inside := well.child positive inside
  qualified node inside := by
    obtain ⟨names, leads⟩ := exists_leads well node inside
    exact ⟨names, leads.namesTo well, leads.qualifiedName well⟩
  distinct node inside other otherInside same := by
    have found := closed.find? well inside
    rw [same, closed.find? well otherInside] at found
    exact (Option.some.inj found).symm
  found _ inside := closed.find? well inside

section Perform

variable {call : Call}

theorem kept_walk (well : t.WellFormed) (closed : t.Closed) {node : Nat} (inside : node < t.size)
    (segments : List String) :
    (t.walk node (segmentSteps segments)).1.WellFormed ∧
      (t.walk node (segmentSteps segments)).1.Closed := by
  apply walk_preserve (fun a => a.WellFormed ∧ a.Closed) well.contained inside ?_ ⟨well, closed⟩
  rintro a parent name below ⟨step, listed, named⟩ ⟨well', closed'⟩
  obtain ⟨text, _, rfl⟩ := List.mem_map.mp listed
  exact ⟨wellFormed_findOrCreate well' below (NamespaceStep.filled named),
    closed'.findOrCreate below (Namespace.terminable_ident named)⟩

theorem kept_perform (well : t.WellFormed) (closed : t.Closed) (inside : call.node < t.size) :
    (t.perform call).WellFormed ∧ (t.perform call).Closed := by
  cases call with
  | namespaceFor node segments =>
    rw [perform, namespaceFor_eq_walk]
    exact kept_walk well closed inside segments
  | bind node name key =>
    exact ⟨wellFormed_bind well node inside name key, closed.bind node inside name key⟩

theorem extends_perform (contained : t.Contained) (inside : call.node < t.size) :
    t.Extends (t.perform call) := by
  cases call with
  | namespaceFor node segments =>
    rw [perform, namespaceFor_eq_walk]
    exact extends_walk contained inside _
  | bind node name key => exact extends_bind node inside name key

theorem onlyAddsNodes_perform (contained : t.Contained) (inside : call.node < t.size) :
    t.OnlyAddsNodes (t.perform call) := by
  cases call with
  | bind node name key => exact onlyAddsNodes_bind node inside name key
  | namespaceFor node segments =>
    rw [perform, namespaceFor_eq_walk]
    have both : t.OnlyAddsNodes (t.walk node (segmentSteps segments)).1 ∧
        t.size ≤ (t.walk node (segmentSteps segments)).1.size := by
      apply walk_preserve (fun a => t.OnlyAddsNodes a ∧ t.size ≤ a.size) contained inside ?_
        ⟨.refl t, Nat.le_refl _⟩
      rintro a parent name below _ ⟨added, grown⟩
      exact ⟨added.trans (onlyAddsNodes_findOrCreate below) grown,
        Nat.le_trans grown (extends_findOrCreate below).size⟩
    exact both.1

theorem binding_perform (contained : t.Contained) (inside : call.node < t.size) (i : Nat)
    (name : String) :
    ((t.perform call).get i).bindings.get? name =
      (call.bound? i name).or ((t.get i).bindings.get? name) := by
  cases call with
  | bind node own key =>
    rw [perform, binding_bind node inside, Call.bound?]
    split <;> rfl
  | namespaceFor node segments =>
    rw [perform, namespaceFor_eq_walk, Call.bound?, Option.none_or]
    refine walk_preserve (fun a => (a.get i).bindings.get? name = (t.get i).bindings.get? name)
      contained inside ?_ rfl
    intro a parent other below _ kept
    rw [bindings_findOrCreate below]
    exact kept

theorem kept_performAll (well : t.WellFormed) (closed : t.Closed) (calls : List Call)
    (hosts : t.Hosts calls) :
    (t.performAll calls).WellFormed ∧ (t.performAll calls).Closed ∧
      t.Extends (t.performAll calls) := by
  induction calls generalizing t with
  | nil => exact ⟨well, closed, .refl t⟩
  | cons call rest ih =>
    obtain ⟨inside, others⟩ := hosts
    obtain ⟨well', closed'⟩ := kept_perform well closed inside
    obtain ⟨wellEnd, closedEnd, grown⟩ := ih well' closed' others
    exact ⟨wellEnd, closedEnd, (extends_perform well.contained inside).trans grown⟩

end Perform

theorem closed_empty : empty.Closed := by
  intro parent name child known
  simp [get_empty, Namespace.root] at known

theorem performAll_consistent (calls : List Call) (hosts : empty.Hosts calls) :
    let t := empty.performAll calls
    t.Consistent ∧
    (∀ call : Call, call.node < t.size →
      t.Extends (t.perform call) ∧ t.OnlyAddsNodes (t.perform call) ∧
        ∀ i name, ((t.perform call).get i).bindings.get? name =
          (call.bound? i name).or ((t.get i).bindings.get? name)) ∧
    ∀ node < t.size, ∀ segments,
      (∀ names, Namespace.idents segments = names.map .ok →
        ∃ last, (t.namespaceFor node segments).2 = .ok last ∧
          (t.namespaceFor node segments).1.descendTo? node names = some last) ∧
      ∀ again, Namespace.idents again = Namespace.idents segments →
        ∀ more, (t.namespaceFor node segments).1.Hosts more →
          let later := (t.namespaceFor node segments).1.performAll more
          later.namespaceFor node again = (later, (t.namespaceFor node segments).2) := by
  intro t
  obtain ⟨well, closed, _⟩ := kept_performAll wellFormed_empty closed_empty calls hosts
  have contained : t.Contained := well.contained
  refine ⟨consistent well closed, ?_, ?_⟩
  · intro call inside
    exact ⟨extends_perform contained inside, onlyAddsNodes_perform contained inside,
      binding_perform contained inside⟩
  · intro node inside segments
    constructor
    · intro names normalized
      rw [namespaceFor_eq_walk]
      refine walk_reaches contained inside ((named_iff _ _).mpr ?_)
      rw [map_name_segmentSteps, normalized]
    · intro again same more others
      obtain ⟨well', closed'⟩ := kept_walk well closed inside segments
      rw [← namespaceFor_eq_walk] at well' closed'
      obtain ⟨_, _, grown⟩ := kept_performAll well' closed' more others
      rw [namespaceFor_eq_walk t] at grown ⊢
      dsimp only
      rw [namespaceFor_eq_walk]
      refine walk_again contained inside ?_ grown
      rw [map_name_segmentSteps, map_name_segmentSteps, same]

/-- A path whose last segment gives no name, so that the call fails below two new namespaces; then
a binding in the second and a path from the first. -/
def harbourCalls : List Call :=
  [.namespaceFor 0 ["north sea", " ", "ports", "$"],
    .bind 2 "Ship" "NorthSea::Ports::Ship",
    .namespaceFor 1 ["light-house"]]

theorem performAll_consistent_harbour :
    empty.Hosts harbourCalls ∧
      let t := empty.performAll harbourCalls
      t.find? "NorthSea::LightHouse" = some 3 ∧
        let later := (t.namespaceFor 0 ["north sea", "quay"]).1
        later.namespaceFor 0 ["North_Sea", "Quay"] = (later, .ok 4) := by
  have hosts : empty.Hosts harbourCalls :=
    ⟨by decide, by decide +kernel, by decide +kernel, trivial⟩
  obtain ⟨consistent, _, walks⟩ := performAll_consistent harbourCalls hosts
  refine ⟨hosts, ?_, ?_⟩
  · have named : ((empty.performAll harbourCalls).get 3).qualifiedName =
        "NorthSea::LightHouse" := by decide +kernel
    rw [← named]
    exact consistent.found 3 (by decide +kernel)
  · have same : Namespace.idents ["North_Sea", "Quay"] =
        Namespace.idents ["north sea", "quay"] := by decide +kernel
    obtain ⟨_, again⟩ := walks 0 consistent.rooted ["north sea", "quay"]
    have reached : ((empty.performAll harbourCalls).namespaceFor 0 ["north sea", "quay"]).2 =
        .ok 4 := by decide +kernel
    rw [← reached]
    exact again ["North_Sea", "Quay"] same [] trivial

end NamespaceTree

end RecordSchema
