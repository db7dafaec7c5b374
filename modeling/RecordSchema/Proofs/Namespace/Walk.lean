import RecordSchema.Proofs.Namespace.Paths
import RecordSchema.Proofs.Namespace.Idents
import Mathlib.Data.List.Forall2

set_option autoImplicit false

/-!
Going down by texts. Each text becomes a name, or none, and the namespaces of the names are entered
one below the other. A walk again by texts that become the same names ends in the same way and
changes nothing.
-/

namespace RecordSchema

/-- A trimmed text that leads into a namespace: a path segment or a schema, or a version. -/
inductive NamespaceStep where
  | segment (text : String)
  | version (text : String)

def NamespaceStep.name : NamespaceStep → Except DefinitionFault String
  | segment text => Namespace.ident text
  | version text => .ok (Namespace.versionSegment text)

abbrev Named : List NamespaceStep → List String → Prop :=
  List.Forall₂ fun step name => step.name = .ok name

def segmentSteps (segments : List String) : List NamespaceStep :=
  (segments.filterMap Text.nonBlank?).map .segment

theorem NamespaceStep.filled {step : NamespaceStep} {name : String} (named : step.name = .ok name) :
    name ≠ "" := by
  cases step with
  | segment text => exact Namespace.ident_filled named
  | version text =>
    cases named
    exact Namespace.versionSegment_filled text

theorem filterMap_name {steps : List NamespaceStep} {names : List String}
    (all : Named steps names) : steps.filterMap (fun step => step.name.toOption) = names := by
  induction all with
  | nil => rfl
  | cons first _ ih => rw [List.filterMap_cons_some (by rw [first]; rfl), ih]

theorem filterMap_name_eq {steps : List NamespaceStep} {names others : List String}
    (all : Named steps names) (again : Named steps others) : names = others :=
  (filterMap_name all).symm.trans (filterMap_name again)

theorem mem_named {steps : List NamespaceStep} {names : List String} (all : Named steps names)
    {name : String} (member : name ∈ names) : ∃ step ∈ steps, step.name = .ok name := by
  induction all with
  | nil => simp at member
  | cons first _ ih =>
    rcases List.mem_cons.mp member with rfl | later
    · exact ⟨_, by simp, first⟩
    · obtain ⟨step, listed, own⟩ := ih later
      exact ⟨step, by simp [listed], own⟩

theorem exists_named_iff (steps : List NamespaceStep) :
    (∃ names, Named steps names) ↔ ∀ step ∈ steps, ∃ name, step.name = .ok name := by
  induction steps with
  | nil => exact ⟨by simp, fun _ => ⟨[], .nil⟩⟩
  | cons step rest ih =>
      simp only [List.mem_cons, forall_eq_or_imp, ← ih]
      constructor
      · rintro ⟨names, all⟩
        cases all with
        | cons first others => exact ⟨⟨_, first⟩, ⟨_, others⟩⟩
      · rintro ⟨⟨name, first⟩, ⟨names, others⟩⟩
        exact ⟨name :: names, .cons first others⟩

theorem not_named {steps : List NamespaceStep} {step : NamespaceStep} {fault : DefinitionFault}
    (member : step ∈ steps) (refused : step.name = .error fault) :
    ¬ ∃ names, Named steps names := by
  intro all
  obtain ⟨name, accepted⟩ := (exists_named_iff steps).mp all step member
  rw [refused] at accepted
  cases accepted

theorem named_append {steps more : List NamespaceStep} {names others : List String}
    (first : Named steps names) (second : Named more others) :
    Named (steps ++ more) (names ++ others) :=
  List.rel_append first second

namespace NamespaceTree

/-- Goes down by steps; what was entered before a step that gives no name stays. -/
def walk (t : NamespaceTree) (node : Nat) :
    List NamespaceStep → NamespaceTree × Except DefinitionFault Nat
  | [] => (t, .ok node)
  | step :: rest =>
      match step.name with
      | .error fault => (t, .error fault)
      | .ok name => (t.findOrCreate node name).1.walk (t.findOrCreate node name).2 rest

theorem walk_of_refused {t : NamespaceTree} {node : Nat} {step : NamespaceStep}
    {fault : DefinitionFault} (refused : step.name = .error fault) (rest : List NamespaceStep) :
    t.walk node (step :: rest) = (t, .error fault) := by
  rw [walk, refused]

theorem walk_of_named {t : NamespaceTree} {node : Nat} {step : NamespaceStep} {name : String}
    (named : step.name = .ok name) (rest : List NamespaceStep) :
    t.walk node (step :: rest) =
      (t.findOrCreate node name).1.walk (t.findOrCreate node name).2 rest := by
  rw [walk, named]

theorem namespaceFor_eq_walk (t : NamespaceTree) (node : Nat) (segments : List String) :
    t.namespaceFor node segments = t.walk node (segmentSteps segments) := by
  induction segments generalizing t node with
  | nil => rfl
  | cons segment rest ih =>
    rw [namespaceFor, segmentSteps]
    cases filled : Text.nonBlank? segment with
    | none =>
      rw [List.filterMap_cons_none filled]
      exact ih t node
    | some trimmed =>
      rw [List.filterMap_cons_some filled, List.map_cons, walk]
      change (match Namespace.ident trimmed with | .error _ => _ | .ok _ => _) =
        (match Namespace.ident trimmed with | .error _ => _ | .ok _ => _)
      cases Namespace.ident trimmed with
      | error fault => rfl
      | ok name => exact ih _ _

variable {t : NamespaceTree} {node : Nat} {steps : List NamespaceStep}

theorem findOrCreate_leads (contained : t.Contained) (inside : node < t.size) (name : String) :
    (t.findOrCreate node name).1.Contained ∧
      ((t.findOrCreate node name).1.get node).children.get? name =
        some (t.findOrCreate node name).2 ∧
      (t.findOrCreate node name).2 < (t.findOrCreate node name).1.size := by
  have contained' : (t.findOrCreate node name).1.Contained :=
    contained_findOrCreate contained inside
  have linked : ((t.findOrCreate node name).1.get node).children.get? name =
      some (t.findOrCreate node name).2 := child_findOrCreate inside
  exact ⟨contained', linked, contained' node name _ linked⟩

/-- What entering a namespace keeps, a walk keeps. -/
theorem walk_preserve (P : NamespaceTree → Prop) (contained : t.Contained) (inside : node < t.size)
    (enter : ∀ (a : NamespaceTree) (parent : Nat) (name : String), parent < a.size →
      (∃ step ∈ steps, step.name = .ok name) → P a → P (a.findOrCreate parent name).1)
    (start : P t) : P (t.walk node steps).1 := by
  induction steps generalizing t node with
  | nil => exact start
  | cons step rest ih =>
    cases own : step.name with
    | error fault => rwa [walk_of_refused own]
    | ok name =>
      rw [walk_of_named own]
      obtain ⟨contained', _, below⟩ := findOrCreate_leads contained inside name
      refine ih contained' below ?_
        (enter t node name inside ⟨step, by simp, own⟩ start)
      rintro a parent other within ⟨later, listed, named⟩ kept
      exact enter a parent other within ⟨later, by simp [listed], named⟩ kept

theorem extends_walk (contained : t.Contained) (inside : node < t.size)
    (steps : List NamespaceStep) : t.Extends (t.walk node steps).1 :=
  walk_preserve t.Extends contained inside
    (fun _ _ _ below _ kept => kept.trans (extends_findOrCreate below)) (.refl t)

theorem contained_walk (contained : t.Contained) (inside : node < t.size)
    (steps : List NamespaceStep) : (t.walk node steps).1.Contained :=
  walk_preserve Contained contained inside
    (fun _ _ _ below _ kept => contained_findOrCreate kept below) contained

theorem named_of_walk {last : Nat} (reached : (t.walk node steps).2 = .ok last) :
    ∃ names, Named steps names := by
  induction steps generalizing t node with
  | nil => exact ⟨[], .nil⟩
  | cons step rest ih =>
    cases own : step.name with
    | error fault =>
      rw [walk_of_refused own] at reached
      cases reached
    | ok name =>
      rw [walk_of_named own] at reached
      obtain ⟨names, others⟩ := ih reached
      exact ⟨name :: names, .cons own others⟩

theorem refused_of_walk {fault : DefinitionFault} (failed : (t.walk node steps).2 = .error fault) :
    ∃ step ∈ steps, step.name = .error fault := by
  induction steps generalizing t node with
  | nil => cases failed
  | cons step rest ih =>
    cases own : step.name with
    | error other =>
      rw [walk_of_refused own] at failed
      cases failed
      exact ⟨step, by simp, own⟩
    | ok name =>
      rw [walk_of_named own] at failed
      obtain ⟨later, listed, refused⟩ := ih failed
      exact ⟨later, by simp [listed], refused⟩

/-- Steps that all give names are gone down to the end, where the names lead from then on. -/
theorem walk_reaches (contained : t.Contained) (inside : node < t.size) {names : List String}
    (named : Named steps names) :
    ∃ last, (t.walk node steps).2 = .ok last ∧
      (t.walk node steps).1.descendTo? node names = some last := by
  induction named generalizing t node with
  | nil => exact ⟨node, rfl, rfl⟩
  | @cons step name rest others own _ ih =>
    rw [walk_of_named own]
    obtain ⟨contained', linked, below⟩ := findOrCreate_leads contained inside name
    obtain ⟨last, reached, leads⟩ := ih contained' below
    refine ⟨last, reached, ?_⟩
    rw [descendTo?, (extends_walk contained' below rest).child _ _ _ linked]
    exact leads

theorem entered_of_walk (contained : t.Contained) (inside : node < t.size) {last : Nat}
    (reached : (t.walk node steps).2 = .ok last) {later : NamespaceTree}
    (walked : later = (t.walk node steps).1) :
    later.Contained ∧ t.Extends later ∧ last < later.size ∧
      ∃ names, Named steps names ∧ later.descendTo? node names = some last := by
  subst walked
  obtain ⟨names, named⟩ := named_of_walk reached
  obtain ⟨other, again, leads⟩ := walk_reaches contained inside named
  obtain rfl : last = other := Except.ok.inj (reached.symm.trans again)
  have contained' := contained_walk contained inside steps
  have grown := extends_walk contained inside steps
  exact ⟨contained', grown, contained'.inside (Nat.lt_of_lt_of_le inside grown.size) leads, names,
    named, leads⟩

/-- In a tree that has grown since, steps with the same names end as they ended before. -/
theorem walk_again (contained : t.Contained) (inside : node < t.size) {again : List NamespaceStep}
    (same : again.map NamespaceStep.name = steps.map NamespaceStep.name) {later : NamespaceTree}
    (grown : (t.walk node steps).1.Extends later) :
    later.walk node again = (later, (t.walk node steps).2) := by
  induction steps generalizing t node again with
  | nil =>
    obtain rfl := List.map_eq_nil_iff.mp same
    rfl
  | cons step rest ih =>
    obtain ⟨other, others, rfl, first, tail⟩ := List.map_eq_cons_iff.mp same
    cases own : step.name with
    | error fault => rw [walk_of_refused own, walk_of_refused (first.trans own)]
    | ok name =>
      rw [walk_of_named own] at grown ⊢
      obtain ⟨contained', linked, below⟩ := findOrCreate_leads contained inside name
      have kept := grown.child _ _ _ ((extends_walk contained' below rest).child _ _ _ linked)
      rw [walk_of_named (first.trans own), findOrCreate_of_some kept]
      exact ih contained' below tail grown

end NamespaceTree

end RecordSchema
