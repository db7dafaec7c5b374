import RecordSchema.Proofs.Compiler.Ends

set_option autoImplicit false

/-!
A run from the root as one pass over a flat list of classes, in terms of the contexts alone. A run
that stops has registered the classes before the first one that the pass cannot register.
-/

namespace RecordSchema

/-- The contexts before and after a list of classes that can all be registered in turn. -/
inductive Registers (policy : ArrayNilPolicy) :
    TypeContext → List ClassSite → TypeContext → Prop where
  | nil (context : TypeContext) : Registers policy context [] context
  | cons {context later : TypeContext} {site : ClassSite} {rest : List ClassSite}
      {names : List String} {m : Model} (named : Named site.steps names)
      (built : modelIn policy context (joined names) site.definition = .ok m)
      (others : Registers policy (context.register m.qualifiedName (.model m)) rest later) :
      Registers policy context (site :: rest) later

namespace Registers

variable {policy : ArrayNilPolicy}

theorem append {context middle later : TypeContext} {sites rest : List ClassSite}
    (first : Registers policy context sites middle) (second : Registers policy middle rest later) :
    Registers policy context (sites ++ rest) later := by
  induction first with
  | nil => exact second
  | cons named built _ ih => exact .cons named built (ih second)

theorem of_append {context later : TypeContext} {sites rest : List ClassSite}
    (all : Registers policy context (sites ++ rest) later) :
    ∃ middle, Registers policy context sites middle ∧ Registers policy middle rest later := by
  induction sites generalizing context with
  | nil => exact ⟨context, .nil context, all⟩
  | cons site sites ih =>
      cases all with
      | cons named built others =>
          obtain ⟨middle, first, second⟩ := ih others
          exact ⟨middle, .cons named built first, second⟩

theorem unique {context later other : TypeContext} {sites : List ClassSite}
    (one : Registers policy context sites later) (two : Registers policy context sites other) :
    later = other := by
  induction one with
  | nil => cases two; rfl
  | cons named built _ ih =>
      cases two with
      | cons named' built' others' =>
          have names := (filterMap_name named).symm.trans (filterMap_name named')
          subst names
          have models := Except.ok.inj (built.symm.trans built')
          subst models
          exact ih others'

end Registers

/-- What a failed compilation has registered: the classes before one that cannot be. -/
def Stops (policy : ArrayNilPolicy) (context : TypeContext) (sites : List ClassSite)
    (later : TypeContext) : Prop :=
  ∃ done site rest, sites = done ++ site :: rest ∧ Registers policy context done later ∧
    ∀ further, ¬ Registers policy later [site] further

variable {policy : ArrayNilPolicy}

theorem Stops.not_registers {context later : TypeContext} {sites : List ClassSite}
    (stops : Stops policy context sites later) :
    ∀ further, ¬ Registers policy context sites further := by
  obtain ⟨done, site, rest, rfl, before, stuck⟩ := stops
  intro further all
  obtain ⟨middle, first, second⟩ := all.of_append
  have same := first.unique before
  subst same
  cases second with
  | cons named built others => exact stuck _ (.cons named built (.nil _))

namespace Scope

variable {sites : List ClassSite} {s later : Scope} {made : List Registration}

theorem Run.wellFormed {origin : Nat} (run : Run policy origin sites s made later)
    (well : s.tree.WellFormed) (inside : origin < s.tree.size) : later.tree.WellFormed := by
  apply run.preserve (fun a => a.tree.WellFormed) ?_ ?_ well.contained inside well
  · rintro a node name below ⟨_, _, step, _, named⟩ kept
    exact NamespaceTree.wellFormed_findOrCreate kept below (NamespaceStep.filled named)
  · intro a r below _ kept
    exact NamespaceTree.wellFormed_bind kept r.node below _ _

/-- In a well-formed tree the namespace of a class from the root is named by its steps alone. -/
theorem modelAt_eq {names : List String} {node : Nat} (well : s.tree.WellFormed)
    (leads : s.tree.Leads names node) (policy : ArrayNilPolicy) (d : Definition) :
    s.modelAt policy node d = modelIn policy s.context (joined names) d := by
  rw [modelAt, Compilation.buildModel_eq]
  exact congrArg (fun place => modelIn policy s.context place d) (leads.qualifiedName well)

theorem Run.registers (run : Run policy 0 sites s made later) (well : s.tree.WellFormed) :
    Registers policy s.context (made.map Registration.site) later.context := by
  induction run with
  | refl => exact .nil _
  | enter _ _ _ _ _ _ ih => exact ih
  | register before r admitted ih =>
    obtain ⟨⟨names, named, leads⟩, built⟩ := admitted
    rw [modelAt_eq (before.wellFormed well well.rooted) leads] at built
    rw [List.map_append]
    exact ih.append (.cons named built (.nil _))

theorem Refuses.not_registers {site : ClassSite} {e : ModelError}
    (refuses : s.Refuses policy 0 site e) (well : s.tree.WellFormed) :
    ∀ further, ¬ Registers policy s.context [site] further := by
  intro further registered
  cases registered with
  | cons named built _ =>
    cases refuses with
    | unnamed step fault member refused => exact not_named member refused ⟨_, named⟩
    | unbuilt names node _ named' leads refused =>
      rw [modelAt_eq well leads, filterMap_name_eq named' named, built] at refused
      cases refused

end Scope

namespace Compilation

/-- A compilation has made exactly this of the classes it was given. -/
def Agrees (policy : ArrayNilPolicy) (c later : Compilation) (sites : List ClassSite)
    (succeeded : Prop) : Prop :=
  (succeeded → Registers policy c.context sites later.context) ∧
    (¬ succeeded → Stops policy c.context sites later.context)

theorem agrees_of_registers {c later : Compilation} {sites : List ClassSite} {succeeded : Prop}
    (done : succeeded) (registered : Registers policy c.context sites later.context) :
    c.Agrees policy later sites succeeded :=
  ⟨fun _ => registered, fun failed => absurd done failed⟩

theorem agrees_of_stops {c later : Compilation} {sites : List ClassSite} {succeeded : Prop}
    (failed : ¬ succeeded) (stops : Stops policy c.context sites later.context) :
    c.Agrees policy later sites succeeded :=
  ⟨fun done => absurd done failed, fun _ => stops⟩

theorem agrees_of_ends {c later : Compilation} {sites : List ClassSite}
    {made : List Registration} {failed? : Option ModelError} (well : c.tree.WellFormed)
    (ends : Scope.Ends policy 0 sites c.scope later.scope made failed?) :
    c.Agrees policy later sites (failed? = none) := by
  have registered := ends.run.registers well
  cases ends with
  | finished run all =>
    rw [all] at registered
    exact agrees_of_registers rfl registered
  | stopped run site rest split e refused =>
    have stuck := refused.not_registers (run.wellFormed well well.rooted)
    exact agrees_of_stops (by simp) ⟨_, site, rest, split, registered, stuck⟩

end Compilation

end RecordSchema
