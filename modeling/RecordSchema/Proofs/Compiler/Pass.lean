import RecordSchema.Registry
import RecordSchema.Proofs.Compiler.Flat
import Mathlib.Logic.Function.Basic

set_option autoImplicit false

/-!
The pass over a list of classes in terms of the classes before each one: when it succeeds, and what
each name means after it.
-/

namespace RecordSchema

/-- What names mean once classes are registered one after the other. -/
def typesAfter (policy : ArrayNilPolicy) (start : String → Option TypeRef)
    (sites : List ClassSite) : String → Option TypeRef :=
  sites.foldl (fun known site =>
    Function.update known site.key (some (.model (site.model policy known)))) start

section TypesAfter

variable (policy : ArrayNilPolicy) (start : String → Option TypeRef)

theorem typesAfter_append (sites more : List ClassSite) :
    typesAfter policy start (sites ++ more) =
      typesAfter policy (typesAfter policy start sites) more := by
  simp [typesAfter]

theorem typesAfter_of_not_mem {sites : List ClassSite} {key : String}
    (free : key ∉ sites.map ClassSite.key) :
    typesAfter policy start sites key = start key := by
  induction sites generalizing start with
  | nil => rfl
  | cons site rest ih =>
      simp only [List.map_cons, List.mem_cons, not_or] at free
      rw [show typesAfter policy start (site :: rest) = typesAfter policy
        (Function.update start site.key (some (.model (site.model policy start)))) rest from rfl,
        ih _ free.2, Function.update_of_ne free.1]

theorem typesAfter_of_last (earlier later : List ClassSite) (site : ClassSite)
    (last : site.key ∉ later.map ClassSite.key) :
    typesAfter policy start (earlier ++ site :: later) site.key =
      some (.model (site.model policy (typesAfter policy start earlier))) := by
  rw [List.append_cons, typesAfter_append, typesAfter_of_not_mem _ _ last, typesAfter_append]
  exact Function.update_self ..

theorem exists_last {sites : List ClassSite} {key : String}
    (used : key ∈ sites.map ClassSite.key) :
    ∃ earlier site later, sites = earlier ++ site :: later ∧ site.key = key ∧
      key ∉ later.map ClassSite.key := by
  induction sites with
  | nil => simp at used
  | cons site rest ih =>
      by_cases again : key ∈ rest.map ClassSite.key
      · obtain ⟨earlier, last, later, rfl, same, free⟩ := ih again
        exact ⟨site :: earlier, last, later, rfl, same, free⟩
      · have same : key = site.key := by simpa [again] using used
        exact ⟨[], site, rest, rfl, same.symm, again⟩

theorem exists_first {sites : List ClassSite} {key : String}
    (used : key ∈ sites.map ClassSite.key) :
    ∃ earlier site later, sites = earlier ++ site :: later ∧ site.key = key ∧
      key ∉ earlier.map ClassSite.key := by
  induction sites with
  | nil => simp at used
  | cons site rest ih =>
      by_cases same : site.key = key
      · exact ⟨[], site, rest, rfl, same, by simp⟩
      · obtain ⟨earlier, first, later, rfl, own, free⟩ :=
          ih (by simpa [Ne.symm same] using used)
        exact ⟨site :: earlier, first, later, rfl, own, by simpa [Ne.symm same] using free⟩

theorem isSome_typesAfter (sites : List ClassSite) (key : String) :
    (typesAfter policy start sites key).isSome ↔
      (start key).isSome ∨ key ∈ sites.map ClassSite.key := by
  by_cases used : key ∈ sites.map ClassSite.key
  · obtain ⟨earlier, site, later, rfl, rfl, free⟩ := exists_last used
    simp only [typesAfter_of_last policy start earlier later site free, Option.isSome_some, used,
      or_true]
  · simp [typesAfter_of_not_mem policy start used, used]

theorem typesAfter_eq_model_iff (models : ∀ key m, start key ≠ some (.model m))
    (sites : List ClassSite) (key : String) (m : Model) :
    typesAfter policy start sites key = some (.model m) ↔
      ∃ earlier site later, sites = earlier ++ site :: later ∧ site.key = key ∧
        key ∉ later.map ClassSite.key ∧ m = site.model policy (typesAfter policy start earlier) := by
  constructor
  · intro found
    by_cases used : key ∈ sites.map ClassSite.key
    · obtain ⟨earlier, site, later, rfl, rfl, free⟩ := exists_last used
      rw [typesAfter_of_last policy start earlier later site free] at found
      exact ⟨earlier, site, later, rfl, rfl, free, by simpa using found.symm⟩
    · rw [typesAfter_of_not_mem policy start used] at found
      exact absurd found (models key m)
  · rintro ⟨earlier, site, later, rfl, rfl, free, rfl⟩
    exact typesAfter_of_last policy start earlier later site free

theorem typesAfter_eq_scalar_iff (sites : List ClassSite) (key : String) (s : Scalar) :
    typesAfter policy start sites key = some (.scalar s) ↔
      start key = some (.scalar s) ∧ key ∉ sites.map ClassSite.key := by
  by_cases used : key ∈ sites.map ClassSite.key
  · obtain ⟨earlier, site, later, rfl, rfl, free⟩ := exists_last used
    simp only [typesAfter_of_last policy start earlier later site free, Option.some.injEq,
      reduceCtorEq, used, not_true, and_false]
  · simp [typesAfter_of_not_mem policy start used, used]

theorem isScalar_typesAfter (sites : List ClassSite) (key : String) :
    (typesAfter policy start sites key).any TypeRef.isScalar = true ↔
      (start key).any TypeRef.isScalar = true ∧ key ∉ sites.map ClassSite.key := by
  by_cases used : key ∈ sites.map ClassSite.key
  · obtain ⟨earlier, site, later, rfl, rfl, free⟩ := exists_last used
    simp only [typesAfter_of_last policy start earlier later site free, Option.any_some,
      TypeRef.isScalar, Bool.false_eq_true, used, not_true, and_false]
  · simp [typesAfter_of_not_mem policy start used, used]

end TypesAfter

theorem TypeContext.get?_register (context : TypeContext) (key : String) (type : TypeRef) :
    (context.register key type).get? = Function.update context.get? key (some type) := by
  funext name
  simp [TypeContext.register, TypeContext.get?, Function.update_apply]

theorem TypeRegistry.get?_seedContext (r : TypeRegistry) (name : String) :
    r.seedContext.get? name = (r.get? name).map .scalar := by
  simp [TypeRegistry.seedContext, TypeContext.get?, TypeRegistry.get?]

theorem TypeRegistry.isSome_seedContext (r : TypeRegistry) (name : String) :
    (r.seedContext.get? name).isSome = r.contains name := by
  rw [get?_seedContext, Option.isSome_map]
  rfl

theorem TypeRegistry.seedContext_ne_model (r : TypeRegistry) (key : String) (m : Model) :
    r.seedContext.get? key ≠ some (.model m) := by
  rw [get?_seedContext]
  cases r.get? key <;> simp

theorem TypeRegistry.isScalar_seedContext (r : TypeRegistry) (name : String) :
    (r.seedContext.get? name).any TypeRef.isScalar = r.contains name := by
  rw [get?_seedContext, contains, KeyMap.contains]
  unfold TypeRegistry.get?
  cases r.descriptors.get? name <;> rfl

variable {policy : ArrayNilPolicy}

theorem Registers.cons_iff {context later : TypeContext} {site : ClassSite}
    {rest : List ClassSite} :
    Registers policy context (site :: rest) later ↔
      (∃ names, Named site.steps names) ∧
      site.Admissible (fun name => (context.get? name).any TypeRef.isScalar = true)
        (fun name => (context.get? name).isSome) ∧
      Registers policy
        (context.register site.key (.model (site.model policy context.get?))) rest later := by
  constructor
  · rintro (_ | ⟨named, built, others⟩)
    have place := filterMap_name named
    subst place
    obtain ⟨fine, rfl⟩ := (site.modelIn_eq_ok_iff policy context _).mp built
    exact ⟨⟨_, named⟩, fine, others⟩
  · rintro ⟨⟨names, named⟩, fine, others⟩
    have place := filterMap_name named
    subst place
    exact .cons named ((site.modelIn_eq_ok_iff policy context _).mpr ⟨fine, rfl⟩) others

theorem Registers.get? {context later : TypeContext} {sites : List ClassSite}
    (all : Registers policy context sites later) :
    later.get? = typesAfter policy context.get? sites := by
  induction sites generalizing context with
  | nil => cases all; rfl
  | cons site rest ih =>
      obtain ⟨_, _, others⟩ := cons_iff.mp all
      rw [ih others, TypeContext.get?_register]
      rfl

/-- The pass succeeds exactly when each class is admissible after the classes before it. -/
theorem exists_registers_iff (context : TypeContext) (sites : List ClassSite) :
    (∃ later, Registers policy context sites later) ↔
      (∀ site ∈ sites, ∃ names, Named site.steps names) ∧
      ∀ earlier site later, sites = earlier ++ site :: later →
        site.Admissible
          (fun name => (typesAfter policy context.get? earlier name).any TypeRef.isScalar = true)
          (fun name => (typesAfter policy context.get? earlier name).isSome) := by
  induction sites generalizing context with
  | nil => exact ⟨fun _ => ⟨by simp, by simp⟩, fun _ => ⟨context, .nil context⟩⟩
  | cons site rest ih =>
      have next := TypeContext.get?_register context site.key
        (.model (site.model policy context.get?))
      constructor
      -- A split of the whole list is at its head, or is one of the rest in the context after it.
      · rintro ⟨later, all⟩
        obtain ⟨named, fine, others⟩ := Registers.cons_iff.mp all
        obtain ⟨restNamed, restFine⟩ := (ih _).mp ⟨later, others⟩
        refine ⟨by simpa using ⟨named, restNamed⟩, ?_⟩
        rintro earlier other further split
        cases earlier with
        | nil =>
            obtain ⟨rfl, rfl⟩ := List.cons.inj split
            exact fine
        | cons first earlier =>
            obtain ⟨rfl, rfl⟩ := List.cons.inj split
            have admissible := restFine earlier other further rfl
            rw [next] at admissible
            exact admissible
      · rintro ⟨named, fine⟩
        have restFine := (ih (context.register site.key (.model (site.model policy context.get?)))).mpr
          ⟨fun other member => named other (by simp [member]), by
            rintro earlier other further rfl
            rw [next]
            exact fine (site :: earlier) other further rfl⟩
        obtain ⟨later, others⟩ := restFine
        exact ⟨later, Registers.cons_iff.mpr
          ⟨named site (by simp), fine [] site rest rfl, others⟩⟩

end RecordSchema
