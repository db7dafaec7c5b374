import RecordSchema.Catalog
import RecordSchema.Proofs.Compiler.Pass

set_option autoImplicit false

/-!
Building a catalog is one flat pass over the classes of a batch: when the pass succeeds, and what
every key of the catalog then means.
-/

namespace RecordSchema

/-- The classes of a file in the order of compilation. -/
def SchemaFile.classes (f : SchemaFile) : List ClassSite :=
  f.definition.classes (segmentSteps f.segments)

def SchemaFile.batchClasses (batch : List SchemaFile) : List ClassSite :=
  batch.flatMap SchemaFile.classes

namespace Catalog

variable {policy : ArrayNilPolicy}

/-- A batch is compiled in one run over its classes, from the root. -/
theorem compileBatch_ends (policy : ArrayNilPolicy) (c : Compilation) (contained : c.tree.Contained)
    (inside : 0 < c.tree.size) (batch : List SchemaFile) :
    ∃ made failure?, Scope.Ends policy 0 (SchemaFile.batchClasses batch) c.scope
        (compileBatch policy c batch).1.scope made failure? ∧
      ((compileBatch policy c batch).2 = none ↔ failure? = none) := by
  induction batch generalizing c with
  | nil => exact ⟨[], none, .finished .refl rfl, by simp [compileBatch]⟩
  | cons f rest ih =>
    obtain ⟨made, first⟩ := c.compileAt_ends policy contained inside f.segments f.definition
    obtain ⟨kept, left⟩ := first.run.leaves contained inside
    rw [compileBatch, SchemaFile.batchClasses, List.flatMap_cons]
    split
    next c' e failed =>
      rw [failed] at first
      exact ⟨made, some e, first.stopped_append _, by simp⟩
    next c' m compiled =>
      rw [compiled] at first kept left
      obtain ⟨more, failure?, others, same⟩ := ih c' kept (Nat.lt_of_lt_of_le inside left.grown.size)
      exact ⟨made ++ more, failure?, first.append others, same⟩

theorem compileBatch_agrees (policy : ArrayNilPolicy) (c : Compilation) (well : c.tree.WellFormed)
    (batch : List SchemaFile) :
    c.Agrees policy (compileBatch policy c batch).1 (SchemaFile.batchClasses batch)
      ((compileBatch policy c batch).2 = none) := by
  obtain ⟨made, failure?, ends, same⟩ :=
    compileBatch_ends policy c well.contained well.rooted batch
  rw [same]
  exact Compilation.agrees_of_ends well ends

/-- A batch builds exactly when its classes can be registered in turn, and then the types of the
catalog are those that the pass ends with. -/
theorem build_eq_ok_iff (r : TypeRegistry) (batch : List SchemaFile) (types : TypeContext) :
    (∃ c, (build r policy batch).value = .ok c ∧ c.types = types) ↔
      Registers policy r.seedContext (SchemaFile.batchClasses batch) types := by
  have agrees := compileBatch_agrees policy (.start r.seedContext)
    NamespaceTree.wellFormed_empty batch
  unfold build
  split
  next c e failed =>
    rw [failed] at agrees
    have stops := agrees.2 (by simp)
    constructor
    · rintro ⟨_, impossible, _⟩
      cases impossible
    · exact fun registered => absurd registered (stops.not_registers types)
  next c done =>
    rw [done] at agrees
    have registered := agrees.1 rfl
    constructor
    · rintro ⟨_, ⟨⟩, rfl⟩
      exact registered
    · exact fun other => ⟨_, rfl, registered.unique other⟩

/-- The first class under a key is not under a scalar name, so none is. -/
theorem not_contains_key (r : TypeRegistry) {sites : List ClassSite}
    (fine : ∀ earlier site later, sites = earlier ++ site :: later →
      ¬ (r.contains site.key = true ∧ site.key ∉ earlier.map ClassSite.key)) :
    ∀ site ∈ sites, ¬ r.contains site.key = true := by
  intro site member held
  obtain ⟨earlier, first, later, split, same, new⟩ :=
    exists_first (List.mem_map_of_mem (f := ClassSite.key) member)
  rw [← same] at held new
  exact fine earlier first later split ⟨held, new⟩

/-- After a pass from the scalars of a registry, its scalars and the classes so far are known. -/
theorem admissible_after_iff (r : TypeRegistry) (sites : List ClassSite) :
    (∀ earlier site later, sites = earlier ++ site :: later → site.Admissible
        (fun name => (typesAfter policy r.seedContext.get? earlier name).any TypeRef.isScalar = true)
        (fun name => (typesAfter policy r.seedContext.get? earlier name).isSome)) ↔
      ∀ earlier site later, sites = earlier ++ site :: later → site.Admissible
        (fun name => r.contains name = true)
        (fun name => r.contains name = true ∨ name ∈ earlier.map ClassSite.key) := by
  have known (earlier : List ClassSite) (name : String) :
      (typesAfter policy r.seedContext.get? earlier name).isSome ↔
        r.contains name = true ∨ name ∈ earlier.map ClassSite.key := by
    rw [isSome_typesAfter, r.isSome_seedContext]
  have scalar (earlier : List ClassSite) (name : String) :
      (typesAfter policy r.seedContext.get? earlier name).any TypeRef.isScalar = true ↔
        r.contains name = true ∧ name ∉ earlier.map ClassSite.key := by
    rw [isScalar_typesAfter, r.isScalar_seedContext]
  constructor
  · intro fine earlier site later split
    have own := fine earlier site later split
    have free := not_contains_key r (fun earlier site later split =>
      mt (scalar earlier site.key).mpr (fine earlier site later split).notScalar)
    exact ⟨own.named, own.whole, free site (by simp [split]), own.properties, own.distinct,
      fun p member name written =>
        (own.types p member name written).imp (known earlier _).mp (known earlier _).mp⟩
  · intro fine earlier site later split
    have own := fine earlier site later split
    exact ⟨own.named, own.whole, fun held => own.notScalar ((scalar earlier _).mp held).1,
      own.properties, own.distinct, fun p member name written =>
        (own.types p member name written).imp (known earlier _).mpr (known earlier _).mpr⟩

theorem build_eq_flat_pass (r : TypeRegistry) (policy : ArrayNilPolicy) (batch : List SchemaFile) :
    ((∃ c, (build r policy batch).value = .ok c) ↔
      (∀ site ∈ SchemaFile.batchClasses batch, ∀ step ∈ site.steps, ∃ name,
        step.name = .ok name) ∧
      ∀ earlier site later, SchemaFile.batchClasses batch = earlier ++ site :: later →
        site.Admissible (fun name => r.contains name = true)
          (fun name => r.contains name = true ∨ name ∈ earlier.map ClassSite.key)) ∧
    ∀ c, (build r policy batch).value = .ok c →
      (∀ key s, c.types.get? key = some (.scalar s) ↔ r.get? key = some s) ∧
      ∀ key m, c.types.get? key = some (.model m) ↔
        ∃ earlier site later, SchemaFile.batchClasses batch = earlier ++ site :: later ∧
          site.key = key ∧ key ∉ later.map ClassSite.key ∧
          m = site.model policy (typesAfter policy r.seedContext.get? earlier) := by
  have succeeds : (∃ c, (build r policy batch).value = .ok c) ↔
      ∃ types, Registers policy r.seedContext (SchemaFile.batchClasses batch) types := by
    simp only [← build_eq_ok_iff]
    constructor
    · rintro ⟨c, built⟩
      exact ⟨c.types, c, built, rfl⟩
    · rintro ⟨_, c, built, _⟩
      exact ⟨c, built⟩
  constructor
  · rw [succeeds, exists_registers_iff, admissible_after_iff]
    simp only [exists_named_iff]
  · intro c built
    have registered := (build_eq_ok_iff r batch c.types).mp ⟨c, built, rfl⟩
    have fine := (admissible_after_iff r _).mp
      ((exists_registers_iff r.seedContext _).mp ⟨_, registered⟩).2
    rw [registered.get?]
    refine ⟨fun key s => ?_, typesAfter_eq_model_iff policy _ r.seedContext_ne_model _⟩
    rw [typesAfter_eq_scalar_iff, r.get?_seedContext]
    constructor
    · rintro ⟨found, _⟩
      simpa using found
    · intro held
      refine ⟨by simp [held], ?_⟩
      rintro used
      obtain ⟨site, member, rfl⟩ := List.mem_map.mp used
      obtain ⟨earlier, later, split⟩ := List.append_of_mem member
      refine (fine earlier site later split).notScalar ?_
      have present : (r.get? site.key).isSome := by simp [held]
      exact present

end Catalog

end RecordSchema
