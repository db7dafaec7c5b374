import RecordSchema.Proofs.Catalog.Build
import RecordSchema.Proofs.Compiler.Failure

set_option autoImplicit false

/-!
The failure of a batch is that of its first file that does not compile after those before it, and
the failure of a compilation is that of its first class.
-/

namespace RecordSchema.Catalog

variable {policy : ArrayNilPolicy}

theorem compileBatch_cons_of_error {c : Compilation} {f : SchemaFile} {e : ModelError}
    (failed : (c.compileAt policy f.segments f.definition).2 = .error e) (rest : List SchemaFile) :
    (compileBatch policy c (f :: rest)).2 = some (.source f.location e) := by
  rw [compileBatch]
  split
  next c' other result =>
    rw [result] at failed
    rw [Except.error.inj failed]
  next c' m result =>
    rw [result] at failed
    cases failed

theorem compileBatch_cons_of_ok {c : Compilation} {f : SchemaFile} {m : Model}
    (compiled : (c.compileAt policy f.segments f.definition).2 = .ok m) (rest : List SchemaFile) :
    compileBatch policy c (f :: rest) =
      compileBatch policy (c.compileAt policy f.segments f.definition).1 rest := by
  rw [compileBatch]
  split
  next c' e result =>
    rw [result] at compiled
    cases compiled
  next c' other result => rw [result]

theorem compileBatch_failed_iff (c : Compilation) (batch : List SchemaFile) (error : ModelError) :
    (compileBatch policy c batch).2 = some error ↔
      ∃ before f after middle e, batch = before ++ f :: after ∧
        compileBatch policy c before = (middle, none) ∧
        (middle.compileAt policy f.segments f.definition).2 = .error e ∧
        error = .source f.location e := by
  -- The first file fails and so is the one of every split, or it is passed and part of what is before.
  induction batch generalizing c with
  | nil => simp [compileBatch]
  | cons f rest ih =>
    simp only [List.cons_eq_append_iff]
    cases result : (c.compileAt policy f.segments f.definition).2 with
    | error e =>
      rw [compileBatch_cons_of_error result]
      constructor
      · intro same
        exact ⟨[], f, rest, c, e, .inl ⟨rfl, rfl⟩, rfl, result, (Option.some.inj same).symm⟩
      · rintro ⟨before, g, after, middle, d, ⟨rfl, split⟩ | ⟨tail, rfl, _⟩, passed, failed, rfl⟩
        · obtain ⟨rfl, rfl⟩ := List.cons.inj split
          cases passed
          rw [result] at failed
          rw [Except.error.inj failed]
        · have stopped := compileBatch_cons_of_error result tail
          rw [passed] at stopped
          cases stopped
    | ok m =>
      rw [compileBatch_cons_of_ok result, ih]
      constructor
      · rintro ⟨before, g, after, middle, d, rfl, passed, failed, same⟩
        refine ⟨f :: before, g, after, middle, d, .inr ⟨before, rfl, rfl⟩, ?_, failed, same⟩
        rw [compileBatch_cons_of_ok result, passed]
      · rintro ⟨before, g, after, middle, d, ⟨rfl, split⟩ | ⟨tail, rfl, rfl⟩, passed, failed, same⟩
        · obtain ⟨rfl, rfl⟩ := List.cons.inj split
          cases passed
          rw [result] at failed
          cases failed
        · rw [compileBatch_cons_of_ok result] at passed
          exact ⟨tail, g, after, middle, d, rfl, passed, failed, same⟩

theorem build_eq_error_iff (r : TypeRegistry) (batch : List SchemaFile) (error : ModelError) :
    (build r policy batch).value = .error error ↔
      (compileBatch policy (.start r.seedContext) batch).2 = some error := by
  unfold build
  split
  next c e failed => simp [failed]
  next c done => simp [done]

theorem failures_leave_prefix :
    (∀ (c : Compilation) (q : Compilation.Request) (e : ModelError), c.tree.Contained →
      q.origin < c.tree.size → (c.perform q).2 = .error e →
      ∃ made site rest, q.classes = made.map Registration.site ++ site :: rest ∧
        Scope.Leaves q.policy q.origin c.scope made (c.perform q).1.scope ∧
        (c.perform q).1.scope.Refuses q.policy q.origin site e ∧
        ∃ outers, q.enclosed[made.length]? = some (site, outers) ∧
          ∀ outer ∈ outers, outer ∈ rest) ∧
    ∀ (r : TypeRegistry) (policy : ArrayNilPolicy) (batch : List SchemaFile) (error : ModelError),
      (build r policy batch).value = .error error ↔
        ∃ before f after c e, batch = before ++ f :: after ∧
          compileBatch policy (.start r.seedContext) before = (c, none) ∧
          (c.compileAt policy f.segments f.definition).2 = .error e ∧
          error = .source f.location e := by
  constructor
  · intro c q e contained inside failed
    exact c.perform_failed contained q inside failed
  · intro r policy batch error
    rw [build_eq_error_iff, compileBatch_failed_iff]

/-- A class with two nested ones, of which the second has no name. -/
def harbour : Definition :=
  ⟨none, some "2", [⟨none, none, [], "Berth", []⟩, ⟨none, none, [], "", []⟩], "Harbour", []⟩

theorem failures_leave_prefix_harbour :
    let c := Compilation.start (TypeRegistry.create .empty).1.seedContext
    let q : Compilation.Request := .atPath .wrapNil ["ports"] harbour
    c.tree.Contained ∧ q.origin < c.tree.size ∧ ∃ e, (c.perform q).2 = .error e ∧
      ∃ made site rest, q.classes = made.map Registration.site ++ site :: rest ∧
        Scope.Leaves .wrapNil 0 c.scope made (c.perform q).1.scope ∧
        (c.perform q).1.scope.Refuses .wrapNil 0 site e := by
  intro c q
  have contained : c.tree.Contained := NamespaceTree.wellFormed_empty.contained
  have inside : q.origin < c.tree.size := by decide
  have fails : (c.perform q).2.isOk = false := by decide +kernel
  cases result : (c.perform q).2 with
  | ok m =>
    rw [result] at fails
    cases fails
  | error e =>
    obtain ⟨made, site, rest, split, leaves, refused, _⟩ :=
      failures_leave_prefix.1 c q e contained inside result
    exact ⟨contained, inside, e, rfl, made, site, rest, split, leaves, refused⟩

end RecordSchema.Catalog
