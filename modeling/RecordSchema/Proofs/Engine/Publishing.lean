import RecordSchema.Engine

set_option autoImplicit false

/-!
What an engine publishes over a run of operations, whichever of its reloads fail.
-/

namespace RecordSchema

/-- A change that is asked of an engine; a source is given by what loading it gives. -/
inductive Operation where
  | reload (description : String) (loaded : Logged (Except ModelError (List SchemaFile)))
  | reloadBatch (batch : List SchemaFile)
  | registerType (name : String) (s : Scalar)

namespace Operation

/-- The batch to compile, if there is one and it could be loaded. -/
def batch? : Operation → Option (List SchemaFile)
  | reload _ loaded => loaded.value.toOption
  | reloadBatch batch => some batch
  | registerType _ _ => none

def register (types : TypeRegistry) : Operation → TypeRegistry
  | registerType name s => types.register name s
  | _ => types

/-- The types once the registrations among the operations are made; reloads only read them. -/
def registered (types : TypeRegistry) (ops : List Operation) : TypeRegistry :=
  ops.foldl register types

theorem register_of_batch? {op : Operation} {batch : List SchemaFile}
    (given : op.batch? = some batch) (types : TypeRegistry) : op.register types = types := by
  cases op with
  | registerType name s => cases given
  | reload description loaded => rfl
  | reloadBatch batch => rfl

/-- No operation has a batch that builds with the types of its moment. -/
def NoneBuilds (policy : ArrayNilPolicy) (types : TypeRegistry) (ops : List Operation) : Prop :=
  ∀ before op after batch c, ops = before ++ op :: after → op.batch? = some batch →
    (Catalog.build (registered types before) policy batch).value ≠ .ok c

/-- The last operation with a batch that builds, and what it builds with the types of its
moment. -/
def LastBuilds (policy : ArrayNilPolicy) (types : TypeRegistry) (ops : List Operation)
    (c : Catalog) : Prop :=
  ∃ before op after batch, ops = before ++ op :: after ∧ op.batch? = some batch ∧
    (Catalog.build (registered types before) policy batch).value = .ok c ∧
    NoneBuilds policy (registered types (before ++ [op])) after

variable {policy : ArrayNilPolicy} {types : TypeRegistry} {op : Operation} {rest : List Operation}

theorem noneBuilds_cons :
    NoneBuilds policy types (op :: rest) ↔
      (∀ batch c, op.batch? = some batch → (Catalog.build types policy batch).value ≠ .ok c) ∧
        NoneBuilds policy (op.register types) rest := by
  constructor
  · intro none
    constructor
    · intro batch c given
      exact none [] op rest batch c rfl given
    · rintro before other after batch c rfl given
      exact none (op :: before) other after batch c rfl given
  · rintro ⟨first, others⟩ before other after batch c split given
    cases before with
    | nil =>
        obtain ⟨rfl, rfl⟩ := List.cons.inj split
        exact first batch c given
    | cons head before =>
        obtain ⟨rfl, rfl⟩ := List.cons.inj split
        exact others before other after batch c rfl given

theorem LastBuilds.cons {c : Catalog} (last : LastBuilds policy (op.register types) rest c) :
    LastBuilds policy types (op :: rest) c := by
  obtain ⟨before, other, after, batch, rfl, given, built, none⟩ := last
  exact ⟨op :: before, other, after, batch, rfl, given, built, none⟩

end Operation

namespace Engine

/-- An engine after an operation, and the answer if it was a reload. -/
def perform (e : Engine) : Operation → Engine × Option (Except ModelError Catalog)
  | .reload description loaded =>
      ((e.reload description loaded).1, some (e.reload description loaded).2.value)
  | .reloadBatch batch => ((e.reloadBatch batch).1, some (e.reloadBatch batch).2.value)
  | .registerType name s => (e.registerType name s, none)

def run (e : Engine) (ops : List Operation) : Engine :=
  ops.foldl (fun e op => (e.perform op).1) e

def publish (e : Engine) (c : Catalog) : Engine :=
  { e with current := ⟨e.current.number + 1, c⟩ }

/-- All that an operation can do: publish what it builds, fail and change nothing, or register a
type. -/
inductive Outcome (e : Engine) (op : Operation) :
    Engine × Option (Except ModelError Catalog) → Prop where
  | published (batch : List SchemaFile) (c : Catalog) (given : op.batch? = some batch)
      (built : (Catalog.build e.types e.policy batch).value = .ok c) :
      Outcome e op (e.publish c, some (.ok c))
  | failed (error : ModelError) (reads : ∀ types, op.register types = types)
      (unbuilt : ∀ batch c, op.batch? = some batch →
        (Catalog.build e.types e.policy batch).value ≠ .ok c) :
      Outcome e op (e, some (.error error))
  | registered (name : String) (s : Scalar) (same : op = .registerType name s) :
      Outcome e op (e.registerType name s, none)

theorem reloadBatch_of_ok {e : Engine} {batch : List SchemaFile} {c : Catalog}
    (built : (Catalog.build e.types e.policy batch).value = .ok c) :
    (e.reloadBatch batch).1 = e.publish c ∧ (e.reloadBatch batch).2.value = .ok c := by
  constructor <;> simp [reloadBatch, built, publish]

theorem reloadBatch_of_error {e : Engine} {batch : List SchemaFile} {error : ModelError}
    (refused : (Catalog.build e.types e.policy batch).value = .error error) :
    (e.reloadBatch batch).1 = e ∧ (e.reloadBatch batch).2.value = .error error := by
  constructor <;> simp [reloadBatch, refused]

theorem outcome_reloadBatch (e : Engine) (op : Operation) (batch : List SchemaFile)
    (given : op.batch? = some batch) :
    Outcome e op ((e.reloadBatch batch).1, some (e.reloadBatch batch).2.value) := by
  cases result : (Catalog.build e.types e.policy batch).value with
  | ok c =>
      obtain ⟨after, answer⟩ := reloadBatch_of_ok result
      rw [after, answer]
      exact .published batch c given result
  | error error =>
      obtain ⟨after, answer⟩ := reloadBatch_of_error result
      rw [after, answer]
      refine .failed error (Operation.register_of_batch? given) ?_
      intro other c given' built
      have same : batch = other := Option.some.inj (given.symm.trans given')
      subst same
      rw [result] at built
      cases built

theorem outcome_perform (e : Engine) (op : Operation) : Outcome e op (e.perform op) := by
  cases op with
  | registerType name s => exact .registered name s rfl
  | reloadBatch batch => exact outcome_reloadBatch e _ batch rfl
  | reload description loaded =>
      cases result : loaded.value with
      | error error =>
          have unread : e.perform (.reload description loaded) = (e, some (.error error)) := by
            simp [perform, reload, result]
          rw [unread]
          refine .failed error (fun _ => rfl) ?_
          intro batch c given
          simp [Operation.batch?, result, Except.toOption] at given
      | ok batch =>
          have read : e.perform (.reload description loaded) =
              ((e.reloadBatch batch).1, some (e.reloadBatch batch).2.value) := by
            simp [perform, reload, result]
          rw [read]
          apply outcome_reloadBatch
          simp [Operation.batch?, result, Except.toOption]

theorem types_perform (e : Engine) (op : Operation) :
    (e.perform op).1.types = op.register e.types := by
  have outcome := outcome_perform e op
  generalize e.perform op = result at outcome
  cases outcome with
  | published batch c given built => exact (Operation.register_of_batch? given e.types).symm
  | failed error reads unbuilt => exact (reads e.types).symm
  | registered name s same => rw [same]; rfl

theorem policy_perform (e : Engine) (op : Operation) : (e.perform op).1.policy = e.policy := by
  have outcome := outcome_perform e op
  generalize e.perform op = result at outcome
  cases outcome <;> rfl

theorem run_cons (e : Engine) (op : Operation) (rest : List Operation) :
    e.run (op :: rest) = (e.perform op).1.run rest := rfl

theorem types_run (e : Engine) (ops : List Operation) :
    (e.run ops).types = Operation.registered e.types ops := by
  induction ops generalizing e with
  | nil => rfl
  | cons op rest ih =>
      rw [run_cons, ih, types_perform]
      rfl

theorem policy_run (e : Engine) (ops : List Operation) : (e.run ops).policy = e.policy := by
  induction ops generalizing e with
  | nil => rfl
  | cons op rest ih => rw [run_cons, ih, policy_perform]

theorem perform_ok_iff (e : Engine) (op : Operation) (c : Catalog) :
    (e.perform op).2 = some (.ok c) ↔ ∃ batch, op.batch? = some batch ∧
      (Catalog.build e.types e.policy batch).value = .ok c := by
  have outcome := outcome_perform e op
  generalize e.perform op = result at outcome
  cases outcome with
  | published batch other given built =>
      constructor
      · rintro ⟨⟩
        exact ⟨batch, given, built⟩
      · rintro ⟨batch', given', built'⟩
        have same : batch' = batch := Option.some.inj (given'.symm.trans given)
        rw [same, built] at built'
        rw [Except.ok.inj built']
  | failed error reads unbuilt =>
      constructor
      · rintro ⟨⟩
      · rintro ⟨batch, given, built⟩
        exact absurd built (unbuilt batch c given)
  | registered name s same =>
      constructor
      · rintro ⟨⟩
      · rintro ⟨batch, given, _⟩
        rw [same] at given
        cases given

theorem catalog_perform (e : Engine) (op : Operation) (c : Catalog)
    (answer : (e.perform op).2 = some (.ok c)) : (e.perform op).1.current.catalog = c := by
  have outcome := outcome_perform e op
  generalize e.perform op = result at outcome answer
  cases outcome with
  | published batch other given built => exact Except.ok.inj (Option.some.inj answer)
  | failed error reads unbuilt => cases answer
  | registered name s same => cases answer

theorem perform_error (e : Engine) (op : Operation) (error : ModelError)
    (answer : (e.perform op).2 = some (.error error)) : (e.perform op).1 = e := by
  have outcome := outcome_perform e op
  generalize e.perform op = result at outcome answer
  cases outcome with
  | published batch c given built => cases answer
  | failed error reads unbuilt => rfl
  | registered name s same => cases answer

theorem run_of_noneBuilds (e : Engine) (ops : List Operation)
    (none : Operation.NoneBuilds e.policy e.types ops) : (e.run ops).current = e.current := by
  induction ops generalizing e with
  | nil => rfl
  | cons op rest ih =>
      obtain ⟨first, others⟩ := Operation.noneBuilds_cons.mp none
      rw [← types_perform, ← policy_perform e op] at others
      rw [run_cons, ih _ others]
      have outcome := outcome_perform e op
      generalize e.perform op = result at outcome
      cases outcome with
      | published batch c given built => exact absurd built (first batch c given)
      | failed error reads unbuilt => rfl
      | registered name s same => rfl

theorem run_published (e : Engine) (ops : List Operation) :
    Operation.NoneBuilds e.policy e.types ops ∨
      Operation.LastBuilds e.policy e.types ops (e.run ops).current.catalog := by
  induction ops generalizing e with
  | nil => exact .inl fun before op after batch c split => by simp at split
  | cons op rest ih =>
      -- The first operation counts only when no later one builds.
      have later := ih (e.perform op).1
      rw [types_perform, policy_perform] at later
      rw [run_cons]
      rcases later with none | last
      next =>
        by_cases builds : ∃ batch c, op.batch? = some batch ∧
            (Catalog.build e.types e.policy batch).value = .ok c
        next =>
          obtain ⟨batch, c, given, built⟩ := builds
          have answer := (perform_ok_iff e op c).mpr ⟨batch, given, built⟩
          have quiet : Operation.NoneBuilds (e.perform op).1.policy (e.perform op).1.types rest := by
            rwa [types_perform, policy_perform]
          rw [run_of_noneBuilds _ _ quiet, catalog_perform e op c answer]
          exact .inr ⟨[], op, rest, batch, rfl, given, built, none⟩
        next =>
          refine .inl (Operation.noneBuilds_cons.mpr ⟨?_, none⟩)
          intro batch c given built
          exact builds ⟨batch, c, given, built⟩
      next => exact .inr last.cons

theorem parse_of_noneBuilds (e : Engine) (ops : List Operation)
    (none : Operation.NoneBuilds e.policy e.types ops) (σ : Store) (name : String) (raw : Json) :
    (e.run ops).parse σ name raw = e.parse σ name raw := by
  rw [parse, run_of_noneBuilds e ops none]
  rfl

theorem published_by_last_reload (types : TypeRegistry) (policy : ArrayNilPolicy)
    (ops : List Operation) :
    let e := (create types policy).run ops
    e.types = Operation.registered types ops ∧
      ((Operation.NoneBuilds policy types ops ∧ e.current.catalog = .empty types) ∨
        Operation.LastBuilds policy types ops e.current.catalog) ∧
      (∀ op c, (e.perform op).2 = some (.ok c) ↔ ∃ batch, op.batch? = some batch ∧
        (Catalog.build e.types policy batch).value = .ok c) ∧
      (∀ op error, (e.perform op).2 = some (.error error) → (e.perform op).1 = e) ∧
      ∀ more, Operation.NoneBuilds policy e.types more →
        (e.run more).current = e.current ∧
          ∀ σ name raw, (e.run more).parse σ name raw = e.parse σ name raw := by
  intro e
  have same : e.policy = policy := policy_run (create types policy) ops
  refine ⟨types_run (create types policy) ops, ?_, ?_, ?_, ?_⟩
  · by_cases none : Operation.NoneBuilds policy types ops
    · have kept := run_of_noneBuilds (create types policy) ops none
      exact .inl ⟨none, congrArg Publication.catalog kept⟩
    · have published := run_published (create types policy) ops
      exact .inr (published.resolve_left none)
  · intro op c
    rw [← same]
    exact perform_ok_iff e op c
  · exact perform_error e
  · intro more none
    rw [← same] at none
    exact ⟨run_of_noneBuilds e more none, parse_of_noneBuilds e more none⟩

end Engine

end RecordSchema
