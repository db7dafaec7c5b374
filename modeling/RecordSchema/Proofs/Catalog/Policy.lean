import RecordSchema.Catalog
import RecordSchema.Proofs.Model.Policy
import RecordSchema.Proofs.Compiler.Pass

set_option autoImplicit false

/-!
What the array policy has to do with a load. A batch compiles in the same way under every policy,
into models that differ in nothing else, so catalogs of the two policies parse alike.
-/

namespace RecordSchema

section Types

variable (policy : ArrayNilPolicy)

def TypeContext.withPolicy (context : TypeContext) : TypeContext :=
  ⟨context.entries.map fun _ t => t.withPolicy policy⟩

theorem TypeRef.isScalar_withPolicy (t : TypeRef) :
    (t.withPolicy policy).isScalar = t.isScalar := by
  cases t <;> rfl

namespace TypeContext

variable (context : TypeContext)

theorem get?_withPolicy (name : String) :
    (context.withPolicy policy).get? name =
      (context.get? name).map (TypeRef.withPolicy policy) := by
  rw [withPolicy, get?, KeyMap.get?_map]
  rfl

theorem keys_withPolicy : (context.withPolicy policy).keys = context.keys := by
  rw [withPolicy, keys, KeyMap.keys, KeyMap.map, List.map_map]
  rfl

theorem contains_withPolicy (name : String) :
    (context.withPolicy policy).contains name = context.contains name := by
  have known := congrArg Option.isSome (context.get?_withPolicy policy name)
  rwa [Option.isSome_map] at known

theorem any_isScalar_withPolicy (name : String) :
    ((context.withPolicy policy).get? name).any TypeRef.isScalar =
      (context.get? name).any TypeRef.isScalar := by
  rw [get?_withPolicy]
  cases context.get? name with
  | none => rfl
  | some t => exact t.isScalar_withPolicy policy

theorem register_withPolicy (key : String) (t : TypeRef) :
    (context.register key t).withPolicy policy =
      (context.withPolicy policy).register key (t.withPolicy policy) := by
  rw [withPolicy, withPolicy, register, register, TypeContext.mk.injEq]
  refine KeyMap.ext_get? fun name => ?_
  rw [KeyMap.get?_map, KeyMap.get?_insert, KeyMap.get?_insert, KeyMap.get?_map]
  split <;> rfl

theorem lookup_withPolicy (name namespaceName : String) :
    (context.withPolicy policy).lookup name namespaceName =
      (context.lookup name namespaceName).map (TypeRef.withPolicy policy) := by
  unfold lookup suggest?
  rw [get?_withPolicy, get?_withPolicy, keys_withPolicy]
  cases context.get? name with
  | some t => rfl
  | none => cases context.get? (qualify namespaceName name) <;> rfl

end TypeContext

theorem TypeRegistry.seedContext_withPolicy (r : TypeRegistry) :
    r.seedContext.withPolicy policy = r.seedContext := by
  have same : (r.seedContext.withPolicy policy).entries = r.seedContext.entries := by
    refine KeyMap.ext_get? fun name => ?_
    have seeded := r.get?_seedContext name
    have changed := r.seedContext.get?_withPolicy policy name
    rw [seeded, Option.map_map] at changed
    exact changed.trans seeded.symm
  exact congrArg TypeContext.mk same

theorem Property.resolveType_withPolicy (p : Property) (context : TypeContext)
    (namespaceName : String) :
    p.resolveType (context.withPolicy policy) namespaceName =
      (p.resolveType context namespaceName).map (Option.map (TypeRef.withPolicy policy)) := by
  unfold resolveType
  cases p.typeName.bind Text.nonBlank? with
  | none => rfl
  | some name =>
    simp only [context.lookup_withPolicy policy]
    cases context.lookup name namespaceName <;> rfl

theorem buildAttributes_withPolicy (owner namespaceName : String) (context : TypeContext)
    (seen : List String) (properties : List Property) :
    buildAttributes owner namespaceName (context.withPolicy policy) seen properties =
      (buildAttributes owner namespaceName context seen properties).map
        (List.map (Attribute.withPolicy policy)) := by
  induction properties generalizing seen with
  | nil => rfl
  | cons p rest ih =>
    rw [buildAttributes, buildAttributes]
    cases p.fault? owner seen with
    | some fault => rfl
    | none =>
      simp only [p.resolveType_withPolicy policy, ih]
      cases p.resolveType context namespaceName with
      | error e => rfl
      | ok type? =>
        cases buildAttributes owner namespaceName context (p.name :: seen) rest with
        | error e => rfl
        | ok attributes => cases type? <;> rfl

end Types

namespace Compilation

variable (policy : ArrayNilPolicy)

def withPolicy (c : Compilation) : Compilation :=
  { c with context := c.context.withPolicy policy }

variable (c : Compilation)

theorem enter_withPolicy (segments : List String) :
    (c.withPolicy policy).enter segments =
      ((c.enter segments).1.withPolicy policy, (c.enter segments).2) := rfl

theorem enterVersion_withPolicy (node : Nat) (d : Definition) :
    (c.withPolicy policy).enterVersion node d =
      ((c.enterVersion node d).1.withPolicy policy, (c.enterVersion node d).2) := by
  unfold enterVersion
  cases d.version.bind Text.nonBlank? <;> rfl

theorem descend_withPolicy (node : Nat) (d : Definition) :
    (c.withPolicy policy).descend node d =
      ((c.descend node d).1.withPolicy policy, (c.descend node d).2) := by
  unfold descend
  cases d.schemaName.bind Text.nonBlank? with
  | none => simp only [c.enterVersion_withPolicy policy]
  | some schema =>
    simp only
    cases Namespace.ident schema with
    | error fault => rfl
    | ok name =>
      have inside := (c.inTree (c.tree.findOrCreate node name).1).enterVersion_withPolicy policy
        (c.tree.findOrCreate node name).2 d
      exact congrArg (fun entered => (entered.1, Except.ok entered.2)) inside

theorem buildModel_withPolicy (other : ArrayNilPolicy) (node : Nat) (d : Definition) :
    (c.withPolicy policy).buildModel policy node d =
      (c.buildModel other node d).map (Model.withPolicy policy) := by
  unfold buildModel
  cases d.validClassName with
  | error fault => rfl
  | ok className =>
    simp only [withPolicy, c.context.any_isScalar_withPolicy policy,
      buildAttributes_withPolicy policy]
    split
    next => rfl
    next =>
      cases buildAttributes _ _ c.context [] d.properties with
      | error e => rfl
      | ok attributes =>
        refine congrArg Except.ok ?_
        rw [Model.withPolicy, allWithPolicy_eq_map]

theorem register_withPolicy (node : Nat) (m : Model) :
    (c.withPolicy policy).register node (m.withPolicy policy) =
      (c.register node m).withPolicy policy := by
  simp only [register, registrationLog, withPolicy, TypeContext.contains_withPolicy,
    TypeContext.register_withPolicy, TypeRef.withPolicy, Model.className_withPolicy,
    Model.qualifiedName_withPolicy, Model.attributes_withPolicy, List.length_map]

-- The induction is on the definition: each class is built from contexts that differ in the policy
-- of their models alone.
mutual

theorem compile_withPolicy (other : ArrayNilPolicy) (c : Compilation) (node : Nat) :
    ∀ d : Definition, compile policy (c.withPolicy policy) node d =
      ((compile other c node d).1.withPolicy policy,
        (compile other c node d).2.map (Model.withPolicy policy))
  | ⟨schemaName, version, nested, className, properties⟩ => by
    rw [compile_eq, compile_eq, descend_withPolicy]
    cases entered : c.descend node ⟨schemaName, version, nested, className, properties⟩ with
    | mk c' result =>
      cases result with
      | error e => rfl
      | ok last =>
        simp only [compileAll_withPolicy other c' last nested]
        cases compiled : compileAll other c' last nested with
        | mk c'' failed? =>
          cases failed? with
          | some e => rfl
          | none =>
            simp only [c''.buildModel_withPolicy policy other]
            cases c''.buildModel other last _ with
            | error e => rfl
            | ok m => exact Prod.ext (c''.register_withPolicy policy last m) rfl

theorem compileAll_withPolicy (other : ArrayNilPolicy) (c : Compilation) (node : Nat) :
    ∀ ds : List Definition, compileAll policy (c.withPolicy policy) node ds =
      ((compileAll other c node ds).1.withPolicy policy, (compileAll other c node ds).2)
  | [] => rfl
  | d :: rest => by
    rw [compileAll, compileAll, compile_withPolicy other c node d]
    cases compile other c node d with
    | mk c' result =>
      cases result with
      | error e => rfl
      | ok m => exact compileAll_withPolicy other c' node rest

end

theorem compileAt_withPolicy (other : ArrayNilPolicy) (segments : List String) (d : Definition) :
    (c.withPolicy policy).compileAt policy segments d =
      ((c.compileAt other segments d).1.withPolicy policy,
        (c.compileAt other segments d).2.map (Model.withPolicy policy)) := by
  unfold compileAt
  rw [enter_withPolicy]
  cases c.enter segments with
  | mk c' result =>
    cases result with
    | error e => rfl
    | ok node => exact compile_withPolicy policy other c' node d

end Compilation

namespace Catalog

def withPolicy (policy : ArrayNilPolicy) (c : Catalog) : Catalog :=
  { c with types := c.types.withPolicy policy }

theorem compileBatch_withPolicy (policy other : ArrayNilPolicy) (c : Compilation)
    (batch : List SchemaFile) :
    compileBatch policy (c.withPolicy policy) batch =
      ((compileBatch other c batch).1.withPolicy policy, (compileBatch other c batch).2) := by
  induction batch generalizing c with
  | nil => rfl
  | cons f rest ih =>
    rw [compileBatch, compileBatch, c.compileAt_withPolicy policy other]
    cases c.compileAt other f.segments f.definition with
    | mk c' result =>
      cases result with
      | error e => rfl
      | ok m => exact ih c'

theorem build_withPolicy (r : TypeRegistry) (policy other : ArrayNilPolicy)
    (batch : List SchemaFile) :
    build r policy batch = (build r other batch).map (Except.map (withPolicy policy)) := by
  have start : (Compilation.start r.seedContext).withPolicy policy = .start r.seedContext := by
    rw [Compilation.withPolicy, Compilation.start, r.seedContext_withPolicy]
  have compiled := compileBatch_withPolicy policy other (.start r.seedContext) batch
  rw [start] at compiled
  unfold build
  rw [compiled]
  cases compileBatch other (.start r.seedContext) batch with
  | mk c failed? => cases failed? <;> rfl

theorem model_withPolicy (policy : ArrayNilPolicy) (c : Catalog) (name : String) :
    (c.withPolicy policy).model name = (c.model name).map (Model.withPolicy policy) := by
  unfold model
  rw [withPolicy, TypeContext.get?_withPolicy]
  rcases c.types.get? name with _ | s | m <;> rfl

theorem parse_withPolicy (c : Catalog) (σ : Store) (name : String) (raw : Json) :
    Logged.Related Eq
      (fun record record' => ∃ m, c.model name = .ok m ∧ m.RecordsAgree σ raw record record')
      ((c.withPolicy .wrapNil).parse σ name raw) ((c.withPolicy .empty).parse σ name raw) := by
  unfold parse
  rw [model_withPolicy, model_withPolicy]
  cases c.model name with
  | error e => exact .error rfl
  | ok m =>
    have records := m.parse_agree σ raw
    refine (records.mono fun _ _ agree => ⟨m, rfl, agree⟩).mapError fun _ _ same => ?_
    rw [same]

/-- The same error, or two catalogs that differ in the policy of their models alone and parse every
input alike: with the same error, or into records that agree but for the lists of missing data. -/
theorem policies_differ_in_wrappers (r : TypeRegistry) (batch : List SchemaFile) :
    Logged.Related Eq
      (fun c c' => c' = c.withPolicy .empty ∧ ∀ σ name raw, Logged.Related Eq
        (fun record record' => ∃ m, c.model name = .ok m ∧ m.RecordsAgree σ raw record record')
        (c.parse σ name raw) (c'.parse σ name raw))
      (build r .wrapNil batch) (build r .empty batch) := by
  have own := congrArg Logged.value (build_withPolicy r .wrapNil .wrapNil batch)
  rw [build_withPolicy r .empty .wrapNil batch]
  refine ⟨?_, rfl⟩
  rw [Logged.value_map] at own ⊢
  cases built : (build r .wrapNil batch).value with
  | error e => exact .inr ⟨e, e, rfl, rfl, rfl⟩
  | ok c =>
    rw [built] at own
    have same : c = c.withPolicy .wrapNil := Except.ok.inj own
    refine .inl ⟨c, c.withPolicy .empty, rfl, rfl, rfl, fun σ name raw => ?_⟩
    have parsed := c.parse_withPolicy σ name raw
    rwa [← same] at parsed

end Catalog

end RecordSchema
