import RecordSchema.Proofs.Compiler.Classes
import RecordSchema.Proofs.Success
import Mathlib.Data.List.Nodup

set_option autoImplicit false

/-!
When the model of a class is built, and which model that is.
-/

namespace RecordSchema

/-- The model of a class in a namespace, from the types of a context. -/
def modelIn (policy : ArrayNilPolicy) (context : TypeContext) (namespaceName : String)
    (d : Definition) : Except ModelError Model :=
  match d.validClassName with
  | .error fault => .error (.invalidDefinition fault)
  | .ok className =>
      let key := qualify namespaceName className
      if (context.get? key).any TypeRef.isScalar then
        .error (.invalidDefinition (.replacesScalar key))
      else
        (buildAttributes key namespaceName context [] d.properties).map
          (.mk className namespaceName key policy)

theorem Compilation.buildModel_eq (c : Compilation) (policy : ArrayNilPolicy) (node : Nat)
    (d : Definition) :
    c.buildModel policy node d = modelIn policy c.context (c.tree.get node).qualifiedName d := rfl

theorem Definition.validClassName_eq_ok_iff (d : Definition) (name : String) :
    d.validClassName = .ok name ↔ Text.isBlankText d.className = false ∧
      name = Text.trim d.className ∧ ¬ separator.toList <:+: name.toList := by
  rw [← hasSeparator_iff]
  unfold Definition.validClassName
  by_cases blank : Text.isBlankText d.className = true
  · have nothing : Text.nonBlank? d.className = none := by simp [Text.nonBlank?, blank]
    simp [nothing, blank]
  · have trimmed : Text.nonBlank? d.className = some (Text.trim d.className) := by
      simp [Text.nonBlank?, blank]
    rw [trimmed]
    simp only [Bool.not_eq_true] at blank
    by_cases split : hasSeparator (Text.trim d.className).toList = true
    · simp only [split, if_true, reduceCtorEq, false_iff, not_and, not_not]
      rintro _ rfl
      exact split
    · simp only [split, Bool.false_eq_true, if_false, Except.ok.injEq, blank, true_and]
      constructor
      · rintro rfl
        exact ⟨rfl, split⟩
      · exact fun h => h.1.symm

theorem resolved_isSome (known : String → Option TypeRef) (namespaceName name : String) :
    (resolved known namespaceName name).isSome ↔
      (known name).isSome ∨ (known (qualify namespaceName name)).isSome := by
  simp [resolved, Option.isSome_or]

theorem Property.fault?_eq_none_iff (p : Property) (owner : String) (seen : List String) :
    p.fault? owner seen = none ↔
      Text.isBlankText p.name = false ∧ p.name ∉ seen ∧ p.path ≠ [] := by
  unfold Property.fault?
  by_cases blank : Text.isBlankText p.name = true <;>
    by_cases again : p.name ∈ seen <;> by_cases empty : p.path = [] <;>
      simp [blank, again, empty]

theorem TypeContext.lookup_eq_ok_iff (context : TypeContext) (name namespaceName : String)
    (type : TypeRef) :
    context.lookup name namespaceName = .ok type ↔
      resolved context.get? namespaceName name = some type := by
  unfold TypeContext.lookup resolved
  cases context.get? name with
  | some found => simp
  | none => cases context.get? (qualify namespaceName name) <;> simp

theorem Property.resolveType_eq_ok_iff (p : Property) (context : TypeContext)
    (namespaceName : String) (type? : Option TypeRef) :
    p.resolveType context namespaceName = .ok type? ↔
      (∀ name, p.typeName.bind Text.nonBlank? = some name →
        (resolved context.get? namespaceName name).isSome) ∧
      type? = (p.typeName.bind Text.nonBlank?).bind (resolved context.get? namespaceName) := by
  unfold Property.resolveType
  cases p.typeName.bind Text.nonBlank? with
  | none =>
      simp only [Except.ok.injEq, reduceCtorEq, false_implies, implies_true, Option.bind_none,
        true_and]
      exact eq_comm
  | some name =>
      simp only [map_eq_ok_iff, TypeContext.lookup_eq_ok_iff, Option.some.injEq, forall_eq',
        Option.bind_some]
      constructor
      · rintro ⟨type, known, rfl⟩
        exact ⟨by simp [known], known.symm⟩
      · rintro ⟨known, rfl⟩
        obtain ⟨type, found⟩ := Option.isSome_iff_exists.mp known
        exact ⟨type, found, found.symm⟩

/-- A property that becomes an attribute of a class: it is named, has a path, and its type is
known. -/
def Property.Sound (p : Property) (known : String → Option TypeRef) (namespaceName : String) :
    Prop :=
  Text.isBlankText p.name = false ∧ p.path ≠ [] ∧
    ∀ name, p.typeName.bind Text.nonBlank? = some name → (resolved known namespaceName name).isSome

theorem buildAttributes_cons_eq_ok_iff (owner namespaceName : String) (context : TypeContext)
    (seen : List String) (p : Property) (rest : List Property) (attributes : List Attribute) :
    buildAttributes owner namespaceName context seen (p :: rest) = .ok attributes ↔
      p.fault? owner seen = none ∧
        ∃ type?, p.resolveType context namespaceName = .ok type? ∧
          ∃ others,
            buildAttributes owner namespaceName context (p.name :: seen) rest = .ok others ∧
            .mk p.name p.path type? p.isArray :: others = attributes := by
  rw [buildAttributes]
  cases p.fault? owner seen with
  | some fault => simp
  | none => simp only [bind_eq_ok_iff, map_eq_ok_iff, true_and]

theorem buildAttributes_eq_ok_iff (owner namespaceName : String) (context : TypeContext)
    (seen : List String) (properties : List Property) (attributes : List Attribute) :
    buildAttributes owner namespaceName context seen properties = .ok attributes ↔
      (∀ p ∈ properties, p.Sound context.get? namespaceName) ∧
      (properties.map Property.name).Nodup ∧ (∀ p ∈ properties, p.name ∉ seen) ∧
      attributes = properties.map fun p => p.attribute context.get? namespaceName := by
  induction properties generalizing seen attributes with
  | nil => simp [buildAttributes, eq_comm]
  | cons p rest ih =>
      -- A name that is fresh for the rest is neither the first one nor seen before it.
      have apart : (∀ q ∈ rest, q.name ∉ p.name :: seen) ↔
          p.name ∉ rest.map Property.name ∧ ∀ q ∈ rest, q.name ∉ seen := by
        simp only [List.mem_cons, not_or, List.mem_map, not_exists, not_and]
        exact forall₂_and
      simp only [buildAttributes_cons_eq_ok_iff, Property.fault?_eq_none_iff,
        Property.resolveType_eq_ok_iff, ih, apart]
      simp only [List.mem_cons, forall_eq_or_imp, List.map_cons, List.nodup_cons]
      constructor
      · rintro ⟨⟨filled, fresh, path⟩, _, ⟨known, rfl⟩, _, ⟨sound, distinct, ⟨new, unseen⟩, rfl⟩, rfl⟩
        exact ⟨⟨⟨filled, path, known⟩, sound⟩, ⟨new, distinct⟩, ⟨fresh, unseen⟩, rfl⟩
      · rintro ⟨⟨⟨filled, path, known⟩, sound⟩, ⟨new, distinct⟩, ⟨fresh, unseen⟩, rfl⟩
        exact ⟨⟨filled, fresh, path⟩, _, ⟨known, rfl⟩, _, ⟨sound, distinct, ⟨new, unseen⟩, rfl⟩, rfl⟩

theorem modelIn_eq_ok_iff (policy : ArrayNilPolicy) (context : TypeContext)
    (namespaceName : String) (d : Definition) (m : Model) :
    modelIn policy context namespaceName d = .ok m ↔
      ∃ className, d.validClassName = .ok className ∧
        ¬ (context.get? (qualify namespaceName className)).any TypeRef.isScalar = true ∧
        ∃ attributes, buildAttributes (qualify namespaceName className) namespaceName context []
            d.properties = .ok attributes ∧
          .mk className namespaceName (qualify namespaceName className) policy attributes = m := by
  unfold modelIn
  cases d.validClassName with
  | error fault => simp
  | ok className =>
      simp only [Except.ok.injEq, exists_eq_left']
      split
      next scalar => simp [scalar]
      next free =>
        rw [map_eq_ok_iff]
        simp [free]

theorem modelIn_names {policy : ArrayNilPolicy} {context : TypeContext} {namespaceName : String}
    {d : Definition} {m : Model} (built : modelIn policy context namespaceName d = .ok m) :
    ¬ separator.toList <:+: m.className.toList ∧ m.namespaceName = namespaceName ∧
      m.qualifiedName = qualify namespaceName m.className := by
  obtain ⟨className, valid, _, attributes, _, rfl⟩ := (modelIn_eq_ok_iff ..).mp built
  obtain ⟨_, _, whole⟩ := (d.validClassName_eq_ok_iff className).mp valid
  exact ⟨whole, rfl, rfl⟩

/-- The model of a class is built exactly when its class is admissible, and then it is the one
that the class means. -/
theorem ClassSite.modelIn_eq_ok_iff (site : ClassSite) (policy : ArrayNilPolicy)
    (context : TypeContext) (m : Model) :
    modelIn policy context site.namespaceName site.definition = .ok m ↔
      site.Admissible (fun name => (context.get? name).any TypeRef.isScalar = true)
        (fun name => (context.get? name).isSome) ∧ m = site.model policy context.get? := by
  simp only [RecordSchema.modelIn_eq_ok_iff, Definition.validClassName_eq_ok_iff,
    buildAttributes_eq_ok_iff, Property.Sound, resolved_isSome]
  constructor
  · rintro ⟨_, ⟨named, rfl, whole⟩, free, _, ⟨sound, distinct, _, rfl⟩, rfl⟩
    exact ⟨⟨named, whole, free, fun p member => ⟨(sound p member).1, (sound p member).2.1⟩,
      distinct, fun p member => (sound p member).2.2⟩, rfl⟩
  · rintro ⟨⟨named, whole, free, properties, distinct, types⟩, rfl⟩
    exact ⟨_, ⟨named, rfl, whole⟩, free, _, ⟨fun p member =>
      ⟨(properties p member).1, (properties p member).2, types p member⟩, distinct, by simp, rfl⟩,
      rfl⟩

end RecordSchema
