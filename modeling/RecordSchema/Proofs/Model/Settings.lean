import RecordSchema.Catalog
import RecordSchema.Proofs.Model.Reach

set_option autoImplicit false

/-!
What a parse reads of the store: the settings of the scalar types that the model leads to, and
nothing else.
-/

namespace RecordSchema

/-- Two stores that agree on every scalar type that a type leads to. -/
def TypeRef.SameSettings (t : TypeRef) (σ τ : Store) : Prop :=
  ∀ s, t.Reaches (.scalar s) → σ.settingsOf s = τ.settingsOf s

variable {σ τ : Store}

theorem TypeRef.SameSettings.of_refers {m : Model} {t : TypeRef}
    (same : (TypeRef.model m).SameSettings σ τ) (refers : m.Refers t) : t.SameSettings σ τ :=
  fun s further => same s (.through refers further)

theorem Scalar.parse_congr {s : Scalar} (same : σ.settingsOf s = τ.settingsOf s) :
    s.parse σ = s.parse τ := by
  funext raw
  rw [parse, parse, same]

theorem TypeRef.coerce_congr {t : TypeRef} (same : t.SameSettings σ τ)
    (records : ∀ m, t = .model m → m.parseFields σ = m.parseFields τ) :
    t.coerce σ = t.coerce τ := by
  funext raw
  cases t with
  | scalar s => rw [coerce, coerce, Scalar.parse_congr (same s (.self _))]
  | model m => rw [coerce, coerce, records m rfl]

theorem Attribute.resolve_congr {a : Attribute} (policy : ArrayNilPolicy)
    (parts : a.part σ = a.part τ) : a.resolve σ policy = a.resolve τ policy := by
  funext raw
  cases null : raw.isNull with
  | true =>
    obtain ⟨name, path, type?, isArray⟩ := a
    rw [resolve, resolve, if_pos null, if_pos null]
  | false => rw [a.resolve_eq σ policy null, a.resolve_eq τ policy null, parts]

theorem resolveFields_congr (owner : String) (policy : ArrayNilPolicy)
    {attributes : List Attribute}
    (each : ∀ a ∈ attributes, a.resolve σ policy = a.resolve τ policy) :
    resolveFields σ owner policy attributes = resolveFields τ owner policy attributes := by
  funext raw
  induction attributes with
  | nil => rfl
  | cons a rest ih =>
    have others := ih fun b member => each b (by simp [member])
    simp only [resolveFields, each a (by simp), others]

theorem Model.parseFields_congr (m : Model) (same : (TypeRef.model m).SameSettings σ τ) :
    m.parseFields σ = m.parseFields τ := by
  -- Stores that agree on all that a model leads to agree on all that its attributes lead to.
  induction m using Model.refers_induction with
  | step m ih =>
    funext raw
    rw [m.parseFields_eq, m.parseFields_eq]
    refine congrFun (resolveFields_congr _ _ fun a member => ?_) raw
    apply a.resolve_congr
    cases typed : a.type? with
    | none => rw [a.part_of_untyped σ typed, a.part_of_untyped τ typed]
    | some t =>
      have refers : m.Refers t := ⟨a, member, typed⟩
      rw [a.part_of_typed σ typed, a.part_of_typed τ typed]
      refine t.coerce_congr (same.of_refers refers) ?_
      rintro inner rfl
      exact ih inner refers (same.of_refers refers)

theorem Model.parse_congr (m : Model) (same : (TypeRef.model m).SameSettings σ τ) (raw : Json) :
    m.parse σ raw = m.parse τ raw := by
  rw [parse, parse, m.parseFields_congr same]

theorem Catalog.parse_congr (c : Catalog) (name : String)
    (same : ∀ m, c.model name = .ok m → (TypeRef.model m).SameSettings σ τ) (raw : Json) :
    c.parse σ name raw = c.parse τ name raw := by
  unfold parse
  cases found : c.model name with
  | error e => rfl
  | ok m => simp only [m.parse_congr (same m found) raw]

end RecordSchema
