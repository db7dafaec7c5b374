import RecordSchema.Proofs.Model.Records

set_option autoImplicit false

/-!
The types that a type leads to through the attributes of models. References never form a circle, so
what holds of a model whenever it holds of the models it refers to holds of all models.
-/

namespace RecordSchema

theorem Model.sizeOf_lt_of_refers {m inner : Model} (refers : m.Refers (.model inner)) :
    sizeOf inner < sizeOf m := by
  obtain ⟨a, member, typed⟩ := refers
  have listed := List.sizeOf_lt_of_mem member
  obtain ⟨name, path, type?, isArray⟩ := a
  obtain ⟨className, namespaceName, qualifiedName, policy, attributes⟩ := m
  simp only [Attribute.type?] at typed
  subst typed
  simp only [Model.attributes, Attribute.mk.sizeOf_spec, Option.some.sizeOf_spec,
    TypeRef.model.sizeOf_spec] at listed
  simp only [Model.mk.sizeOf_spec]
  omega

@[elab_as_elim]
theorem Model.refers_induction {motive : Model → Prop}
    (step : ∀ m, (∀ inner, m.Refers (.model inner) → motive inner) → motive m) (m : Model) :
    motive m :=
  step m fun inner _ => refers_induction step inner
termination_by sizeOf m
decreasing_by
  exact sizeOf_lt_of_refers ‹_›

inductive TypeRef.Reaches : TypeRef → TypeRef → Prop where
  | self (t : TypeRef) : Reaches t t
  | through {m : Model} {t last : TypeRef} (refers : m.Refers t) (further : Reaches t last) :
      Reaches (.model m) last

/-- A type and all types that it leads to are of one kind. -/
def TypeRef.Throughout (P : TypeRef → Prop) (t : TypeRef) : Prop := ∀ last, t.Reaches last → P last

theorem TypeRef.Throughout.own {P : TypeRef → Prop} {t : TypeRef} (all : t.Throughout P) : P t :=
  all t (.self t)

theorem TypeRef.Throughout.of_refers {P : TypeRef → Prop} {m : Model} {t : TypeRef}
    (all : (TypeRef.model m).Throughout P) (refers : m.Refers t) : t.Throughout P :=
  fun last further => all last (.through refers further)

theorem TypeRef.throughout_scalar_iff (P : TypeRef → Prop) (s : Scalar) :
    (TypeRef.scalar s).Throughout P ↔ P (.scalar s) := by
  constructor
  · exact TypeRef.Throughout.own
  · intro own last reaches
    cases reaches
    exact own

theorem TypeRef.throughout_model_iff (P : TypeRef → Prop) (m : Model) :
    (TypeRef.model m).Throughout P ↔
      P (.model m) ∧ ∀ a ∈ m.attributes, ∀ t, a.type? = some t → t.Throughout P := by
  constructor
  · intro all
    exact ⟨all.own, fun a member t typed => all.of_refers ⟨a, member, typed⟩⟩
  · rintro ⟨own, others⟩ last reaches
    cases reaches with
    | self => exact own
    | through refers further =>
      obtain ⟨a, member, typed⟩ := refers
      exact others a member _ typed last further

end RecordSchema
