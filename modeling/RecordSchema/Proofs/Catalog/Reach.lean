import RecordSchema.Proofs.Catalog.References
import RecordSchema.Proofs.Model.Reach
import RecordSchema.Proofs.Registry

set_option autoImplicit false

/-!
The types that a model of a catalog leads to: scalar types of the registry, and models whose fields
have distinct names.
-/

namespace RecordSchema

namespace TypeRegistry

variable {r : TypeRegistry} {policy : ArrayNilPolicy}

-- A reference is to a class before the referring one, so each step of the way stays in the list.
theorem reached_of_refers {sites : List ClassSite} {t last : TypeRef} (reaches : t.Reaches last)
    {earlier later : List ClassSite} {site : ClassSite} (split : sites = earlier ++ site :: later)
    (refers : (r.modelAfter policy earlier site).Refers t) :
    (∃ key s, last = .scalar s ∧ r.get? key = some s) ∨
      ∃ earlier site later, sites = earlier ++ site :: later ∧
        last = .model (r.modelAfter policy earlier site) := by
  induction reaches generalizing earlier site later with
  | self t =>
    cases t with
    | scalar s =>
      obtain ⟨key, found⟩ := get?_of_refers refers
      exact .inl ⟨key, s, rfl, found⟩
    | model m =>
      obtain ⟨before, owner, between, rfl, rfl, _⟩ := lastModel_of_refers refers
      refine .inr ⟨before, owner, between ++ site :: later, ?_, rfl⟩
      rw [split, List.append_assoc, List.cons_append]
  | @through m t last further _ ih =>
    obtain ⟨before, owner, between, rfl, rfl, _⟩ := lastModel_of_refers refers
    have placed : sites = before ++ owner :: (between ++ site :: later) := by
      rw [split, List.append_assoc, List.cons_append]
    exact ih placed further

theorem properties_modelAfter (earlier : List ClassSite) (site : ClassSite) :
    (r.modelAfter policy earlier site).properties =
      site.definition.properties.map Property.name := by
  simp only [modelAfter, ClassSite.model, Model.properties, Model.attributes, List.map_map]
  rfl

end TypeRegistry

namespace Catalog

variable {r : TypeRegistry} {policy : ArrayNilPolicy} {batch : List SchemaFile} {c : Catalog}

theorem distinct_of_build (built : (build r policy batch).value = .ok c)
    {earlier later : List ClassSite} {site : ClassSite}
    (split : SchemaFile.batchClasses batch = earlier ++ site :: later) :
    (r.modelAfter policy earlier site).properties.Nodup := by
  have registered := (build_eq_ok_iff r batch c.types).mp ⟨c, built, rfl⟩
  have admissible := ((exists_registers_iff r.seedContext _).mp ⟨_, registered⟩).2
  rw [TypeRegistry.properties_modelAfter]
  exact (admissible earlier site later split).distinct

theorem throughout_of_build {P : TypeRef → Prop} (built : (build r policy batch).value = .ok c)
    (scalars : r.All fun s => P (.scalar s))
    (models : ∀ m, m.properties.Nodup → P (.model m)) {key : String} {m : Model}
    (held : c.types.get? key = some (.model m)) : (TypeRef.model m).Throughout P := by
  rw [get?_of_build built] at held
  obtain ⟨_, earlier, site, later, split, rfl, _⟩ := TypeRegistry.typesAfter_eq_model.mp held
  intro last reaches
  cases reaches with
  | self => exact models _ (distinct_of_build built split)
  | through refers further =>
    rcases TypeRegistry.reached_of_refers further split refers with registered | compiled
    · obtain ⟨name, s, rfl, found⟩ := registered
      exact scalars name s found
    · obtain ⟨before, owner, after, placed, rfl⟩ := compiled
      exact models _ (distinct_of_build built placed)

end Catalog

end RecordSchema
