import RecordSchema.Proofs.Catalog.Build
import RecordSchema.Proofs.Model.Records

set_option autoImplicit false

/-!
Which models the attributes of a catalog refer to. A reference is to the class as it was when the
referring class was compiled; a later class under the same name replaces it in the catalog only.
-/

namespace RecordSchema

theorem ClassSite.known_of_refers {policy : ArrayNilPolicy} {known : String → Option TypeRef}
    {site : ClassSite} {t : TypeRef} (refers : (site.model policy known).Refers t) :
    ∃ key, known key = some t := by
  obtain ⟨a, member, typed⟩ := refers
  obtain ⟨p, _, rfl⟩ := List.mem_map.mp member
  obtain ⟨name, _, found⟩ := Option.bind_eq_some_iff.mp typed
  rcases Option.or_eq_some_iff.mp found with bare | ⟨_, within⟩
  · exact ⟨name, bare⟩
  · exact ⟨_, within⟩

namespace TypeRegistry

variable (r : TypeRegistry) (policy : ArrayNilPolicy)

/-- The model of a class that comes after others. -/
def modelAfter (earlier : List ClassSite) (site : ClassSite) : Model :=
  site.model policy (typesAfter policy r.seedContext.get? earlier)

/-- A model of the last class under its name. -/
def LastModel (sites : List ClassSite) (m : Model) : Prop :=
  ∃ earlier site later, sites = earlier ++ site :: later ∧ m = r.modelAfter policy earlier site ∧
    m.qualifiedName ∉ later.map ClassSite.key

/-- A record in what a caller's type of the registry gives. -/
def GivesRecord (inner : Record) : Prop :=
  ∃ key id type value, r.get? key = some ⟨id, .custom type⟩ ∧ type.Gives value ∧
    value.Holds inner

variable {r policy}

theorem typesAfter_eq_model {sites : List ClassSite} {key : String} {m : Model} :
    typesAfter policy r.seedContext.get? sites key = some (.model m) ↔
      m.qualifiedName = key ∧ r.LastModel policy sites m := by
  rw [typesAfter_eq_model_iff _ _ r.seedContext_ne_model]
  constructor
  · rintro ⟨earlier, site, later, split, rfl, last, rfl⟩
    exact ⟨rfl, earlier, site, later, split, rfl, last⟩
  · rintro ⟨rfl, earlier, site, later, split, rfl, last⟩
    exact ⟨earlier, site, later, split, rfl, last, rfl⟩

theorem lastModel_of_refers {earlier : List ClassSite} {site : ClassSite} {m : Model}
    (refers : (r.modelAfter policy earlier site).Refers (.model m)) :
    r.LastModel policy earlier m := by
  obtain ⟨key, known⟩ := ClassSite.known_of_refers refers
  exact (typesAfter_eq_model.mp known).2

theorem get?_of_refers {earlier : List ClassSite} {site : ClassSite} {s : Scalar}
    (refers : (r.modelAfter policy earlier site).Refers (.scalar s)) :
    ∃ key, r.get? key = some s := by
  obtain ⟨key, known⟩ := ClassSite.known_of_refers refers
  have seeded := ((typesAfter_eq_scalar_iff policy _ earlier key s).mp known).1
  rw [get?_seedContext] at seeded
  exact ⟨key, by simpa using seeded⟩

/-- A model that a class refers to stays current until its name is taken again. -/
theorem typesAfter_of_refers {earlier later : List ClassSite} {site : ClassSite} {m : Model}
    (refers : (r.modelAfter policy earlier site).Refers (.model m))
    (kept : m.qualifiedName ∉ (site :: later).map ClassSite.key) :
    typesAfter policy r.seedContext.get? (earlier ++ site :: later) m.qualifiedName =
      some (.model m) := by
  rw [typesAfter_append, typesAfter_of_not_mem _ _ kept]
  exact typesAfter_eq_model.mpr ⟨rfl, lastModel_of_refers refers⟩

theorem LastModel.exists_append {earlier : List ClassSite} {m : Model}
    (last : r.LastModel policy earlier m) (more : List ClassSite) :
    ∃ other, other.qualifiedName = m.qualifiedName ∧ r.LastModel policy (earlier ++ more) other := by
  obtain ⟨before, site, later, rfl, rfl, _⟩ := last
  have used : site.key ∈ ((before ++ site :: later) ++ more).map ClassSite.key := by simp
  have present := (isSome_typesAfter policy r.seedContext.get? _ _).mpr (.inr used)
  obtain ⟨t, found⟩ := Option.isSome_iff_exists.mp present
  cases t with
  | scalar s => exact absurd used ((typesAfter_eq_scalar_iff policy _ _ _ s).mp found).2
  | model other => exact ⟨other, typesAfter_eq_model.mp found⟩

-- The induction is on where the record comes from. A model that a class refers to is itself of an
-- earlier class, so each reference on the way is one from a place in the same list.
theorem model_of_yields {sites : List ClassSite} {inner : Record} {t : TypeRef}
    (yields : t.Yields inner) {earlier later : List ClassSite} {site : ClassSite}
    (split : sites = earlier ++ site :: later) (refers : (r.modelAfter policy earlier site).Refers t) :
    r.GivesRecord inner ∨ ∃ earlier site later m, sites = earlier ++ site :: later ∧
      (r.modelAfter policy earlier site).Refers (.model m) ∧
      inner.typeName = m.qualifiedName ∧ inner.fieldNames = m.properties := by
  induction yields generalizing earlier site later with
  | custom id type value given held =>
      obtain ⟨key, found⟩ := get?_of_refers refers
      exact .inl ⟨key, id, type, value, found, given, held⟩
  | own m named shaped => exact .inr ⟨earlier, site, later, m, split, refers, named, shaped⟩
  | nested m t further _ ih =>
      obtain ⟨before, owner, between, rfl, rfl, _⟩ := lastModel_of_refers refers
      have placed : sites = before ++ owner :: (between ++ site :: later) := by
        rw [split, List.append_assoc, List.cons_append]
      exact ih placed further

end TypeRegistry

namespace Catalog

variable {r : TypeRegistry} {policy : ArrayNilPolicy} {batch : List SchemaFile} {c : Catalog}

theorem get?_of_build (built : (build r policy batch).value = .ok c) :
    c.types.get? = typesAfter policy r.seedContext.get? (SchemaFile.batchClasses batch) :=
  ((build_eq_ok_iff r batch c.types).mp ⟨c, built, rfl⟩).get?

theorem model_eq_ok_iff {name : String} {m : Model} :
    c.model name = .ok m ↔ c.types.get? name = some (.model m) := by
  unfold model
  cases found : c.types.get? name with
  | none => simp
  | some t => cases t <;> simp [TypeRef.model?]

theorem exists_model_of_parse {σ : Store} {name : String} {raw : Json} {outer : Record}
    (parsed : (c.parse σ name raw).value = .ok (some outer)) :
    ∃ m, c.types.get? name = some (.model m) ∧ (m.parse σ raw).value = .ok (some outer) := by
  unfold parse at parsed
  cases found : c.model name with
  | error e => simp [found] at parsed
  | ok m =>
      rw [found, Logged.value_map, mapError_eq_ok_iff] at parsed
      exact ⟨m, model_eq_ok_iff.mp found, parsed⟩

theorem published_of_refers (built : (build r policy batch).value = .ok c)
    {earlier later : List ClassSite} {site : ClassSite} {m : Model}
    (split : SchemaFile.batchClasses batch = earlier ++ site :: later)
    (refers : (r.modelAfter policy earlier site).Refers (.model m)) :
    ∃ published, c.types.get? m.qualifiedName = some (.model published) ∧
      r.LastModel policy (SchemaFile.batchClasses batch) published ∧
      (m.qualifiedName ∉ (site :: later).map ClassSite.key → published = m) := by
  have known := get?_of_build built
  obtain ⟨published, same, last⟩ :=
    (TypeRegistry.lastModel_of_refers refers).exists_append (site :: later)
  rw [← split] at last
  have found : c.types.get? m.qualifiedName = some (.model published) := by
    rw [known]
    exact TypeRegistry.typesAfter_eq_model.mpr ⟨same, last⟩
  refine ⟨published, found, last, ?_⟩
  intro kept
  have current := TypeRegistry.typesAfter_of_refers refers kept
  rw [← split, ← known, found] at current
  simpa using current

theorem references_as_compiled (r : TypeRegistry) (policy : ArrayNilPolicy)
    (batch : List SchemaFile) (c : Catalog) (built : (build r policy batch).value = .ok c) :
    (∀ key referring, c.types.get? key = some (.model referring) →
      ∃ earlier site later, SchemaFile.batchClasses batch = earlier ++ site :: later ∧
        site.key = key ∧ key ∉ later.map ClassSite.key ∧
        referring = r.modelAfter policy earlier site ∧
        ∀ m, referring.Refers (.model m) → r.LastModel policy earlier m ∧
          (∃ published, c.types.get? m.qualifiedName = some (.model published) ∧
            r.LastModel policy (SchemaFile.batchClasses batch) published) ∧
          (m.qualifiedName ∉ (site :: later).map ClassSite.key →
            c.types.get? m.qualifiedName = some (.model m))) ∧
    ∀ σ name raw outer inner, (c.parse σ name raw).value = .ok (some outer) →
      outer.Nests inner →
      r.GivesRecord inner ∨
        ∃ earlier site later m published,
          SchemaFile.batchClasses batch = earlier ++ site :: later ∧
          (r.modelAfter policy earlier site).Refers (.model m) ∧ r.LastModel policy earlier m ∧
          inner.typeName = m.qualifiedName ∧ inner.fieldNames = m.properties ∧
          c.types.get? inner.typeName = some (.model published) ∧
          (inner.typeName ∉ (site :: later).map ClassSite.key → published = m) := by
  have known := get?_of_build built
  constructor
  · intro key referring found
    rw [known] at found
    obtain ⟨named, earlier, site, later, split, rfl, last⟩ :=
      TypeRegistry.typesAfter_eq_model.mp found
    subst named
    refine ⟨earlier, site, later, split, rfl, last, rfl, ?_⟩
    intro m refers
    obtain ⟨published, held, isLast, same⟩ := published_of_refers built split refers
    refine ⟨TypeRegistry.lastModel_of_refers refers, ⟨published, held, isLast⟩, ?_⟩
    intro kept
    rw [held, same kept]
  · intro σ name raw outer inner parsed nested
    obtain ⟨parent, found, result⟩ := exists_model_of_parse parsed
    obtain ⟨t, refersTo, yields⟩ := Model.yields_of_parse result nested
    rw [known] at found
    obtain ⟨_, before, owner, after, placed, rfl, _⟩ := TypeRegistry.typesAfter_eq_model.mp found
    rcases TypeRegistry.model_of_yields yields placed refersTo with given | compiled
    · exact .inl given
    · obtain ⟨earlier, site, later, m, split, refers, named, shaped⟩ := compiled
      obtain ⟨published, held, _, same⟩ := published_of_refers built split refers
      rw [named]
      exact .inr ⟨earlier, site, later, m, published, split, refers,
        TypeRegistry.lastModel_of_refers refers, rfl, shaped, held, same⟩

/-- Two owners of one directory that each nest a class of one name. -/
def addressedTwice : List SchemaFile :=
  [ownedAddress "Person" "street", ownedAddress "Company" "city"]
where
  ownedAddress (owner property : String) : SchemaFile :=
    let address : Definition := ⟨none, none, [], "Address", [.named property [property]]⟩
    ⟨[], ⟨none, none, [address], owner, [(Property.named "address" ["address"]).typed "Address"]⟩,
      none⟩

theorem references_as_compiled_twice :
    ∃ c, (build (TypeRegistry.create .empty).1 .wrapNil addressedTwice).value = .ok c ∧
      ∃ company address, c.types.get? "Company" = some (.model company) ∧
        company.Refers (.model address) ∧
        ∃ published, c.types.get? address.qualifiedName = some (.model published) := by
  have closed := references_as_compiled (TypeRegistry.create .empty).1 .wrapNil addressedTwice _ rfl
  obtain ⟨_, _, _, _, _, _, _, references⟩ := closed.1 "Company" _ rfl
  obtain ⟨_, ⟨published, held, _⟩, _⟩ := references _ ⟨_, List.mem_cons_self, rfl⟩
  exact ⟨_, rfl, _, _, rfl, ⟨_, List.mem_cons_self, rfl⟩, published, held⟩

/-- A class with one attribute, of a caller's type that gives a record of its own. -/
def foreignType : Scalar :=
  ⟨7, .custom ⟨"foreign", none, fun _ _ => .ok (.record "Elsewhere" []), fun _ _ => true⟩⟩

def foreignOwner : SchemaFile :=
  ⟨[], ⟨none, none, [], "Owner", [(Property.named "part" ["part"]).typed "foreign"]⟩, none⟩

/-- The first owner still refers to the class that the second one has replaced; and what a
caller's type gives is no matter of the catalog. -/
theorem reference_to_replaced_class :
    (∃ c, (build ((TypeRegistry.create .empty).1.register "foreign" foreignType) .wrapNil
        [foreignOwner]).value = .ok c ∧
      ∃ outer inner, (c.parse .empty "Owner" (.obj [])).value = .ok (some outer) ∧
        outer.Nests inner ∧ c.types.get? inner.typeName = none) ∧
    ∃ c, (build (TypeRegistry.create .empty).1 .wrapNil addressedTwice).value = .ok c ∧
      (∃ person address published, c.types.get? "Person" = some (.model person) ∧
        person.Refers (.model address) ∧
        c.types.get? address.qualifiedName = some (.model published) ∧
        address.properties = ["street"] ∧ published.properties = ["city"]) ∧
      ∃ outer inner, (c.parse .empty "Person" (.obj [("address", .obj [])])).value =
          .ok (some outer) ∧
        outer.Nests inner ∧ inner.typeName = "Address" ∧ inner.fieldNames = ["street"] := by
  constructor
  · exact ⟨_, rfl, _, _, rfl, ⟨_, _, List.mem_cons_self, .own _ _ rfl⟩, rfl⟩
  · refine ⟨_, rfl, ⟨_, _, _, rfl, ⟨_, List.mem_cons_self, rfl⟩, rfl, rfl, rfl⟩, ?_⟩
    exact ⟨_, ⟨"Address", _⟩, rfl, ⟨_, _, List.mem_cons_self, .own _ _ rfl⟩, rfl, rfl⟩

end Catalog

end RecordSchema
