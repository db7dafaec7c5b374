import RecordSchema.Proofs.Catalog.Reach
import RecordSchema.Proofs.Model.RoundTrip

set_option autoImplicit false

/-!
The records of a catalog are parsed again from the data they are written as.
-/

namespace RecordSchema.Catalog

theorem parse_toTree (r : TypeRegistry) (policy : ArrayNilPolicy) (batch : List SchemaFile)
    (c : Catalog) (built : (build r policy batch).value = .ok c) (key : String) (m : Model)
    (held : c.types.get? key = some (.model m))
    (back : (TypeRef.model m).Throughout TypeRef.ReadsBack) (σ : Store) (raw : Json)
    (record : Record) (parsed : (m.parse σ raw).value = .ok (some record)) :
    (m.parse σ record.toTree).value = .ok (some record) ∧
      (m.parse σ record.toJson).value = .ok (some record) := by
  have distinct : (TypeRef.model m).Throughout TypeRef.Distinct :=
    throughout_of_build built (fun _ _ _ => trivial) (fun _ names => names) held
  constructor
  · exact m.parse_written σ keepsFields_mkObj back distinct parsed
  · rw [Record.toJson, Value.toJson_eq_writeWith]
    exact m.parse_written σ keepsFields_obj back distinct parsed

/-- A household with a number, members of a nested class, and remarks without a type. -/
def households : List SchemaFile :=
  [⟨[], ⟨none, none, [member], "Household",
    [(Property.named "number" ["number"]).typed "integer",
      ((Property.named "members" ["members"]).typed "Member").array,
      (Property.named "remarks" ["remarks"]).array]⟩, none⟩]
where
  member : Definition :=
    ⟨none, none, [], "Member", [(Property.named "name" ["name"]).typed "string",
      (Property.named "adult" ["adult"]).typed "boolean"]⟩

def household : Model :=
  .mk "Household" "" "Household" .empty
    [.mk "number" ["number"] (some (.scalar ⟨3, .builtIn .integer⟩)) false,
      .mk "members" ["members"] (some (.model member)) true,
      .mk "remarks" ["remarks"] none true]
where
  member : Model :=
    .mk "Member" "" "Member" .empty
      [.mk "name" ["name"] (some (.scalar ⟨6, .builtIn .string⟩)) false,
        .mk "adult" ["adult"] (some (.scalar ⟨1, .builtIn .boolean⟩)) false]

def householdData : Json :=
  .obj [("members", .arr [.null, .obj [("adult", .str "Yes"), ("name", .str " ")]]),
    ("number", .str "-0012")]

theorem household_readsBack : (TypeRef.model household).Throughout TypeRef.ReadsBack := by
  simp [TypeRef.throughout_model_iff, TypeRef.throughout_scalar_iff, TypeRef.ReadsBack, household,
    household.member, Model.attributes, Attribute.type?, Attribute.path, Attribute.name,
    BuiltIn.readsBack]

theorem parse_toTree_household : ∃ c record,
    (build (TypeRegistry.create .empty).1 .empty households).value = .ok c ∧
      c.types.get? "Household" = some (.model household) ∧
      (household.parse .empty householdData).value = .ok (some record) ∧
      (household.parse .empty record.toTree).value = .ok (some record) ∧
      (household.parse .empty record.toJson).value = .ok (some record) := by
  have published : ∃ c, (build (TypeRegistry.create .empty).1 .empty households).value = .ok c ∧
      c.types.get? "Household" = some (.model household) := ⟨_, rfl, rfl⟩
  have run : ∃ record, (household.parse .empty householdData).value = .ok (some record) := ⟨_, rfl⟩
  obtain ⟨c, built, held⟩ := published
  obtain ⟨record, parsed⟩ := run
  exact ⟨c, record, built, held, parsed,
    parse_toTree _ .empty households c built "Household" household held household_readsBack .empty
      householdData record parsed⟩

end RecordSchema.Catalog
