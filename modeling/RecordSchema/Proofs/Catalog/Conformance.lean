import RecordSchema.Proofs.Catalog.Reach
import RecordSchema.Proofs.Model.Conformance
import RecordSchema.Proofs.Registry

set_option autoImplicit false

/-!
Type soundness of a catalog: over built-in types, every record that one of its models parses
conforms to the model.
-/

namespace RecordSchema.Catalog

theorem parse_conforms (r : TypeRegistry) (policy : ArrayNilPolicy) (batch : List SchemaFile)
    (c : Catalog) (builtIn : r.All fun s => ∃ b, s.kind = .builtIn b)
    (built : (build r policy batch).value = .ok c) (key : String) (m : Model)
    (held : c.types.get? key = some (.model m)) (σ : Store) (raw : Json) (record : Record)
    (parsed : (m.parse σ raw).value = .ok (some record)) :
    record.typeName = m.qualifiedName ∧ record.fieldNames = m.properties ∧
      record.fieldNames.Nodup ∧
      List.Forall₂ (fun a field => field.1 = a.name ∧ a.Conforms raw field.2)
        m.attributes record.fields := by
  have sound : (TypeRef.model m).Throughout TypeRef.Sound :=
    throughout_of_build built builtIn (fun _ distinct => distinct) held
  obtain ⟨named, distinct, conform⟩ :=
    (m.conforms_iff raw record).mp (m.conforms_of_parse σ sound raw record parsed)
  exact ⟨named, m.fieldNames_of_parse parsed, distinct, conform⟩

/-- A team with an identifier, members of a nested class, and notes without a type. -/
def teams : List SchemaFile :=
  [⟨[], ⟨none, none, [member], "Team",
    [(Property.named "id" ["key", "id"]).typed "integer",
      ((Property.named "members" ["members"]).typed "Member").array,
      (Property.named "notes" ["notes"]).array]⟩, none⟩]
where
  member : Definition :=
    ⟨none, none, [], "Member", [(Property.named "name" ["name"]).typed "string",
      (Property.named "captain" ["captain"]).typed "boolean"]⟩

def teamData : Json :=
  .obj [("key", .obj [("id", .str "-007")]),
    ("members", .arr [.obj [("captain", .bool true), ("name", .str "Ada")], .null]),
    ("notes", .str "away")]

theorem parse_conforms_team : ∃ c team record,
    (build (TypeRegistry.create .empty).1 .empty teams).value = .ok c ∧
      c.types.get? "Team" = some (.model team) ∧
      (team.parse .empty teamData).value = .ok (some record) ∧
      record.typeName = team.qualifiedName ∧ record.fieldNames = team.properties ∧
      record.fieldNames.Nodup ∧
      List.Forall₂ (fun a field => field.1 = a.name ∧ a.Conforms teamData field.2)
        team.attributes record.fields := by
  have run : ∃ c, (build (TypeRegistry.create .empty).1 .empty teams).value = .ok c ∧
      ∃ team, c.types.get? "Team" = some (.model team) ∧
        ∃ record, (team.parse .empty teamData).value = .ok (some record) :=
    ⟨_, rfl, _, rfl, _, rfl⟩
  obtain ⟨c, built, team, held, record, parsed⟩ := run
  have builtIn := TypeRegistry.builtIn_create .empty
  exact ⟨c, team, record, built, held, parsed,
    parse_conforms _ .empty teams c builtIn built _ team held .empty teamData record parsed⟩

end RecordSchema.Catalog
