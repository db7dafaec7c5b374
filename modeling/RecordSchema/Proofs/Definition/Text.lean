import RecordSchema.Definition.Basic
import RecordSchema.Proofs.Json.Text

set_option autoImplicit false

/-!
The text of a definition determines the definition, although what is absent is left out.
-/

namespace RecordSchema

open Json (NumberFree AllNumberFree FieldsNumberFree)

section Fields

variable {α β : Type} (key other : String) (rest : List (String × β))

theorem lookup_optional (f : α → β) (o : Option α) :
    ((o.toList.map fun a => (key, f a)) ++ rest).lookup other =
      if other = key then (o.map f).or (rest.lookup other) else rest.lookup other := by
  cases o with
  | none => simp
  | some a => by_cases same : other = key <;> simp [List.lookup_cons, same, beq_eq_false_iff_ne.mpr]

end Fields

theorem Property.toJson_injective {p p' : Property} (same : p.toJson = p'.toJson) : p = p' := by
  obtain ⟨name, path, typeName, isArray⟩ := p
  obtain ⟨name', path', typeName', isArray'⟩ := p'
  have fields := Json.obj.inj same
  have named := congrArg (List.lookup "name") fields
  have found := congrArg (List.lookup "path") fields
  have typed := congrArg (List.lookup "type") fields
  have array := congrArg (List.lookup "array") fields
  simp [lookup_optional, List.lookup_cons] at named found typed array
  rw [named, (List.map_inj_right fun _ _ => Json.str.inj).mp found,
    (Option.map_inj_right fun _ _ => Json.str.inj).mp typed, array]

theorem Property.numberFree_toJson (p : Property) : p.toJson.NumberFree := by
  rw [toJson, NumberFree, Json.fieldsNumberFree_iff]
  intro field member
  simp only [List.mem_append, List.mem_cons, List.not_mem_nil, or_false, List.mem_map] at member
  rcases member with ((rfl | rfl) | ⟨t, _, rfl⟩) | rfl
  · trivial
  · rw [NumberFree, Json.allNumberFree_iff]
    intro item listed
    obtain ⟨key, _, rfl⟩ := List.mem_map.mp listed
    trivial
  · trivial
  · trivial

namespace Definition

/-- The nested definitions are found unless there are none. -/
theorem lookup_nested (nested : List Definition) (other : String) (rest : List (String × Json)) :
    ((if nested.isEmpty then [] else [("definitions", Json.arr (nestedToJson nested))]) ++
        rest).lookup other =
      if other = "definitions" ∧ nested ≠ [] then some (.arr (nestedToJson nested))
      else rest.lookup other := by
  cases nested with
  | nil => simp
  | cons d others =>
    by_cases same : other = "definitions" <;>
      simp [List.lookup_cons, same, beq_eq_false_iff_ne.mpr]

mutual

theorem toJson_injective : ∀ {d d' : Definition}, d.toJson = d'.toJson → d = d'
  | ⟨schemaName, version, nested, className, properties⟩,
      ⟨schemaName', version', nested', className', properties'⟩, same => by
      simp only [toJson, Json.obj.injEq, List.append_assoc] at same
      have schema := congrArg (List.lookup "schema") same
      have versions := congrArg (List.lookup "version") same
      have inner := congrArg (List.lookup "definitions") same
      have named := congrArg (List.lookup "class") same
      have listed := congrArg (List.lookup "properties") same
      simp only [lookup_optional, lookup_nested] at schema versions inner named listed
      simp [List.lookup_cons] at schema versions inner named listed
      have below : nested = nested' := by
        by_cases bare : nested = [] <;> by_cases bare' : nested' = []
        · rw [bare, bare']
        · simp [bare, bare'] at inner
        · simp [bare, bare'] at inner
        · simp only [bare, bare', if_false, Option.some.injEq, Json.arr.injEq] at inner
          exact nestedToJson_injective inner
      rw [(Option.map_inj_right fun _ _ => Json.str.inj).mp schema,
        (Option.map_inj_right fun _ _ => Json.str.inj).mp versions, below, named,
        (List.map_inj_right fun _ _ => Property.toJson_injective).mp listed]

theorem nestedToJson_injective : ∀ {ds ds' : List Definition},
    nestedToJson ds = nestedToJson ds' → ds = ds'
  | [], [], _ => rfl
  | [], _ :: _, same => by simp [nestedToJson] at same
  | _ :: _, [], same => by simp [nestedToJson] at same
  | d :: others, d' :: others', same => by
      rw [nestedToJson, nestedToJson] at same
      obtain ⟨first, remaining⟩ := List.cons.inj same
      rw [toJson_injective first, nestedToJson_injective remaining]

end

mutual

theorem numberFree_toJson : ∀ d : Definition, d.toJson.NumberFree
  | ⟨schemaName, version, nested, className, properties⟩ => by
      rw [toJson, NumberFree, Json.fieldsNumberFree_iff]
      intro field member
      simp only [List.mem_append, List.mem_cons, List.not_mem_nil, or_false, List.mem_map] at member
      rcases member with ((⟨s, _, rfl⟩ | ⟨v, _, rfl⟩) | inner) | rfl | rfl
      · trivial
      · trivial
      · split at inner
        · cases inner
        · rw [List.mem_singleton.mp inner]
          exact allNumberFree_nestedToJson nested
      · trivial
      · rw [NumberFree, Json.allNumberFree_iff]
        intro item listed
        obtain ⟨p, _, rfl⟩ := List.mem_map.mp listed
        exact p.numberFree_toJson

theorem allNumberFree_nestedToJson : ∀ ds : List Definition, AllNumberFree (nestedToJson ds)
  | [] => trivial
  | d :: others => ⟨numberFree_toJson d, allNumberFree_nestedToJson others⟩

end

theorem chars_injective {d d' : Definition} (same : d.chars = d'.chars) : d = d' := by
  have ended : d.toJson.chars ++ [] = d'.toJson.chars ++ [] := congrArg (· ++ []) same
  exact toJson_injective (Json.chars_unique d.numberFree_toJson d'.numberFree_toJson ended).1

theorem noControl_chars (d : Definition) : Json.NoControl d.chars :=
  Json.noControl_chars d.toJson d.numberFree_toJson

end Definition

end RecordSchema
