import RecordSchema.Proofs.Json.Fields
import RecordSchema.Value.Written

set_option autoImplicit false

/-!
Records as data trees. A tree keeps the fields of an object by key, so a record becomes an object in
increasing order of its field names; its fields are found under their names in either form.
-/

namespace RecordSchema

namespace Value

mutual

/-- The data of a value, where a function makes objects out of the fields of records. -/
def writeWith (object : List (String × Json) → Json) : Value → Json
  | nil => .null
  | boolean b => .bool b
  | integer i => .ofInt64 i
  | float d => .ofDouble d
  | string s => .str s
  | date d => .str d.text
  | datetime t => .str t.text
  | list items => .arr (writeAllWith object items)
  | record _ fields => object (writeFieldsWith object fields)
  | raw j => j

def writeAllWith (object : List (String × Json) → Json) : List Value → List Json
  | [] => []
  | item :: rest => item.writeWith object :: writeAllWith object rest

def writeFieldsWith (object : List (String × Json) → Json) :
    List (String × Value) → List (String × Json)
  | [] => []
  | (name, value) :: rest => (name, value.writeWith object) :: writeFieldsWith object rest

end

theorem writeAllWith_eq_map (object : List (String × Json) → Json) (items : List Value) :
    writeAllWith object items = items.map (writeWith object) := by
  induction items with
  | nil => rfl
  | cons item rest ih => rw [writeAllWith, ih, List.map_cons]

theorem writeFieldsWith_eq_map (object : List (String × Json) → Json)
    (fields : List (String × Value)) :
    writeFieldsWith object fields = fields.map fun e => (e.1, e.2.writeWith object) := by
  induction fields with
  | nil => rfl
  | cons field rest ih => rw [writeFieldsWith, ih, List.map_cons]

mutual

theorem toJson_eq_writeWith : ∀ value : Value, value.toJson = value.writeWith .obj
  | nil | boolean _ | integer _ | float _ | string _ | date _ | datetime _ | raw _ => by
      rw [toJson, writeWith]
  | list items => by rw [toJson, writeWith, listToJson_eq_writeAllWith items]
  | record _ fields => by rw [toJson, writeWith, fieldsToJson_eq_writeFieldsWith fields]

theorem listToJson_eq_writeAllWith : ∀ items : List Value,
    listToJson items = writeAllWith .obj items
  | [] => rfl
  | item :: rest => by
      rw [listToJson, writeAllWith, toJson_eq_writeWith item, listToJson_eq_writeAllWith rest]

theorem fieldsToJson_eq_writeFieldsWith : ∀ fields : List (String × Value),
    fieldsToJson fields = writeFieldsWith .obj fields
  | [] => rfl
  | (name, value) :: rest => by
      rw [fieldsToJson, writeFieldsWith, toJson_eq_writeWith value,
        fieldsToJson_eq_writeFieldsWith rest]

end

mutual

theorem writeWith_lift (object : List (String × Json) → Json) :
    ∀ data : Json, (lift data).writeWith object = data
  | .null | .bool _ | .num _ | .str _ | .obj _ => by rw [lift, writeWith]
  | .arr items => by rw [lift, writeWith, writeAllWith_liftAll object items]

theorem writeAllWith_liftAll (object : List (String × Json) → Json) :
    ∀ items : List Json, writeAllWith object (liftAll items) = items
  | [] => rfl
  | item :: rest => by
      rw [liftAll, writeAllWith, writeWith_lift object item, writeAllWith_liftAll object rest]

end

end Value

/-- The record as a data tree. -/
def Record.toTree (r : Record) : Json := r.toValue.writeWith Json.mkObj

/-- An object has each of its fields under its name, if the names are distinct. -/
def KeepsFields (object : List (String × Json) → Json) : Prop :=
  ∀ fields : List (String × Json), (fields.map Prod.fst).Nodup →
    ∃ listed, object fields = .obj listed ∧
      ∀ name data, (name, data) ∈ fields → Json.field? name listed = some data

theorem Json.ListsFields.keepsFields {object : List (String × Json) → Json}
    (lists : Json.ListsFields object) : KeepsFields object := by
  intro fields distinct
  obtain ⟨listed, made, _, same⟩ := lists fields distinct
  refine ⟨listed, made, ?_⟩
  intro name data member
  rw [same]
  exact lookup_of_mem distinct member

theorem keepsFields_obj : KeepsFields .obj := Json.listsFields_obj.keepsFields

theorem keepsFields_mkObj : KeepsFields Json.mkObj := Json.listsFields_mkObj.keepsFields

theorem KeepsFields.record {object : List (String × Json) → Json} (keeps : KeepsFields object)
    {record : Record} (distinct : record.fieldNames.Nodup) :
    ∃ listed, record.toValue.writeWith object = .obj listed ∧
      ∀ name value, (name, value) ∈ record.fields →
        Json.field? name listed = some (value.writeWith object) := by
  have names : ((Value.writeFieldsWith object record.fields).map Prod.fst).Nodup := by
    rw [Value.writeFieldsWith_eq_map, List.map_map]
    exact distinct
  obtain ⟨listed, made, held⟩ := keeps _ names
  refine ⟨listed, made, ?_⟩
  intro name value member
  apply held
  rw [Value.writeFieldsWith_eq_map]
  exact List.mem_map.mpr ⟨_, member, rfl⟩

end RecordSchema
