import RecordSchema.Definition.Decoding
import RecordSchema.Proofs.Json.Fields
import RecordSchema.Proofs.Success

set_option autoImplicit false

/-!
Definitions as data trees, and back. An object is decoded by what stands under its keys, in whatever
order they come; so a definition is read again from its tree, and from the fields in the order that
its text has.
-/

namespace RecordSchema

open Json (asString asOptionalString asBool asList field? ListsFields)

theorem Json.decodeEach_map {α : Type} {decode : Json → Decoded α} {write : α → Json}
    (items : List α) (each : ∀ a ∈ items, decode (write a) = .ok a) :
    decodeEach decode (items.map write) = .ok items := by
  induction items with
  | nil => rfl
  | cons a rest ih =>
    rw [List.map_cons, decodeEach, each a (by simp), ih fun b member => each b (by simp [member])]
    rfl

/-- A slot after an object was visited: it keeps its value if the object has no such key. -/
def Slot {α : Type} (decode : Json → Decoded α) (before : α) (given : Option Json) (after : α) :
    Prop :=
  match given with
  | none => before = after
  | some data => decode data = .ok after

section Slot

variable {α : Type} {decode : Json → Decoded α} {before after : α} {key other : String}
  {value : Json} {rest : List (String × Json)}

theorem slot_of_absent (absent : field? key rest = none) :
    Slot decode before (field? key rest) after ↔ before = after := by
  rw [absent]
  rfl

theorem slot_own : Slot decode before (field? key ((key, value) :: rest)) after ↔
    decode value = .ok after := by
  rw [Json.field?_cons, if_pos rfl]
  rfl

theorem slot_other (different : key ≠ other) :
    Slot decode before (field? other ((key, value) :: rest)) after ↔
      Slot decode before (field? other rest) after := by
  rw [Json.field?_cons, if_neg different]

end Slot

namespace Property

@[mk_iff]
structure Fields.Reads (before : Fields) (fields : List (String × Json)) (after : Fields) :
    Prop where
  name : Slot (fun data => data.asString.map some) before.name (field? "name" fields) after.name
  path : Slot (fun data => (data.asList asString).map some) before.path (field? "path" fields)
    after.path
  typeName : Slot asOptionalString before.typeName (field? "type" fields) after.typeName
  isArray : Slot asBool before.isArray (field? "array" fields) after.isArray

theorem foldlM_visit_eq_ok_iff {fields : List (String × Json)}
    (distinct : (fields.map Prod.fst).Nodup) (before after : Fields) :
    fields.foldlM (fun (f : Fields) (e : String × Json) => f.visit e.1 e.2) before = .ok after ↔
      before.Reads fields after := by
  induction fields generalizing before with
  | nil =>
    obtain ⟨name, path, typeName, isArray⟩ := before
    obtain ⟨name', path', typeName', isArray'⟩ := after
    simp [Fields.reads_iff, Slot, Json.field?_nil, Pure.pure, Except.pure]
  | cons head rest ih =>
    obtain ⟨key, value⟩ := head
    rw [List.map_cons, List.nodup_cons] at distinct
    -- Nothing later is put into the slot of this key.
    have absent : field? key rest = none := lookup_eq_none_of_not_mem distinct.1
    have step : ((key, value) :: rest).foldlM
        (fun (f : Fields) (e : String × Json) => f.visit e.1 e.2) before = .ok after ↔
          ∃ middle, before.visit key value = .ok middle ∧ middle.Reads rest after := by
      simp only [← ih distinct.2, ← bind_eq_ok_iff]
      rfl
    rw [step]
    unfold Fields.visit
    split
    -- A key fills its own slot, and the other slots see the rest only.
    all_goals
      simp (disch := first | decide | assumption) only [map_eq_ok_iff, Fields.reads_iff, slot_own,
        slot_other, slot_of_absent absent, exists_exists_and_eq_and]
    all_goals
      simp only [Except.ok.injEq, existsAndEq, ← exists_and_left, ← exists_and_right, and_assoc,
        and_left_comm, and_comm, true_and]

def fields (p : Property) : List (String × Json) :=
  [("name", .str p.name), ("path", .arr (p.path.map .str))] ++
    (p.typeName.toList.map fun t => ("type", .str t)) ++ [("array", .bool p.isArray)]

/-- The data of a property, where a function makes objects out of fields. -/
def writeWith (object : List (String × Json) → Json) (p : Property) : Json := object p.fields

theorem distinct_fields (p : Property) : (p.fields.map Prod.fst).Nodup := by
  obtain ⟨name, path, typeName, isArray⟩ := p
  cases typeName <;> simp [fields]

theorem reads_fields (p : Property) {listed : List (String × Json)}
    (same : ∀ key, field? key listed = field? key p.fields) :
    Fields.Reads {} listed ⟨some p.name, some p.path, p.typeName, p.isArray⟩ := by
  obtain ⟨name, path, typeName, isArray⟩ := p
  have keys : Json.decodeEach asString (path.map .str) = .ok path :=
    Json.decodeEach_map path fun _ _ => rfl
  rw [Fields.reads_iff]
  simp only [same, fields]
  cases typeName <;> simp [Slot, Json.field?_cons, Json.field?_nil, asString, asOptionalString,
    asBool, asList, keys, Except.map]

theorem ofJson_writeWith {object : List (String × Json) → Json} (lists : ListsFields object)
    (p : Property) : ofJson (p.writeWith object) = .ok p := by
  obtain ⟨listed, made, distinct, same⟩ := lists p.fields p.distinct_fields
  have visited := (foldlM_visit_eq_ok_iff distinct _ _).mpr (p.reads_fields same)
  rw [writeWith, made, ofJson, visited]
  rfl

end Property

namespace Definition

@[mk_iff]
structure Fields.Reads (before : Fields) (fields : List (String × Json)) (after : Fields) :
    Prop where
  schemaName : Slot asOptionalString before.schemaName (field? "schema" fields) after.schemaName
  version : Slot (fun data => .ok data.asVersion) before.version (field? "version" fields)
    after.version
  nested : Slot nestedOfJson before.nested (field? "definitions" fields) after.nested
  className : Slot (fun data => data.asString.map some) before.className (field? "class" fields)
    after.className
  properties : Slot (asList Property.ofJson) before.properties (field? "properties" fields)
    after.properties

theorem visitAll_eq_ok_iff {fields : List (String × Json)}
    (distinct : (fields.map Prod.fst).Nodup) (before after : Fields) :
    visitAll fields before = .ok after ↔ before.Reads fields after := by
  induction fields generalizing before with
  | nil =>
    obtain ⟨schemaName, version, nested, className, properties⟩ := before
    obtain ⟨schemaName', version', nested', className', properties'⟩ := after
    simp [visitAll, Fields.reads_iff, Slot, Json.field?_nil]
  | cons head rest ih =>
    obtain ⟨key, value⟩ := head
    rw [List.map_cons, List.nodup_cons] at distinct
    have absent : field? key rest = none := lookup_eq_none_of_not_mem distinct.1
    unfold visitAll
    split
    all_goals
      simp (disch := first | decide | assumption) only [bind_eq_ok_iff, map_eq_ok_iff,
        ih distinct.2, Fields.reads_iff, slot_own, slot_other, slot_of_absent absent]
    all_goals
      simp only [Except.ok.injEq, existsAndEq, ← exists_and_left, ← exists_and_right, and_assoc,
        and_left_comm, and_comm, true_and]

/-- The fields of a definition, given the data of the nested definitions and of the properties. -/
def fieldsWith (schemaName version : Option String) (nested : List Json) (className : String)
    (properties : List Json) : List (String × Json) :=
  (schemaName.toList.map fun s => ("schema", .str s)) ++
    (version.toList.map fun v => ("version", .str v)) ++
    (if nested.isEmpty then [] else [("definitions", .arr nested)]) ++
    [("class", .str className), ("properties", .arr properties)]

mutual

def writeWith (object : List (String × Json) → Json) : Definition → Json
  | ⟨schemaName, version, nested, className, properties⟩ =>
      object (fieldsWith schemaName version (writeAllWith object nested) className
        (properties.map (Property.writeWith object)))

def writeAllWith (object : List (String × Json) → Json) : List Definition → List Json
  | [] => []
  | d :: rest => d.writeWith object :: writeAllWith object rest

end

/-- The definition as a data tree. -/
def toTree (d : Definition) : Json := d.writeWith Json.mkObj

theorem distinct_fieldsWith (schemaName version : Option String) (nested : List Json)
    (className : String) (properties : List Json) :
    ((fieldsWith schemaName version nested className properties).map Prod.fst).Nodup := by
  cases schemaName <;> cases version <;> cases nested <;> simp [fieldsWith]

theorem reads_fieldsWith {schemaName version : Option String} {written : List Json}
    {className : String} {properties : List Json} {nested : List Definition}
    {decoded : List Property} (inner : eachOfJson written = .ok nested)
    (each : Json.decodeEach Property.ofJson properties = .ok decoded)
    {listed : List (String × Json)}
    (same : ∀ key, field? key listed =
      field? key (fieldsWith schemaName version written className properties)) :
    Fields.Reads {} listed ⟨schemaName, version, nested, some className, decoded⟩ := by
  have bare : written = [] → nested = [] := by
    rintro rfl
    exact (Except.ok.inj inner).symm
  rw [Fields.reads_iff]
  simp only [same, fieldsWith]
  cases schemaName <;> cases version <;> cases written <;>
    simp_all [Slot, Json.field?_cons, Json.field?_nil, asString, asOptionalString, Json.asVersion,
      Json.rawText, asList, nestedOfJson, Except.map]

mutual

theorem toJson_eq_writeWith : ∀ d : Definition, d.toJson = d.writeWith .obj
  | ⟨schemaName, version, nested, className, properties⟩ => by
      rw [toJson, writeWith, nestedToJson_eq_writeAllWith nested]
      cases nested <;> rfl

theorem nestedToJson_eq_writeAllWith : ∀ ds : List Definition,
    nestedToJson ds = writeAllWith .obj ds
  | [] => rfl
  | d :: rest => by
      rw [nestedToJson, writeAllWith, toJson_eq_writeWith d, nestedToJson_eq_writeAllWith rest]

end

mutual

theorem ofJson?_writeWith {object : List (String × Json) → Json} (lists : ListsFields object) :
    ∀ d : Definition, ofJson? (d.writeWith object) = .ok d
  | ⟨schemaName, version, nested, className, properties⟩ => by
      have each : Json.decodeEach Property.ofJson (properties.map (Property.writeWith object)) =
          .ok properties :=
        Json.decodeEach_map properties fun p _ => Property.ofJson_writeWith lists p
      obtain ⟨listed, made, distinct, same⟩ :=
        lists _ (distinct_fieldsWith schemaName version (writeAllWith object nested) className
          (properties.map (Property.writeWith object)))
      have visited := (visitAll_eq_ok_iff distinct _ _).mpr
        (reads_fieldsWith (eachOfJson_writeAllWith lists nested) each same)
      rw [writeWith, made, ofJson?, visited]
      rfl

theorem eachOfJson_writeAllWith {object : List (String × Json) → Json}
    (lists : ListsFields object) : ∀ ds : List Definition,
    eachOfJson (writeAllWith object ds) = .ok ds
  | [] => by rw [writeAllWith, eachOfJson]
  | d :: rest => by
      rw [writeAllWith, eachOfJson, ofJson?_writeWith lists d, eachOfJson_writeAllWith lists rest]
      rfl

end

/-- A definition is read again from its tree and from its written form, and what is accepted in any
form is read again from its tree. -/
theorem ofJson_toTree (d : Definition) (data : Json) :
    ofJson d.toTree = .ok d ∧ ofJson d.toJson = .ok d ∧
      ((ofJson data).bind fun accepted => ofJson accepted.toTree) = ofJson data := by
  have again (accepted : Definition) : ofJson accepted.toTree = .ok accepted := by
    rw [ofJson, toTree, ofJson?_writeWith Json.listsFields_mkObj, mapError_ok]
  refine ⟨again d, ?_, ?_⟩
  · rw [ofJson, toJson_eq_writeWith, ofJson?_writeWith Json.listsFields_obj, mapError_ok]
  · cases ofJson data with
    | error fault => rfl
    | ok accepted => exact again accepted

end Definition

end RecordSchema
