import RecordSchema.Proofs.Model.Reach
import RecordSchema.Proofs.Scalar.Values

set_option autoImplicit false

/-!
Type soundness of parsing: what a model parses conforms to the model, at every depth, when all
scalar types it leads to are built in.
-/

namespace RecordSchema

/-- How the value of an attribute is made of the pieces of data found for it: a sequence gives a
list, piece by piece, and an array attribute gives a list of anything else too. -/
inductive Shaped (Part : Json → Value → Prop) : Bool → Json → Value → Prop where
  | elements {isArray : Bool} {items : List Json} {values : List Value}
      (each : List.Forall₂ Part items values) : Shaped Part isArray (.arr items) (.list values)
  | single {data : Json} {value : Value} (whole : ∀ items, data ≠ .arr items)
      (part : Part data value) : Shaped Part false data value
  | wrapped {data : Json} {value : Value} (whole : ∀ items, data ≠ .arr items)
      (part : Part data value) : Shaped Part true data (.list [value])
  | dropped {data : Json} (whole : ∀ items, data ≠ .arr items)
      (part : Part data .nil) : Shaped Part true data (.list [])

mutual

def TypeRef.Conforms : TypeRef → Json → Value → Prop
  | .scalar s, _, value => ∃ b, s.kind = .builtIn b ∧ b.HasValue value
  | .model m, data, value =>
      value = .nil ∨ ∃ record : Record, value = record.toValue ∧ m.Conforms data record

/-- A value of the attribute's type, or a list of such values; without a type, the raw value. -/
def Attribute.Conforms : Attribute → Json → Value → Prop
  | .mk _ path type? isArray, raw, value =>
      ∃ found, dig path raw = .ok found ∧
        match type? with
        | none => Shaped (fun data part => part = .lift data) isArray (found.getD .null) value
        | some t => Shaped (fun data part => t.Conforms data part) isArray (found.getD .null) value

def allConform : List Attribute → Json → List (String × Value) → Prop
  | [], _, fields => fields = []
  | a :: rest, raw, fields =>
      ∃ value others, fields = (a.name, value) :: others ∧ a.Conforms raw value ∧
        allConform rest raw others

def Model.Conforms : Model → Json → Record → Prop
  | .mk _ _ qualifiedName _ attributes, raw, record =>
      record.typeName = qualifiedName ∧ record.fieldNames.Nodup ∧
        allConform attributes raw record.fields

end

/-- What a piece of data gives under the type of an attribute. -/
def Attribute.PartConforms (a : Attribute) (data : Json) (part : Value) : Prop :=
  match a.type? with
  | none => part = .lift data
  | some t => t.Conforms data part

theorem Attribute.conforms_iff (a : Attribute) (raw : Json) (value : Value) :
    a.Conforms raw value ↔ ∃ found, dig a.path raw = .ok found ∧
      Shaped a.PartConforms a.isArray (found.getD .null) value := by
  obtain ⟨name, path, type?, isArray⟩ := a
  rw [Attribute.Conforms]
  cases type? <;> rfl

theorem allConform_iff (attributes : List Attribute) (raw : Json)
    (fields : List (String × Value)) :
    allConform attributes raw fields ↔
      List.Forall₂ (fun a field => field.1 = a.name ∧ a.Conforms raw field.2)
        attributes fields := by
  induction attributes generalizing fields with
  | nil => simp [allConform]
  | cons a rest ih =>
    simp only [allConform, ih, List.forall₂_cons_left_iff]
    constructor
    · rintro ⟨value, others, rfl, conforms, all⟩
      exact ⟨(a.name, value), others, ⟨rfl, conforms⟩, all, rfl⟩
    · rintro ⟨⟨name, value⟩, others, ⟨rfl, conforms⟩, all, rfl⟩
      exact ⟨value, others, rfl, conforms, all⟩

theorem Model.conforms_iff (m : Model) (raw : Json) (record : Record) :
    m.Conforms raw record ↔ record.typeName = m.qualifiedName ∧ record.fieldNames.Nodup ∧
      List.Forall₂ (fun a field => field.1 = a.name ∧ a.Conforms raw field.2)
        m.attributes record.fields := by
  cases m
  rw [Model.Conforms, allConform_iff]
  rfl

/-- A type under which parsing is sound: it is built in, or its records have distinct fields. -/
def TypeRef.Sound : TypeRef → Prop
  | .scalar s => ∃ b, s.kind = .builtIn b
  | .model m => m.properties.Nodup

theorem TypeRef.Conforms.not_list {t : TypeRef} {data : Json} {value : Value}
    (conforms : t.Conforms data value) (items : List Value) : value ≠ .list items := by
  cases t with
  | scalar s =>
    obtain ⟨b, _, has⟩ := conforms
    exact has.not_list items
  | model m =>
    rcases conforms with rfl | ⟨record, rfl, _⟩
    · rintro ⟨⟩
    · rintro ⟨⟩

theorem Attribute.PartConforms.not_list {a : Attribute} {data : Json} {part : Value}
    (conforms : a.PartConforms data part) (whole : ∀ items, data ≠ .arr items)
    (items : List Value) : part ≠ .list items := by
  unfold PartConforms at conforms
  split at conforms
  next =>
    subst conforms
    cases data with
    | arr parts => exact absurd rfl (whole parts)
    | _ => simp [Value.lift]
  next => exact TypeRef.Conforms.not_list conforms items

-- What is no list is wrapped into one, or dropped if it is nil.
theorem shaped_of_coerceFound {coerce : Json → Parsing Value} {Part : Json → Value → Prop}
    (sound : ∀ data part, (coerce data).value = .ok part → Part data part)
    (plain : ∀ data part, (∀ items, data ≠ .arr items) → Part data part →
      ∀ items, part ≠ .list items)
    (a : Attribute) (policy : ArrayNilPolicy) {data : Json} {whole : Value}
    (coerced : (coerceFound coerce data).value = .ok whole) :
    Shaped Part a.isArray data (a.finish policy whole) := by
  by_cases sequence : ∃ items, data = .arr items
  · obtain ⟨items, rfl⟩ := sequence
    obtain ⟨values, each, rfl⟩ := (coerceFound_arr_eq_ok_iff ..).mp coerced
    rw [a.finish_list]
    exact .elements (((coerceAll_eq_ok_iff ..).mp each).imp sound)
  · have single : ∀ items, data ≠ .arr items := fun items same => sequence ⟨items, same⟩
    rw [coerceFound_of_single coerce single] at coerced
    have part := sound data whole coerced
    rcases a.finish_single policy (plain data whole single part) with own | wrapped | dropped
    · rw [own.1, own.2]
      exact .single single part
    · rw [wrapped.1, wrapped.2]
      exact .wrapped single part
    · obtain ⟨array, rfl, finished⟩ := dropped
      rw [array, finished]
      exact .dropped single part

theorem TypeRef.conforms_of_coerce (σ : Store) {t : TypeRef} (sound : t.Throughout TypeRef.Sound)
    (records : ∀ m, t = .model m → ∀ raw record, (m.parse σ raw).value = .ok (some record) →
      m.Conforms raw record)
    (data : Json) (value : Value) (coerced : (t.coerce σ data).value = .ok value) :
    t.Conforms data value := by
  cases t with
  | scalar s =>
    obtain ⟨b, builtIn⟩ := sound.own
    refine ⟨b, builtIn, ?_⟩
    have parsed := (coerce_scalar_eq_ok_iff σ s data value).mp coerced
    rw [Scalar.parse, builtIn] at parsed
    exact b.hasValue_of_parse _ data parsed
  | model m =>
    rcases (coerce_model_eq_ok_iff_parse σ m data value).mp coerced with ⟨_, rfl⟩ | present
    · exact .inl rfl
    · obtain ⟨record, parsed, rfl⟩ := present
      exact .inr ⟨record, rfl, records m rfl data record parsed⟩

theorem Model.conforms_of_parse (σ : Store) {m : Model}
    (sound : (TypeRef.model m).Throughout TypeRef.Sound) (raw : Json) (record : Record)
    (parsed : (m.parse σ raw).value = .ok (some record)) : m.Conforms raw record := by
  induction m using Model.refers_induction generalizing raw record with
  | step m ih =>
    have given := ((m.parse_eq_ok_some_iff σ raw record).mp parsed).1
    obtain ⟨named, resolved⟩ := (m.parse_eq_ok_iff_resolve σ given record).mp parsed
    refine (m.conforms_iff raw record).mpr ⟨named, ?_, ?_⟩
    · rw [m.fieldNames_of_parse parsed]
      exact sound.own
    · have placed := (List.forall₂_and_left (p := (· ∈ m.attributes)) ..).mpr
        ⟨fun _ member => member, resolved⟩
      refine placed.imp ?_
      rintro a ⟨name, value⟩ ⟨member, named, result⟩
      refine ⟨named, (a.conforms_iff raw value).mpr ?_⟩
      obtain ⟨found, reached, whole, coerced, rfl⟩ :=
        (a.resolve_eq_ok_iff σ m.policy given value).mp result
      refine ⟨found, reached, shaped_of_coerceFound ?_ ?_ a m.policy coerced⟩
      · intro data part piece
        unfold Attribute.PartConforms
        cases typed : a.type? with
        | none =>
          rw [Attribute.part_of_untyped σ typed] at piece
          exact (Except.ok.inj piece).symm
        | some t =>
          rw [Attribute.part_of_typed σ typed] at piece
          have refers : m.Refers t := ⟨a, member, typed⟩
          refine TypeRef.conforms_of_coerce σ (sound.of_refers refers) ?_ data part piece
          rintro inner rfl raw record parsed
          exact ih inner refers (sound.of_refers refers) raw record parsed
      · intro data part whole conforms
        exact conforms.not_list whole

end RecordSchema
