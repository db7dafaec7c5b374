import RecordSchema.Proofs.Model.Reach
import RecordSchema.Proofs.Related

set_option autoImplicit false

/-!
What the array policy has to do with a parse. Two models that differ in the policy alone fail alike
or give records that agree in every field, at every depth, but for the list of an array attribute
whose data is missing.
-/

namespace RecordSchema

mutual

/-- A type with another array policy in all models that it leads to. -/
def TypeRef.withPolicy (policy : ArrayNilPolicy) : TypeRef → TypeRef
  | .scalar s => .scalar s
  | .model m => .model (m.withPolicy policy)

def Attribute.withPolicy (policy : ArrayNilPolicy) : Attribute → Attribute
  | .mk name path none isArray => .mk name path none isArray
  | .mk name path (some t) isArray => .mk name path (some (t.withPolicy policy)) isArray

def allWithPolicy (policy : ArrayNilPolicy) : List Attribute → List Attribute
  | [] => []
  | a :: rest => a.withPolicy policy :: allWithPolicy policy rest

def Model.withPolicy (policy : ArrayNilPolicy) : Model → Model
  | .mk className namespaceName qualifiedName _ attributes =>
      .mk className namespaceName qualifiedName policy (allWithPolicy policy attributes)

end

section WithPolicy

variable (policy : ArrayNilPolicy)

theorem allWithPolicy_eq_map (attributes : List Attribute) :
    allWithPolicy policy attributes = attributes.map (Attribute.withPolicy policy) := by
  induction attributes with
  | nil => rfl
  | cons a rest ih => rw [allWithPolicy, ih, List.map_cons]

namespace Attribute

variable (a : Attribute)

@[simp] theorem name_withPolicy : (a.withPolicy policy).name = a.name := by
  obtain ⟨name, path, _ | t, isArray⟩ := a <;> rfl

@[simp] theorem path_withPolicy : (a.withPolicy policy).path = a.path := by
  obtain ⟨name, path, _ | t, isArray⟩ := a <;> rfl

@[simp] theorem isArray_withPolicy : (a.withPolicy policy).isArray = a.isArray := by
  obtain ⟨name, path, _ | t, isArray⟩ := a <;> rfl

@[simp] theorem type?_withPolicy :
    (a.withPolicy policy).type? = a.type?.map (TypeRef.withPolicy policy) := by
  obtain ⟨name, path, _ | t, isArray⟩ := a <;> rfl

end Attribute

namespace Model

variable (m : Model)

@[simp] theorem className_withPolicy : (m.withPolicy policy).className = m.className := by
  cases m
  rfl

@[simp] theorem qualifiedName_withPolicy :
    (m.withPolicy policy).qualifiedName = m.qualifiedName := by
  cases m
  rfl

@[simp] theorem policy_withPolicy : (m.withPolicy policy).policy = policy := by
  cases m
  rfl

@[simp] theorem attributes_withPolicy :
    (m.withPolicy policy).attributes = m.attributes.map (Attribute.withPolicy policy) := by
  cases m
  exact allWithPolicy_eq_map policy _

end Model

end WithPolicy

/-- How the two values of an attribute come from the same data, the first under the policy that
wraps nil. Sequences give lists of related parts under both; of other data, an array attribute gives
a list with the part in it, unless the part is a list or nil. -/
inductive WrappedAlike (Part : Json → Value → Value → Prop) (isArray : Bool) :
    Json → Value → Value → Prop where
  | elements {items : List Json} {pairs : List (Value × Value)}
      (each : List.Forall₂ (fun item pair => Part item pair.1 pair.2) items pairs) :
      WrappedAlike Part isArray (.arr items) (.list (pairs.map Prod.fst))
        (.list (pairs.map Prod.snd))
  | single {data : Json} {value value' : Value} (whole : ∀ items, data ≠ .arr items)
      (bare : isArray = false) (part : Part data value value') :
      WrappedAlike Part isArray data value value'
  | missing {data : Json} (whole : ∀ items, data ≠ .arr items) (array : isArray = true)
      (part : Part data .nil .nil) : WrappedAlike Part isArray data (.list [.nil]) (.list [])
  | wrapped {data : Json} {value value' : Value} (whole : ∀ items, data ≠ .arr items)
      (array : isArray = true) (part : Part data value value') (filled : value.isNil = false)
      (plain : value.isList = false) :
      WrappedAlike Part isArray data (.list [value]) (.list [value'])
  | listed {data : Json} {values values' : List Value} (whole : ∀ items, data ≠ .arr items)
      (array : isArray = true) (part : Part data (.list values) (.list values')) :
      WrappedAlike Part isArray data (.list values) (.list values')

-- Scalar and untyped data is the same under both policies, so only records are compared further.
mutual

def TypeRef.Agree (σ : Store) : TypeRef → Json → Value → Value → Prop
  | .scalar s, data, value, value' => s.parse σ data = .ok value ∧ value' = value
  | .model m, data, value, value' =>
      (data.isNull = true ∧ value = .nil ∧ value' = .nil) ∨
        (data.isNull = false ∧ ∃ fields fields', value = .record m.qualifiedName fields ∧
          value' = .record m.qualifiedName fields' ∧ m.Agree σ data fields fields')

def Attribute.Agree (σ : Store) : Attribute → Json → Value → Value → Prop
  | .mk _ path type? isArray, raw, value, value' =>
      ∃ found, dig path raw = .ok found ∧
        match type? with
        | none => WrappedAlike (fun data part part' => part = .lift data ∧ part' = part) isArray
            (found.getD .null) value value'
        | some t => WrappedAlike (fun data part part' => t.Agree σ data part part') isArray
            (found.getD .null) value value'

def allAgree (σ : Store) :
    List Attribute → Json → List (String × Value) → List (String × Value) → Prop
  | [], _, fields, fields' => fields = [] ∧ fields' = []
  | a :: rest, raw, fields, fields' =>
      ∃ value value' others others', fields = (a.name, value) :: others ∧
        fields' = (a.name, value') :: others' ∧ a.Agree σ raw value value' ∧
        allAgree σ rest raw others others'

/-- The fields of two records of one input, the first parsed under the policy that wraps nil. -/
def Model.Agree (σ : Store) :
    Model → Json → List (String × Value) → List (String × Value) → Prop
  | .mk _ _ _ _ attributes, raw, fields, fields' => allAgree σ attributes raw fields fields'

end

/-- What two parses of one input give: no record of null, else records that agree. -/
inductive Model.RecordsAgree (m : Model) (σ : Store) (raw : Json) :
    Option Record → Option Record → Prop where
  | nothing (bare : raw.isNull = true) : RecordsAgree m σ raw none none
  | records {fields fields' : List (String × Value)} (given : raw.isNull = false)
      (agree : m.Agree σ raw fields fields') :
      RecordsAgree m σ raw (some ⟨m.qualifiedName, fields⟩) (some ⟨m.qualifiedName, fields'⟩)

variable {σ : Store}

/-- What a piece of data gives under the type of an attribute. -/
def Attribute.PartsAgree (σ : Store) (a : Attribute) (data : Json) (part part' : Value) : Prop :=
  match a.type? with
  | none => part = .lift data ∧ part' = part
  | some t => t.Agree σ data part part'

theorem Attribute.agree_iff (a : Attribute) (raw : Json) (value value' : Value) :
    a.Agree σ raw value value' ↔ ∃ found, dig a.path raw = .ok found ∧
      WrappedAlike (a.PartsAgree σ) a.isArray (found.getD .null) value value' := by
  obtain ⟨name, path, type?, isArray⟩ := a
  rw [Attribute.Agree]
  cases type? <;> rfl

theorem Attribute.PartsAgree.same_or_records {a : Attribute} {data : Json} {part part' : Value}
    (agree : a.PartsAgree σ data part part') :
    part' = part ∨ ∃ typeName fields fields', part = .record typeName fields ∧
      part' = .record typeName fields' := by
  unfold PartsAgree at agree
  split at agree
  next => exact .inl agree.2
  next t _ =>
    cases t with
    | scalar s => exact .inl agree.2
    | model m =>
      rcases agree with ⟨_, rfl, rfl⟩ | ⟨_, fields, fields', rfl, rfl, _⟩
      · exact .inl rfl
      · exact .inr ⟨_, fields, fields', rfl, rfl⟩

theorem Attribute.finish_alike {a : Attribute} {data : Json} {part part' : Value}
    (whole : ∀ items, data ≠ .arr items) (agree : a.PartsAgree σ data part part') :
    WrappedAlike (a.PartsAgree σ) a.isArray data (a.finish .wrapNil part)
      (a.finish .empty part') := by
  unfold finish
  cases array : a.isArray with
  | false => exact .single whole rfl agree
  | true =>
    -- The policy sees nothing but whether the part is nil, which both parts are or neither.
    rcases agree.same_or_records with rfl | ⟨typeName, fields, fields', rfl, rfl⟩
    · cases part' with
      | nil => exact .missing whole rfl agree
      | list values => exact .listed whole rfl agree
      | _ => exact .wrapped whole rfl agree rfl rfl
    · exact .wrapped whole rfl agree rfl rfl

theorem coerceAll_related {coerce coerce' : Json → Parsing Value}
    {Part : Json → Value → Value → Prop}
    (parts : ∀ data, Logged.Related Eq (Part data) (coerce data) (coerce' data))
    (items : List Json) :
    Logged.Related Eq (fun values values' => ∃ pairs : List (Value × Value),
        List.Forall₂ (fun item pair => Part item pair.1 pair.2) items pairs ∧
          values = pairs.map Prod.fst ∧ values' = pairs.map Prod.snd)
      (coerceAll coerce items) (coerceAll coerce' items) := by
  induction items with
  | nil => exact .ok ⟨[], .nil, rfl, rfl⟩
  | cons item rest ih =>
    refine (parts item).andThen fun value value' part => ih.map ?_
    rintro _ _ ⟨pairs, each, rfl, rfl⟩
    exact ⟨(value, value') :: pairs, .cons part each, rfl, rfl⟩

theorem Attribute.coerceFound_related {a : Attribute} {coerce coerce' : Json → Parsing Value}
    (parts : ∀ data, Logged.Related Eq (a.PartsAgree σ data) (coerce data) (coerce' data))
    (data : Json) :
    Logged.Related Eq (WrappedAlike (a.PartsAgree σ) a.isArray data)
      ((coerceFound coerce data).map (Except.map (a.finish .wrapNil)))
      ((coerceFound coerce' data).map (Except.map (a.finish .empty))) := by
  by_cases sequence : ∃ items, data = .arr items
  · -- A sequence gives a list, which no policy wraps.
    obtain ⟨items, rfl⟩ := sequence
    have lists : Logged.Related Eq (fun value value' => ∃ values values', value = .list values ∧
          value' = .list values' ∧
          WrappedAlike (a.PartsAgree σ) a.isArray (.arr items) (.list values) (.list values'))
        (coerceFound coerce (.arr items)) (coerceFound coerce' (.arr items)) := by
      refine (coerceAll_related parts items).map ?_
      rintro _ _ ⟨pairs, each, rfl, rfl⟩
      exact ⟨_, _, rfl, rfl, .elements each⟩
    refine lists.map ?_
    rintro _ _ ⟨values, values', rfl, rfl, alike⟩
    rw [a.finish_list, a.finish_list]
    exact alike
  · have whole : ∀ items, data ≠ .arr items := fun items same => sequence ⟨items, same⟩
    rw [coerceFound_of_single coerce whole, coerceFound_of_single coerce' whole]
    exact (parts data).map fun part part' agree => a.finish_alike whole agree

theorem Attribute.resolve_agree {a : Attribute}
    (parts : ∀ data, Logged.Related Eq (a.PartsAgree σ data)
      ((a.withPolicy .wrapNil).part σ data) ((a.withPolicy .empty).part σ data))
    {raw : Json} (given : raw.isNull = false) :
    Logged.Related Eq (a.Agree σ raw) ((a.withPolicy .wrapNil).resolve σ .wrapNil raw)
      ((a.withPolicy .empty).resolve σ .empty raw) := by
  have finish (policy other : ArrayNilPolicy) :
      (a.withPolicy policy).finish other = a.finish other := by
    unfold Attribute.finish
    rw [isArray_withPolicy]
  rw [resolve_eq _ _ _ given, resolve_eq _ _ _ given, path_withPolicy, path_withPolicy, finish,
    finish]
  cases found : dig a.path raw with
  | error e => exact .error rfl
  | ok data =>
    refine (coerceFound_related parts (data.getD .null)).mono fun value value' alike => ?_
    exact (a.agree_iff raw value value').mpr ⟨data, found, alike⟩

theorem resolveFields_agree (owner : String) {attributes : List Attribute} {raw : Json}
    (each : ∀ a ∈ attributes, Logged.Related Eq (a.Agree σ raw)
      ((a.withPolicy .wrapNil).resolve σ .wrapNil raw)
      ((a.withPolicy .empty).resolve σ .empty raw)) :
    Logged.Related Eq (allAgree σ attributes raw)
      (resolveFields σ owner .wrapNil (attributes.map (Attribute.withPolicy .wrapNil)) raw)
      (resolveFields σ owner .empty (attributes.map (Attribute.withPolicy .empty)) raw) := by
  induction attributes with
  | nil => exact .ok ⟨rfl, rfl⟩
  | cons a rest ih =>
    have own := each a (by simp)
    have others := ih fun b member => each b (by simp [member])
    simp only [List.map_cons, resolveFields, Attribute.name_withPolicy, Attribute.path_withPolicy]
    rcases own.result with ⟨value, value', left, right, agree⟩ | ⟨e, _, left, right, rfl⟩
    · simp only [left, right]
      refine ⟨(others.map fun fields fields' same => ?_).result, by rw [own.log, others.log]⟩
      exact ⟨value, value', fields, fields', rfl, rfl, agree, same⟩
    · simp only [left, right]
      exact ⟨.inr ⟨_, _, rfl, rfl, rfl⟩, by rw [own.log]⟩

def Model.ParsesAlike (σ : Store) (m : Model) : Prop :=
  ∀ raw : Json, raw.isNull = false →
    Logged.Related Eq (m.Agree σ raw) ((m.withPolicy .wrapNil).parseFields σ raw)
      ((m.withPolicy .empty).parseFields σ raw)

theorem TypeRef.coerce_agree {t : TypeRef} (records : ∀ m, t = .model m → m.ParsesAlike σ)
    (data : Json) :
    Logged.Related Eq (t.Agree σ data) ((t.withPolicy .wrapNil).coerce σ data)
      ((t.withPolicy .empty).coerce σ data) := by
  cases t with
  | scalar s =>
    simp only [TypeRef.withPolicy, TypeRef.coerce]
    cases parsed : s.parse σ data with
    | error e => exact .error rfl
    | ok value => exact .ok ⟨parsed, rfl⟩
  | model m =>
    simp only [TypeRef.withPolicy, TypeRef.coerce, Model.qualifiedName_withPolicy]
    cases bare : data.isNull with
    | true => exact .ok (.inl ⟨bare, rfl, rfl⟩)
    | false =>
      refine (records m rfl data bare).map fun fields fields' agree => ?_
      exact .inr ⟨bare, fields, fields', rfl, rfl, agree⟩

theorem Attribute.part_agree {a : Attribute}
    (records : ∀ m, a.type? = some (.model m) → m.ParsesAlike σ) (data : Json) :
    Logged.Related Eq (a.PartsAgree σ data) ((a.withPolicy .wrapNil).part σ data)
      ((a.withPolicy .empty).part σ data) := by
  unfold PartsAgree part
  simp only [type?_withPolicy]
  cases typed : a.type? with
  | none => exact .ok ⟨rfl, rfl⟩
  | some t =>
    refine TypeRef.coerce_agree ?_ data
    rintro m rfl
    exact records m typed

theorem Model.agree_iff (m : Model) (raw : Json) (fields fields' : List (String × Value)) :
    m.Agree σ raw fields fields' ↔ allAgree σ m.attributes raw fields fields' := by
  cases m
  rw [Model.Agree]
  rfl

theorem Model.parsesAlike (σ : Store) (m : Model) : m.ParsesAlike σ := by
  -- Induction on the references between models: nested records agree by the model referred to.
  induction m using Model.refers_induction with
  | step m ih =>
    intro raw given
    simp only [parseFields_eq, qualifiedName_withPolicy, policy_withPolicy, attributes_withPolicy]
    refine (resolveFields_agree m.qualifiedName fun a member => ?_).mono
      fun _ _ all => (m.agree_iff ..).mpr all
    refine Attribute.resolve_agree (Attribute.part_agree ?_) given
    intro inner typed
    exact ih inner ⟨a, member, typed⟩

theorem Model.parse_agree (m : Model) (σ : Store) (raw : Json) :
    Logged.Related Eq (m.RecordsAgree σ raw) ((m.withPolicy .wrapNil).parse σ raw)
      ((m.withPolicy .empty).parse σ raw) := by
  simp only [parse, qualifiedName_withPolicy]
  cases bare : raw.isNull with
  | true => exact .ok (.nothing bare)
  | false =>
    exact (m.parsesAlike σ raw bare).map fun fields fields' agree => .records bare agree

/-- A model with one array attribute. -/
def notes (policy : ArrayNilPolicy) : Model :=
  .mk "Note" "" "Note" policy [.mk "tags" ["tags"] none true]

-- Missing data differs; a null in the data does not.
example :
    ((notes .wrapNil).parse .empty (.obj [])).value =
      .ok (some ⟨"Note", [("tags", .list [.nil])]⟩) ∧
    ((notes .empty).parse .empty (.obj [])).value = .ok (some ⟨"Note", [("tags", .list [])]⟩) ∧
    ((notes .empty).parse .empty (.obj [("tags", .arr [.null])])).value =
      .ok (some ⟨"Note", [("tags", .list [.nil])]⟩) := ⟨rfl, rfl, rfl⟩

end RecordSchema
