import RecordSchema.Proofs.Model.Parsing

set_option autoImplicit false

/-!
Where the records in a parsed value come from: every one is the record of a model that the parsed
type leads to, or lies in a value that a caller's own type has given.
-/

namespace RecordSchema

/-- A record in a value, at any depth. -/
inductive Value.Holds (inner : Record) : Value → Prop where
  | own (typeName : String) (fields : List (String × Value))
      (same : inner = ⟨typeName, fields⟩) : Holds inner (.record typeName fields)
  | item (items : List Value) (value : Value) (member : value ∈ items)
      (below : Holds inner value) : Holds inner (.list items)
  | field (typeName : String) (fields : List (String × Value)) (name : String) (value : Value)
      (member : (name, value) ∈ fields) (below : Holds inner value) :
      Holds inner (.record typeName fields)

/-- A record below another one. -/
def Record.Nests (outer inner : Record) : Prop :=
  ∃ name value, (name, value) ∈ outer.fields ∧ value.Holds inner

/-- The types of the attributes of a model. -/
def Model.Refers (m : Model) (t : TypeRef) : Prop := ∃ a ∈ m.attributes, a.type? = some t

/-- A value that a caller's type gives for some data, whatever tokens its set has. -/
def CustomType.Gives (type : CustomType) (value : Value) : Prop :=
  ∃ tokens raw, type.parse tokens raw = .ok value

/-- Where a record in a value of a type can come from. -/
inductive TypeRef.Yields (inner : Record) : TypeRef → Prop where
  | custom (id : Nat) (type : CustomType) (value : Value) (given : type.Gives value)
      (held : value.Holds inner) : Yields inner (.scalar ⟨id, .custom type⟩)
  | own (m : Model) (named : inner.typeName = m.qualifiedName)
      (shaped : inner.fieldNames = m.properties) : Yields inner (.model m)
  | nested (m : Model) (t : TypeRef) (refers : m.Refers t) (further : Yields inner t) :
      Yields inner (.model m)

namespace Value

variable {inner : Record}

/-- A value with no other values in it. -/
def isSimple : Value → Bool
  | list _ | record _ _ => false
  | _ => true

theorem Holds.not_simple {value : Value} (held : value.Holds inner) : value.isSimple = false := by
  cases held <;> rfl

theorem not_holds_lift (raw : Json) : ¬ (Value.lift raw).Holds inner := by
  intro held
  generalize lifted : Value.lift raw = value at held
  induction held generalizing raw with
  | own typeName fields same => cases raw <;> simp [lift] at lifted
  | field typeName fields name value member below ih => cases raw <;> simp [lift] at lifted
  | item items value member below ih =>
      cases raw with
      | arr parts =>
          rw [lift, liftAll_eq_map, Value.list.injEq] at lifted
          subst lifted
          obtain ⟨part, _, same⟩ := List.mem_map.mp member
          exact ih part same
      | _ => simp [lift] at lifted

theorem holds_of_wrap (policy : ArrayNilPolicy) (value : Value)
    (held : (policy.wrap value).Holds inner) : value.Holds inner := by
  unfold ArrayNilPolicy.wrap at held
  split at held
  next => exact held
  next =>
    cases policy with
    | wrapNil =>
        obtain _ | ⟨_, item, member, below⟩ := held
        rw [List.mem_singleton.mp member] at below
        exact below
    | empty =>
        obtain _ | ⟨_, item, member, below⟩ := held
        simp at member
  next =>
    obtain _ | ⟨_, item, member, below⟩ := held
    rw [List.mem_singleton.mp member] at below
    exact below

end Value

theorem BuiltIn.report_simple {α : Type} (b : BuiltIn) (raw : Json) (toValue : α → Value)
    (simple : ∀ a, (toValue a).isSimple = true) (checked : Except CoercionError.Reason α)
    {value : Value} (reported : b.report raw toValue checked = .ok value) :
    value.isSimple = true := by
  cases checked with
  | error reason => cases reported
  | ok a =>
      cases reported
      exact simple a

theorem BuiltIn.parse_simple (b : BuiltIn) (settings : ScalarSettings) (raw : Json) {value : Value}
    (parsed : b.parse settings raw = .ok value) : value.isSimple = true := by
  cases b with
  | integer | positiveInteger | float | date | datetime =>
      simp only [parse] at parsed
      split at parsed
      next =>
        cases parsed
        rfl
      next => exact report_simple _ _ _ (fun _ => rfl) _ parsed
  | string =>
      simp only [parse] at parsed
      split at parsed <;>
      · cases parsed
        rfl
  | boolean =>
      simp only [parse] at parsed
      repeat' split at parsed
      all_goals cases parsed
      all_goals rfl

theorem mem_of_coerceAll {coerce : Json → Parsing Value} {items : List Json} {values : List Value}
    (coerced : (coerceAll coerce items).value = .ok values) {value : Value}
    (member : value ∈ values) : ∃ raw, (coerce raw).value = .ok value := by
  induction items generalizing values with
  | nil =>
      cases coerced
      simp at member
  | cons item rest ih =>
      obtain ⟨head, first, tail, others, rfl⟩ := (coerceAll_cons_eq_ok_iff ..).mp coerced
      rcases List.mem_cons.mp member with rfl | later
      · exact ⟨item, first⟩
      · exact ih others later

theorem holds_of_coerceFound {inner : Record} {coerce : Json → Parsing Value} {raw : Json}
    {value : Value} (found : (coerceFound coerce raw).value = .ok value)
    (held : value.Holds inner) : ∃ raw part, (coerce raw).value = .ok part ∧ part.Holds inner := by
  cases raw with
  | arr items =>
      obtain ⟨values, coerced, rfl⟩ := (coerceFound_arr_eq_ok_iff ..).mp found
      obtain _ | ⟨_, part, member, below⟩ := held
      obtain ⟨item, parsed⟩ := mem_of_coerceAll coerced member
      exact ⟨item, part, parsed, below⟩
  | _ => exact ⟨_, value, found, held⟩

theorem holds_of_wrapped {inner : Record} {policy : ArrayNilPolicy} {isArray : Bool}
    {parsed : Parsing Value} {value : Value}
    (wrapped : (if isArray then parsed.map (Except.map policy.wrap) else parsed).value = .ok value)
    (held : value.Holds inner) : ∃ part, parsed.value = .ok part ∧ part.Holds inner := by
  cases isArray with
  | false => exact ⟨value, wrapped, held⟩
  | true =>
      obtain ⟨part, result, rfl⟩ := (map_eq_ok_iff policy.wrap parsed.value value).mp wrapped
      exact ⟨part, result, Value.holds_of_wrap policy part held⟩

theorem TypeRef.yields_of_scalar {σ : Store} {inner : Record} {s : Scalar} {raw : Json}
    {value : Value} (coerced : ((TypeRef.scalar s).coerce σ raw).value = .ok value)
    (held : value.Holds inner) : (TypeRef.scalar s).Yields inner := by
  have parsed := (coerce_scalar_eq_ok_iff σ s raw value).mp coerced
  obtain ⟨id, kind⟩ := s
  cases kind with
  | custom type => exact .custom id type value ⟨_, raw, parsed⟩ held
  | builtIn b =>
      have simple := b.parse_simple _ raw parsed
      rw [held.not_simple] at simple
      cases simple

theorem names_resolveFields {σ : Store} {owner : String} {policy : ArrayNilPolicy}
    {attributes : List Attribute} {raw : Json} {fields : List (String × Value)}
    (resolved : (resolveFields σ owner policy attributes raw).value = .ok fields) :
    fields.map Prod.fst = attributes.map Attribute.name := by
  induction attributes generalizing fields with
  | nil =>
      cases resolved
      rfl
  | cons a rest ih =>
      obtain ⟨value, _, tail, others, rfl⟩ := (resolveFields_cons_eq_ok_iff ..).mp resolved
      rw [List.map_cons, List.map_cons, ih others]

theorem Model.names_parseFields {σ : Store} {m : Model} {raw : Json}
    {fields : List (String × Value)} (parsed : (m.parseFields σ raw).value = .ok fields) :
    fields.map Prod.fst = m.properties := by
  cases m with
  | mk className namespaceName qualifiedName policy attributes =>
      rw [parseFields] at parsed
      exact names_resolveFields parsed

theorem Model.fieldNames_of_parse {σ : Store} {m : Model} {raw : Json} {record : Record}
    (parsed : (m.parse σ raw).value = .ok (some record)) : record.fieldNames = m.properties := by
  obtain ⟨_, fields, result, rfl⟩ := (m.parse_eq_ok_some_iff σ raw record).mp parsed
  exact names_parseFields result

theorem Model.distinct_of_parse {σ : Store} {m : Model} {raw : Json} {record : Record}
    (parsed : (m.parse σ raw).value = .ok (some record)) (distinct : m.properties.Nodup) :
    record.fieldNames.Nodup := by
  rw [m.fieldNames_of_parse parsed]
  exact distinct

-- The induction is on the type, so it follows the references from model to model.
mutual

theorem TypeRef.yields_of_coerce (σ : Store) {inner : Record} :
    ∀ (t : TypeRef) (raw : Json) {value : Value}, (t.coerce σ raw).value = .ok value →
      value.Holds inner → t.Yields inner
  | .scalar s, raw, value, coerced, held => TypeRef.yields_of_scalar coerced held
  | .model m, raw, value, coerced, held => by
      rcases (TypeRef.coerce_model_eq_ok_iff σ m raw value).mp coerced with missing | present
      · obtain ⟨_, rfl⟩ := missing
        cases held
      · obtain ⟨_, fields, parsed, rfl⟩ := present
        cases held with
        | own _ _ same =>
            subst same
            exact .own m rfl (m.names_parseFields parsed)
        | field _ _ name part member below =>
            obtain ⟨t, refers, yields⟩ :=
              Model.yields_of_parseFields σ m raw parsed member below
            exact .nested m t refers yields

theorem Attribute.yields_of_resolve (σ : Store) (policy : ArrayNilPolicy) {inner : Record} :
    ∀ (a : Attribute) (raw : Json) {value : Value}, (a.resolve σ policy raw).value = .ok value →
      value.Holds inner → ∃ t, a.type? = some t ∧ t.Yields inner
  | .mk name path type? isArray, raw, value, resolved, held => by
      rw [Attribute.resolve] at resolved
      split at resolved
      next =>
        cases resolved
        cases held
      next =>
        split at resolved
        next => cases resolved
        next found _ =>
          obtain ⟨unwrapped, given, inside⟩ := holds_of_wrapped resolved held
          cases type? with
          | none =>
              cases given
              exact absurd inside (Value.not_holds_lift _)
          | some t =>
              obtain ⟨part, result, coerced, below⟩ := holds_of_coerceFound given inside
              exact ⟨t, rfl, TypeRef.yields_of_coerce σ t part coerced below⟩

theorem yields_of_resolveFields (σ : Store) (owner : String) (policy : ArrayNilPolicy)
    {inner : Record} : ∀ (attributes : List Attribute) (raw : Json)
      {fields : List (String × Value)},
      (resolveFields σ owner policy attributes raw).value = .ok fields →
      ∀ {name : String} {value : Value}, (name, value) ∈ fields → value.Holds inner →
        ∃ a ∈ attributes, ∃ t, a.type? = some t ∧ t.Yields inner
  | [], raw, fields, resolved, name, value, member, held => by
      cases resolved
      simp at member
  | a :: rest, raw, fields, resolved, name, value, member, held => by
      obtain ⟨first, parsed, tail, others, rfl⟩ := (resolveFields_cons_eq_ok_iff ..).mp resolved
      rcases List.mem_cons.mp member with same | later
      · obtain ⟨rfl, rfl⟩ := Prod.mk.inj same
        exact ⟨a, List.mem_cons_self, Attribute.yields_of_resolve σ policy a raw parsed held⟩
      · obtain ⟨other, inRest, yields⟩ :=
          yields_of_resolveFields σ owner policy rest raw others later held
        exact ⟨other, List.mem_cons_of_mem _ inRest, yields⟩

theorem Model.yields_of_parseFields (σ : Store) {inner : Record} :
    ∀ (m : Model) (raw : Json) {fields : List (String × Value)},
      (m.parseFields σ raw).value = .ok fields →
      ∀ {name : String} {value : Value}, (name, value) ∈ fields → value.Holds inner →
        ∃ t, m.Refers t ∧ t.Yields inner
  | .mk className namespaceName qualifiedName policy attributes, raw, fields, parsed, name, value,
      member, held => by
      rw [Model.parseFields] at parsed
      obtain ⟨a, own, t, typed, yields⟩ :=
        yields_of_resolveFields σ qualifiedName policy attributes raw parsed member held
      exact ⟨t, ⟨a, own, typed⟩, yields⟩

end

theorem Model.yields_of_parse {σ : Store} {m : Model} {raw : Json} {outer inner : Record}
    (parsed : (m.parse σ raw).value = .ok (some outer)) (nested : outer.Nests inner) :
    ∃ t, m.Refers t ∧ t.Yields inner := by
  obtain ⟨_, fields, result, rfl⟩ := (m.parse_eq_ok_some_iff σ raw outer).mp parsed
  obtain ⟨name, value, member, held⟩ := nested
  exact yields_of_parseFields σ m raw result member held

end RecordSchema
