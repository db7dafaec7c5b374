import RecordSchema.Model.Parsing
import RecordSchema.Proofs.Success
import Mathlib.Data.List.Forall2

set_option autoImplicit false

/-!
When each step of parsing succeeds and what it then gives, and which step it is that fails.
-/

namespace RecordSchema

theorem coerceAll_cons_eq_ok_iff (coerce : Json → Parsing Value) (item : Json) (rest : List Json)
    (values : List Value) :
    (coerceAll coerce (item :: rest)).value = .ok values ↔
      ∃ head, (coerce item).value = .ok head ∧
        ∃ tail, (coerceAll coerce rest).value = .ok tail ∧ head :: tail = values := by
  simp only [coerceAll, Logged.value_andThen, bind_eq_ok_iff, Logged.value_map, map_eq_ok_iff]

theorem coerceAll_eq_ok_iff (coerce : Json → Parsing Value) (items : List Json)
    (values : List Value) :
    (coerceAll coerce items).value = .ok values ↔
      List.Forall₂ (fun item value => (coerce item).value = .ok value) items values := by
  induction items generalizing values with
  | nil => simp [coerceAll, eq_comm]
  | cons item rest ih =>
    simp only [coerceAll_cons_eq_ok_iff, ih, List.forall₂_cons_left_iff]
    constructor
    · rintro ⟨head, first, tail, others, rfl⟩
      exact ⟨head, tail, first, others, rfl⟩
    · rintro ⟨head, tail, first, others, rfl⟩
      exact ⟨head, first, tail, others, rfl⟩

theorem coerceAll_eq_error_iff (coerce : Json → Parsing Value) (items : List Json)
    (e : ParseFailure) :
    (coerceAll coerce items).value = .error e ↔
      ∃ item, FirstFailure (fun item => (coerce item).value) items item e := by
  induction items with
  | nil => simp [coerceAll, not_firstFailure_nil]
  | cons item rest ih =>
    simp only [coerceAll, Logged.value_andThen, bind_eq_error_iff, Logged.value_map,
      map_eq_error_iff, ih, firstFailure_cons_iff]
    constructor
    · rintro (failed | ⟨value, passed, other, first⟩)
      · exact ⟨item, .inl ⟨rfl, failed⟩⟩
      · exact ⟨other, .inr ⟨⟨value, passed⟩, first⟩⟩
    · rintro ⟨other, ⟨rfl, failed⟩ | ⟨⟨value, passed⟩, first⟩⟩
      · exact .inl failed
      · exact .inr ⟨value, passed, other, first⟩

theorem coerceFound_arr_eq_ok_iff (coerce : Json → Parsing Value) (items : List Json)
    (value : Value) :
    (coerceFound coerce (.arr items)).value = .ok value ↔
      ∃ values, (coerceAll coerce items).value = .ok values ∧ Value.list values = value := by
  rw [coerceFound, Logged.value_map, map_eq_ok_iff]

theorem coerceFound_of_single (coerce : Json → Parsing Value) {data : Json}
    (single : ∀ items, data ≠ .arr items) : coerceFound coerce data = coerce data := by
  cases data with
  | arr items => exact absurd rfl (single items)
  | _ => rfl

theorem coerceFound_arr_eq_error_iff (coerce : Json → Parsing Value) (items : List Json)
    (e : ParseFailure) :
    (coerceFound coerce (.arr items)).value = .error e ↔
      ∃ item, FirstFailure (fun item => (coerce item).value) items item e := by
  rw [coerceFound, Logged.value_map, map_eq_error_iff, coerceAll_eq_error_iff]

theorem TypeRef.coerce_scalar_eq_ok_iff (σ : Store) (s : Scalar) (raw : Json) (value : Value) :
    ((TypeRef.scalar s).coerce σ raw).value = .ok value ↔ s.parse σ raw = .ok value := by
  rw [coerce, Logged.value_pure, mapError_eq_ok_iff]

theorem TypeRef.coerce_model_eq_ok_iff (σ : Store) (m : Model) (raw : Json) (value : Value) :
    ((TypeRef.model m).coerce σ raw).value = .ok value ↔
      (raw.isNull = true ∧ Value.nil = value) ∨
        (raw.isNull = false ∧ ∃ fields, (m.parseFields σ raw).value = .ok fields ∧
          Value.record m.qualifiedName fields = value) := by
  rw [coerce]
  cases null : raw.isNull with
  | true => simp
  | false => simp [map_eq_ok_iff]

theorem TypeRef.coerce_model_eq_error_iff (σ : Store) (m : Model) (raw : Json)
    (e : ParseFailure) :
    ((TypeRef.model m).coerce σ raw).value = .error e ↔ (m.parse σ raw).value = .error e := by
  rw [coerce, Model.parse]
  cases null : raw.isNull with
  | true => simp
  | false => simp [map_eq_error_iff]

/-- What one piece of the data that is found gives: without a type it stays as it is. -/
def Attribute.part (σ : Store) (a : Attribute) : Json → Parsing Value :=
  match a.type? with
  | none => fun data => .pure (.ok (.lift data))
  | some t => t.coerce σ

/-- What becomes of the value of all pieces. -/
def Attribute.finish (a : Attribute) (policy : ArrayNilPolicy) : Value → Value :=
  if a.isArray then policy.wrap else id

theorem Attribute.part_of_untyped (σ : Store) {a : Attribute} (untyped : a.type? = none) :
    a.part σ = fun data => .pure (.ok (.lift data)) := by
  simp only [part, untyped]

theorem Attribute.part_of_typed (σ : Store) {a : Attribute} {t : TypeRef}
    (typed : a.type? = some t) : a.part σ = t.coerce σ := by
  simp only [part, typed]

theorem Attribute.finish_list (a : Attribute) (policy : ArrayNilPolicy) (items : List Value) :
    a.finish policy (.list items) = .list items := by
  unfold finish
  split <;> rfl

theorem Attribute.finish_single (a : Attribute) (policy : ArrayNilPolicy) {whole : Value}
    (single : ∀ items, whole ≠ .list items) :
    (a.isArray = false ∧ a.finish policy whole = whole) ∨
      (a.isArray = true ∧ a.finish policy whole = .list [whole]) ∨
      (a.isArray = true ∧ whole = .nil ∧ a.finish policy whole = .list []) := by
  unfold finish
  cases a.isArray with
  | false => exact .inl ⟨rfl, rfl⟩
  | true =>
    cases whole with
    | list items => exact absurd rfl (single items)
    | nil =>
      cases policy with
      | wrapNil => exact .inr (.inl ⟨rfl, rfl⟩)
      | empty => exact .inr (.inr ⟨rfl, rfl, rfl⟩)
    | _ => exact .inr (.inl ⟨rfl, rfl⟩)

theorem coerceAll_lift (items : List Json) :
    coerceAll (fun part => .pure (.ok (.lift part))) items = .pure (.ok (items.map .lift)) := by
  induction items with
  | nil => rfl
  | cons item rest ih =>
    rw [coerceAll, ih]
    rfl

/-- Untyped data is lifted piece by piece, as typed data is coerced. -/
theorem coerceFound_lift (data : Json) :
    coerceFound (fun part => .pure (.ok (.lift part))) data = .pure (.ok (.lift data)) := by
  cases data with
  | arr items =>
    rw [coerceFound, coerceAll_lift, Value.lift, Value.liftAll_eq_map]
    rfl
  | _ => rfl

theorem Attribute.resolve_eq (σ : Store) (policy : ArrayNilPolicy) (a : Attribute) {raw : Json}
    (given : raw.isNull = false) :
    a.resolve σ policy raw =
      match dig a.path raw with
      | .error e => .pure (.error (.ofCoercion e))
      | .ok found =>
          (coerceFound (a.part σ) (found.getD .null)).map (Except.map (a.finish policy)) := by
  obtain ⟨name, path, type?, isArray⟩ := a
  rw [resolve, given]
  simp only [Bool.false_eq_true, if_false, Attribute.path]
  cases dig path raw with
  | error e => rfl
  | ok found =>
    -- An attribute that is no array keeps its value.
    have kept (x : Parsing Value) : x.map (Except.map id) = x := by
      obtain ⟨value, log⟩ := x
      cases value <;> rfl
    cases type? with
    | none =>
      have lifted : coerceFound (part σ (mk name path none isArray)) (found.getD .null) =
          .pure (.ok (.lift (found.getD .null))) := by
        rw [part_of_untyped σ rfl, coerceFound_lift]
      change _ = (coerceFound (part σ (mk name path none isArray)) (found.getD .null)).map _
      rw [lifted]
      cases isArray <;> rfl
    | some t =>
      cases isArray
      · exact (kept _).symm
      · rfl

theorem Attribute.value_resolve (σ : Store) (policy : ArrayNilPolicy) (a : Attribute)
    {raw : Json} (given : raw.isNull = false) :
    (a.resolve σ policy raw).value =
      ((dig a.path raw).mapError .ofCoercion).bind fun found =>
        (coerceFound (a.part σ) (found.getD .null)).value.map (a.finish policy) := by
  rw [a.resolve_eq σ policy given]
  cases dig a.path raw <;> rfl

theorem Attribute.resolve_eq_ok_iff (σ : Store) (policy : ArrayNilPolicy) (a : Attribute)
    {raw : Json} (given : raw.isNull = false) (value : Value) :
    (a.resolve σ policy raw).value = .ok value ↔
      ∃ found, dig a.path raw = .ok found ∧
        ∃ whole, (coerceFound (a.part σ) (found.getD .null)).value = .ok whole ∧
          a.finish policy whole = value := by
  simp only [value_resolve σ policy a given, bind_eq_ok_iff, mapError_eq_ok_iff, map_eq_ok_iff]

theorem Attribute.resolve_eq_error_iff (σ : Store) (policy : ArrayNilPolicy) (a : Attribute)
    {raw : Json} (given : raw.isNull = false) (e : ParseFailure) :
    (a.resolve σ policy raw).value = .error e ↔
      (∃ root, dig a.path raw = .error root ∧ .ofCoercion root = e) ∨
        ∃ found, dig a.path raw = .ok found ∧
          (coerceFound (a.part σ) (found.getD .null)).value = .error e := by
  simp only [value_resolve σ policy a given, bind_eq_error_iff, mapError_eq_error_iff,
    mapError_eq_ok_iff, map_eq_error_iff]

theorem resolveFields_cons_eq_ok_iff (σ : Store) (owner : String) (policy : ArrayNilPolicy)
    (a : Attribute) (rest : List Attribute) (raw : Json) (fields : List (String × Value)) :
    (resolveFields σ owner policy (a :: rest) raw).value = .ok fields ↔
      ∃ value, (a.resolve σ policy raw).value = .ok value ∧
        ∃ tail, (resolveFields σ owner policy rest raw).value = .ok tail ∧
          (a.name, value) :: tail = fields := by
  simp only [resolveFields]
  cases (a.resolve σ policy raw).value with
  | error e => simp
  | ok value => simp [map_eq_ok_iff]

theorem resolveFields_eq_ok_iff (σ : Store) (owner : String) (policy : ArrayNilPolicy)
    (attributes : List Attribute) (raw : Json) (fields : List (String × Value)) :
    (resolveFields σ owner policy attributes raw).value = .ok fields ↔
      List.Forall₂ (fun a field => field.1 = a.name ∧
        (a.resolve σ policy raw).value = .ok field.2) attributes fields := by
  induction attributes generalizing fields with
  | nil => simp [resolveFields, eq_comm]
  | cons a rest ih =>
    simp only [resolveFields_cons_eq_ok_iff, ih, List.forall₂_cons_left_iff]
    constructor
    · rintro ⟨value, resolved, tail, others, rfl⟩
      exact ⟨(a.name, value), tail, ⟨rfl, resolved⟩, others, rfl⟩
    · rintro ⟨⟨name, value⟩, tail, ⟨rfl, resolved⟩, others, rfl⟩
      exact ⟨value, resolved, tail, others, rfl⟩

theorem resolveFields_eq_error_iff (σ : Store) (owner : String) (policy : ArrayNilPolicy)
    (attributes : List Attribute) (raw : Json) (e : ParseFailure) :
    (resolveFields σ owner policy attributes raw).value = .error e ↔
      ∃ a cause, FirstFailure (fun a : Attribute => (a.resolve σ policy raw).value)
          attributes a cause ∧
        cause.atAttribute ⟨a.name, owner, a.path, raw⟩ = e := by
  induction attributes with
  | nil => simp [resolveFields, not_firstFailure_nil]
  | cons a rest ih =>
    simp only [resolveFields, firstFailure_cons_iff]
    cases resolved : (a.resolve σ policy raw).value with
    | error cause =>
      constructor
      · rintro ⟨⟩
        exact ⟨a, cause, .inl ⟨rfl, rfl⟩, rfl⟩
      · rintro ⟨other, otherCause, ⟨rfl, ⟨⟩⟩ | ⟨⟨value, passed⟩, _⟩, rfl⟩
        · rfl
        · cases passed
    | ok value =>
      simp only [map_eq_error_iff, ih]
      constructor
      · rintro ⟨other, cause, first, rfl⟩
        exact ⟨other, cause, .inr ⟨⟨value, rfl⟩, first⟩, rfl⟩
      · rintro ⟨other, cause, ⟨_, ⟨⟩⟩ | ⟨_, first⟩, rfl⟩
        exact ⟨other, cause, first, rfl⟩

theorem Model.parseFields_eq (m : Model) (σ : Store) (raw : Json) :
    m.parseFields σ raw = resolveFields σ m.qualifiedName m.policy m.attributes raw := by
  cases m
  rw [parseFields]
  rfl

theorem Model.parse_eq_ok_some_iff (m : Model) (σ : Store) (raw : Json) (r : Record) :
    (m.parse σ raw).value = .ok (some r) ↔
      raw.isNull = false ∧ ∃ fields, (m.parseFields σ raw).value = .ok fields ∧
        Record.mk m.qualifiedName fields = r := by
  unfold parse
  cases null : raw.isNull with
  | true => simp
  | false => simp [map_eq_ok_iff]

theorem TypeRef.coerce_model_eq_ok_iff_parse (σ : Store) (m : Model) (raw : Json) (value : Value) :
    ((TypeRef.model m).coerce σ raw).value = .ok value ↔
      (raw.isNull = true ∧ Value.nil = value) ∨
        ∃ record : Record, (m.parse σ raw).value = .ok (some record) ∧ record.toValue = value := by
  rw [coerce_model_eq_ok_iff]
  refine or_congr_right ?_
  simp only [Model.parse_eq_ok_some_iff]
  constructor
  · rintro ⟨given, fields, parsed, rfl⟩
    exact ⟨⟨m.qualifiedName, fields⟩, ⟨given, fields, parsed, rfl⟩, rfl⟩
  · rintro ⟨record, ⟨given, fields, parsed, rfl⟩, rfl⟩
    exact ⟨given, fields, parsed, rfl⟩

/-- A record is parsed exactly when every attribute resolves, and then it holds what they give. -/
theorem Model.parse_eq_ok_iff_resolve (m : Model) (σ : Store) {raw : Json}
    (given : raw.isNull = false) (r : Record) :
    (m.parse σ raw).value = .ok (some r) ↔ r.typeName = m.qualifiedName ∧
      List.Forall₂ (fun a field => field.1 = a.name ∧
        (a.resolve σ m.policy raw).value = .ok field.2) m.attributes r.fields := by
  obtain ⟨typeName, fields⟩ := r
  simp only [parse_eq_ok_some_iff, given, true_and, parseFields_eq, resolveFields_eq_ok_iff,
    Record.mk.injEq]
  constructor
  · rintro ⟨_, resolved, rfl, rfl⟩
    exact ⟨rfl, resolved⟩
  · rintro ⟨rfl, resolved⟩
    exact ⟨fields, resolved, rfl, rfl⟩

theorem Model.parse_eq_error_iff (m : Model) (σ : Store) {raw : Json}
    (given : raw.isNull = false) (e : ParseFailure) :
    (m.parse σ raw).value = .error e ↔
      ∃ a cause, FirstFailure (fun a : Attribute => (a.resolve σ m.policy raw).value)
          m.attributes a cause ∧
        cause.atAttribute ⟨a.name, m.qualifiedName, a.path, raw⟩ = e := by
  simp only [parse, given, Bool.false_eq_true, if_false, Logged.value_map, map_eq_error_iff,
    parseFields_eq, resolveFields_eq_error_iff]

theorem Model.parse_of_null (m : Model) (σ : Store) {raw : Json} (missing : raw.isNull = true) :
    (m.parse σ raw).value = .ok none := by
  simp only [parse, missing, if_true, Logged.value_pure]

end RecordSchema
