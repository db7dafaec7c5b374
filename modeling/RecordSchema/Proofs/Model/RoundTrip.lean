import RecordSchema.Proofs.Model.Conformance
import RecordSchema.Proofs.Scalar.Written

set_option autoImplicit false

/-!
Records survive being written and parsed again, when every attribute is found under its own name and
every type reads its own data back.
-/

namespace RecordSchema

/-- A type of attributes whose values are read again from the data they are written as. -/
def TypeRef.ReadsBack : TypeRef → Prop
  | .scalar s => ∃ b, s.kind = .builtIn b ∧ b.readsBack = true
  | .model m => ∀ a ∈ m.attributes, a.path = [a.name]

section Writing

variable (object : List (String × Json) → Json)

/-- The data of a result gives the result again, and only of a sequence is it a sequence. -/
structure Restores (coerce : Json → Parsing Value) : Prop where
  again : ∀ data value, (coerce data).value = .ok value →
    (coerce (value.writeWith object)).value = .ok value
  single : ∀ data value, (coerce data).value = .ok value → (∀ items, data ≠ .arr items) →
    (∀ items, value ≠ .list items) ∧ ∀ items, value.writeWith object ≠ .arr items

variable {object}

theorem restores_lift : Restores object fun data => .pure (.ok (.lift data)) where
  again data value lifted := by
    cases lifted
    rw [Value.writeWith_lift]
    rfl
  single data value lifted whole := by
    cases lifted
    rw [Value.writeWith_lift]
    refine ⟨?_, whole⟩
    cases data with
    | arr items => exact absurd rfl (whole items)
    | _ => simp [Value.lift]

theorem restores_scalar (σ : Store) {s : Scalar} (back : (TypeRef.scalar s).ReadsBack) :
    Restores object ((TypeRef.scalar s).coerce σ) := by
  obtain ⟨b, builtIn, back⟩ := back
  have own (data : Json) (value : Value) :
      ((TypeRef.scalar s).coerce σ data).value = .ok value ↔
        b.parse (σ.settingsOf s) data = .ok value := by
    rw [TypeRef.coerce_scalar_eq_ok_iff, Scalar.parse, builtIn]
  constructor
  · intro data value coerced
    rw [own] at coerced ⊢
    exact b.parse_written _ object back coerced
  · intro data value coerced _
    have has := b.hasValue_of_parse _ data ((own data value).mp coerced)
    exact ⟨has.not_list, has.written_single object⟩

theorem restores_model (σ : Store) {m : Model} (keeps : KeepsFields object)
    (distinct : m.properties.Nodup)
    (records : ∀ raw record, (m.parse σ raw).value = .ok (some record) →
      (m.parse σ (record.toValue.writeWith object)).value = .ok (some record)) :
    Restores object ((TypeRef.model m).coerce σ) := by
  constructor
  · intro data value coerced
    rcases (TypeRef.coerce_model_eq_ok_iff_parse ..).mp coerced with ⟨_, rfl⟩ | present
    · rfl
    · obtain ⟨record, parsed, rfl⟩ := present
      exact (TypeRef.coerce_model_eq_ok_iff_parse ..).mpr
        (.inr ⟨record, records data record parsed, rfl⟩)
  · intro data value coerced _
    rcases (TypeRef.coerce_model_eq_ok_iff_parse ..).mp coerced with ⟨_, rfl⟩ | present
    · simp [Value.writeWith]
    · obtain ⟨record, parsed, rfl⟩ := present
      obtain ⟨listed, written, _⟩ := keeps.record (m.distinct_of_parse parsed distinct)
      rw [written]
      simp [Record.toValue]

theorem forall₂_coerce_written {coerce : Json → Parsing Value} (restores : Restores object coerce)
    {items : List Json} {values : List Value}
    (each : List.Forall₂ (fun item value => (coerce item).value = .ok value) items values) :
    List.Forall₂ (fun item value => (coerce item).value = .ok value)
      (values.map (Value.writeWith object)) values := by
  induction each with
  | nil => exact .nil
  | cons first _ ih => exact .cons (restores.again _ _ first) ih

-- A list that an array attribute makes of one value is written as a sequence of one piece.
theorem coerceFound_written {coerce : Json → Parsing Value} (restores : Restores object coerce)
    (a : Attribute) (policy : ArrayNilPolicy) {data : Json} {whole : Value}
    (coerced : (coerceFound coerce data).value = .ok whole) :
    ∃ again, (coerceFound coerce ((a.finish policy whole).writeWith object)).value = .ok again ∧
      a.finish policy again = a.finish policy whole := by
  have list {items : List Json} {values : List Value}
      (each : List.Forall₂ (fun item value => (coerce item).value = .ok value) items values) :
      (coerceFound coerce ((Value.list values).writeWith object)).value = .ok (.list values) := by
    rw [Value.writeWith, Value.writeAllWith_eq_map, coerceFound_arr_eq_ok_iff]
    refine ⟨values, ?_, rfl⟩
    exact (coerceAll_eq_ok_iff ..).mpr (forall₂_coerce_written restores each)
  by_cases sequence : ∃ items, data = .arr items
  next =>
    obtain ⟨items, rfl⟩ := sequence
    obtain ⟨values, each, rfl⟩ := (coerceFound_arr_eq_ok_iff ..).mp coerced
    refine ⟨.list values, ?_, rfl⟩
    rw [a.finish_list]
    exact list ((coerceAll_eq_ok_iff ..).mp each)
  next =>
    have single : ∀ items, data ≠ .arr items := fun items same => sequence ⟨items, same⟩
    rw [coerceFound_of_single coerce single] at coerced
    obtain ⟨noList, noSequence⟩ := restores.single data whole coerced single
    rcases a.finish_single policy noList with ⟨_, own⟩ | ⟨_, wrapped⟩ | ⟨_, _, dropped⟩
    · refine ⟨whole, ?_, rfl⟩
      rw [own, coerceFound_of_single coerce noSequence]
      exact restores.again data whole coerced
    · refine ⟨.list [whole], ?_, ?_⟩
      · rw [wrapped]
        exact list (.cons coerced .nil)
      · rw [a.finish_list, wrapped]
    · refine ⟨.list [], ?_, ?_⟩
      · rw [dropped]
        exact list .nil
      · rw [a.finish_list, dropped]

theorem Attribute.resolve_written {σ : Store} {policy : ArrayNilPolicy} {a : Attribute}
    (direct : a.path = [a.name]) (restores : Restores object (a.part σ)) {raw : Json}
    (given : raw.isNull = false) {value : Value}
    (resolved : (a.resolve σ policy raw).value = .ok value) {listed : List (String × Json)}
    (held : Json.field? a.name listed = some (value.writeWith object)) :
    (a.resolve σ policy (.obj listed)).value = .ok value := by
  obtain ⟨found, _, whole, coerced, rfl⟩ := (a.resolve_eq_ok_iff σ policy given value).mp resolved
  obtain ⟨again, recoerced, same⟩ := coerceFound_written restores a policy coerced
  have reached : dig a.path (.obj listed) =
      .ok (some ((a.finish policy whole).writeWith object)) := by
    rw [direct, dig, held]
    rfl
  exact (a.resolve_eq_ok_iff σ policy rfl _).mpr ⟨_, reached, again, recoerced, same⟩

end Writing

theorem forall₂_with_mem {α β : Type} {R : α → β → Prop} {xs : List α} {ys : List β}
    (related : List.Forall₂ R xs ys) :
    List.Forall₂ (fun x y => (x ∈ xs ∧ y ∈ ys) ∧ R x y) xs ys := by
  rw [List.forall₂_iff_zip] at related ⊢
  exact ⟨related.1, fun member => ⟨List.of_mem_zip member, related.2 member⟩⟩

def TypeRef.Distinct : TypeRef → Prop
  | .scalar _ => True
  | .model m => m.properties.Nodup

theorem Model.parse_written (σ : Store) {object : List (String × Json) → Json}
    (keeps : KeepsFields object) {m : Model} (back : (TypeRef.model m).Throughout TypeRef.ReadsBack)
    (distinct : (TypeRef.model m).Throughout TypeRef.Distinct) {raw : Json} {record : Record}
    (parsed : (m.parse σ raw).value = .ok (some record)) :
    (m.parse σ (record.toValue.writeWith object)).value = .ok (some record) := by
  -- Attributes look their data up by name, so the order of the fields in the object is no matter.
  induction m using Model.refers_induction generalizing raw record with
  | step m ih =>
    have given := ((m.parse_eq_ok_some_iff σ raw record).mp parsed).1
    obtain ⟨named, resolved⟩ := (m.parse_eq_ok_iff_resolve σ given record).mp parsed
    obtain ⟨listed, written, held⟩ := keeps.record (m.distinct_of_parse parsed distinct.own)
    rw [written]
    refine (m.parse_eq_ok_iff_resolve σ rfl record).mpr ⟨named, ?_⟩
    refine (forall₂_with_mem resolved).imp ?_
    rintro a ⟨name, value⟩ ⟨⟨own, field⟩, rfl, result⟩
    refine ⟨rfl, Attribute.resolve_written (back.own a own) ?_ given result (held _ _ field)⟩
    cases typed : a.type? with
    | none =>
      rw [a.part_of_untyped σ typed]
      exact restores_lift
    | some t =>
      have refers : m.Refers t := ⟨a, own, typed⟩
      rw [a.part_of_typed σ typed]
      cases t with
      | scalar s => exact restores_scalar σ (back.of_refers refers).own
      | model inner =>
        refine restores_model σ keeps (distinct.of_refers refers).own ?_
        intro raw record parsed
        exact ih inner refers (back.of_refers refers) (distinct.of_refers refers) parsed

end RecordSchema
