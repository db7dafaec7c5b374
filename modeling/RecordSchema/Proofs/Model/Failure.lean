import RecordSchema.Proofs.Model.Reach

set_option autoImplicit false

/-!
What a failed parse says: the first failing attribute of the record, of the record in it that
failed, and so on down to the value that was refused.
-/

namespace RecordSchema

namespace Json

/-- What a path reads: objects are entered, and null is read from where a key is missing or a null
is met. -/
inductive Reads : Json → List String → Json → Prop where
  | here (data : Json) : Reads data [] data
  | into {fields : List (String × Json)} {key : String} {rest : List String} {next found : Json}
      (held : field? key fields = some next) (further : Reads next rest found) :
      Reads (.obj fields) (key :: rest) found
  | missing {fields : List (String × Json)} {key : String} {rest : List String}
      (absent : field? key fields = none) : Reads (.obj fields) (key :: rest) .null
  | null (key : String) (rest : List String) : Reads .null (key :: rest) .null

/-- The pieces of data that are coerced one by one. -/
def parts : Json → List Json
  | arr items => items
  | data => [data]

end Json

theorem dig_reads {path : List String} {raw : Json} {found : Option Json}
    (dug : dig path raw = .ok found) : raw.Reads path (found.getD .null) := by
  induction path generalizing raw with
  | nil =>
    cases dug
    exact .here raw
  | cons key rest ih =>
    cases raw with
    | null =>
      cases dug
      exact .null key rest
    | obj fields =>
      rw [dig] at dug
      split at dug
      next next held => exact .into held (ih dug)
      next absent =>
        cases dug
        exact .missing absent
    | _ => cases dug

-- Before a value that cannot be entered the path has met objects only.
theorem dig_refuses {path : List String} {raw : Json} {e : CoercionError}
    (refused : dig path raw = .error e) :
    ∃ before key after met, path = before ++ key :: after ∧ raw.Reads before met ∧
      met.isNull = false ∧ (∀ fields, met ≠ .obj fields) ∧
      e = ⟨"path", met.rawText, .noLookup key met.kindName⟩ := by
  induction path generalizing raw with
  | nil => cases refused
  | cons key rest ih =>
    cases raw with
    | null => cases refused
    | obj fields =>
      rw [dig] at refused
      split at refused
      next next held =>
        obtain ⟨before, last, after, met, rfl, reads, noNull, noMap, rfl⟩ := ih refused
        exact ⟨key :: before, last, after, met, rfl, .into held reads, noNull, noMap, rfl⟩
      next => cases refused
    | _ =>
      cases refused
      exact ⟨[], key, rest, _, rfl, .here _, rfl, by simp, rfl⟩

theorem coerceFound_eq_error_iff (coerce : Json → Parsing Value) (data : Json)
    (e : ParseFailure) :
    (coerceFound coerce data).value = .error e ↔
      ∃ part, FirstFailure (fun part => (coerce part).value) data.parts part e := by
  cases data with
  | arr items => exact coerceFound_arr_eq_error_iff coerce items e
  | _ => simp [coerceFound, Json.parts, firstFailure_singleton_iff]

/-- The errors of a value itself: the path meets a value that has no keys, or the scalar type of the
attribute rejects the value that is read or the first of its elements that it rejects at all. -/
inductive Attribute.Refuses (σ : Store) (a : Attribute) (raw : Json) : CoercionError → Prop where
  | path {before after : List String} {key : String} {met : Json}
      (split : a.path = before ++ key :: after) (reads : raw.Reads before met)
      (noNull : met.isNull = false) (noMap : ∀ fields, met ≠ .obj fields) :
      Refuses σ a raw ⟨"path", met.rawText, .noLookup key met.kindName⟩
  | scalar {s : Scalar} {data part : Json} {root : CoercionError}
      (typed : a.type? = some (.scalar s)) (reads : raw.Reads a.path data)
      (rejected : FirstFailure (s.parse σ) data.parts part root) : Refuses σ a raw root

theorem Attribute.cause_of_resolve {σ : Store} {policy : ArrayNilPolicy} {a : Attribute}
    {raw : Json} (given : raw.isNull = false) {e : ParseFailure}
    (failed : (a.resolve σ policy raw).value = .error e) :
    (∃ root, a.Refuses σ raw root ∧ .ofCoercion root = e) ∨
      ∃ inner data part, a.type? = some (.model inner) ∧ raw.Reads a.path data ∧
        FirstFailure (fun part => (inner.parse σ part).value) data.parts part e := by
  rcases (a.resolve_eq_error_iff σ policy given e).mp failed with unreached | rejected
  · obtain ⟨root, refused, rfl⟩ := unreached
    obtain ⟨before, key, after, met, split, reads, noNull, noMap, rfl⟩ := dig_refuses refused
    exact .inl ⟨_, .path split reads noNull noMap, rfl⟩
  · obtain ⟨found, dug, rejected⟩ := rejected
    cases typed : a.type? with
    | none =>
      rw [a.part_of_untyped σ typed, coerceFound_lift] at rejected
      cases rejected
    | some t =>
      rw [a.part_of_typed σ typed, coerceFound_eq_error_iff] at rejected
      obtain ⟨part, first⟩ := rejected
      cases t with
      | scalar s =>
        simp only [TypeRef.coerce, Logged.value_pure, firstFailure_mapError_iff] at first
        obtain ⟨root, first, rfl⟩ := first
        exact .inl ⟨root, .scalar typed (dig_reads dug) first, rfl⟩
      | model inner =>
        have same := TypeRef.coerce_model_eq_error_iff σ inner
        exact .inr ⟨inner, _, part, rfl, dig_reads dug, first.of_same_errors same⟩

/-- An attribute that does not resolve, with the model that it belongs to and the input of it. -/
structure FailureStep where
  model : Model
  failing : Attribute
  input : Json

namespace FailureStep

def level (step : FailureStep) : FailedAttribute :=
  ⟨step.failing.name, step.model.qualifiedName, step.failing.path, step.input⟩

/-- All attributes before this one resolve. -/
def FailsFirst (σ : Store) (step : FailureStep) (cause : ParseFailure) : Prop :=
  FirstFailure (fun a : Attribute => (a.resolve σ step.model.policy step.input).value)
    step.model.attributes step.failing cause

def failure (chain : List FailureStep) (root : CoercionError) : ParseFailure :=
  ⟨chain.map level, root⟩

/-- The failing attributes from a record down to the value that is refused. Each step is in the
model that the attribute before it refers to, on the first piece of its data that this model
rejects. -/
inductive Chain (σ : Store) (root : CoercionError) : List FailureStep → Prop where
  | last {step : FailureStep} (first : step.FailsFirst σ (.ofCoercion root))
      (refused : step.failing.Refuses σ step.input root) : Chain σ root [step]
  | inner {step next : FailureStep} {rest : List FailureStep} {data : Json}
      (first : step.FailsFirst σ (failure (next :: rest) root))
      (typed : step.failing.type? = some (.model next.model))
      (reads : step.input.Reads step.failing.path data)
      (rejected : FirstFailure (fun part => (next.model.parse σ part).value) data.parts next.input
        (failure (next :: rest) root))
      (further : Chain σ root (next :: rest)) : Chain σ root (step :: next :: rest)

end FailureStep

open FailureStep (failure Chain)

theorem Model.chain_of_parse {σ : Store} (m : Model) {raw : Json} (given : raw.isNull = false)
    {e : ParseFailure} (failed : (m.parse σ raw).value = .error e) :
    ∃ a rest, e = failure (⟨m, a, raw⟩ :: rest) e.root ∧ Chain σ e.root (⟨m, a, raw⟩ :: rest) := by
  -- The cause of a nested record is the error of the model that the attribute refers to.
  induction m using Model.refers_induction generalizing raw e with
  | step m ih =>
    obtain ⟨a, cause, first, rfl⟩ := (m.parse_eq_error_iff σ given e).mp failed
    have member := first.mem
    rcases Attribute.cause_of_resolve given first.failed with own | nested
    · obtain ⟨root, refused, rfl⟩ := own
      exact ⟨a, [], rfl, .last first refused⟩
    · obtain ⟨inner, data, part, typed, reads, rejected⟩ := nested
      -- Null is never what a model rejects.
      have present : part.isNull = false := by
        by_contra missing
        rw [Bool.not_eq_false] at missing
        have rejects := rejected.failed
        rw [inner.parse_of_null σ missing] at rejects
        cases rejects
      obtain ⟨b, rest, same, further⟩ := ih inner ⟨a, member, typed⟩ present rejected.failed
      rw [same] at first rejected
      refine ⟨a, ⟨inner, b, part⟩ :: rest, ?_, .inner first typed reads rejected further⟩
      rw [same]
      rfl

theorem Model.parse_pinpoints (m : Model) (σ : Store) (raw : Json) (given : raw.isNull = false) :
    (∃ record, (m.parse σ raw).value = .ok (some record) ∧ record.typeName = m.qualifiedName ∧
      List.Forall₂ (fun a field => field.1 = a.name ∧
        (a.resolve σ m.policy raw).value = .ok field.2) m.attributes record.fields) ∨
    ∃ e step rest, (m.parse σ raw).value = .error e ∧ step.model = m ∧ step.input = raw ∧
      Chain σ e.root (step :: rest) ∧ e.levels = (step :: rest).map FailureStep.level ∧
      e.trail = (step :: rest).map fun step => step.failing.name := by
  cases result : (m.parse σ raw).value with
  | ok parsed =>
    cases parsed with
    | none =>
      rw [parse, given] at result
      obtain ⟨fields, _, impossible⟩ := (map_eq_ok_iff ..).mp result
      cases impossible
    | some record =>
      exact .inl ⟨record, rfl, (m.parse_eq_ok_iff_resolve σ given record).mp result⟩
  | error e =>
    obtain ⟨a, rest, same, chain⟩ := m.chain_of_parse given result
    have levels := congrArg ParseFailure.levels same
    refine .inr ⟨e, ⟨m, a, raw⟩, rest, rfl, rfl, rfl, chain, levels, ?_⟩
    rw [ParseFailure.trail, levels]
    exact List.map_map

def squad : Model :=
  .mk "Squad" "" "Squad" .wrapNil
    [.mk "id" ["key", "id"] (some (.scalar ⟨0, .builtIn .integer⟩)) false,
      .mk "members" ["members"] (some (.model member)) true]
where
  member : Model :=
    .mk "Member" "" "Member" .wrapNil
      [.mk "captain" ["captain"] (some (.scalar ⟨1, .builtIn .boolean⟩)) false]

def squadData : Json :=
  .obj [("key", .obj [("id", .str "7")]),
    ("members", .arr [.null, .obj [("captain", .bool true)], .obj [("captain", .str "perhaps")]])]

theorem Model.parse_pinpoints_member : squadData.isNull = false ∧
    ∃ e step rest, (squad.parse .empty squadData).value = .error e ∧ step.model = squad ∧
      step.input = squadData ∧ Chain .empty e.root (step :: rest) ∧
      e.levels = (step :: rest).map FailureStep.level ∧
      (step :: rest).map (·.failing.name) = ["members", "captain"] ∧
      e.root = ⟨"boolean", "perhaps", .notABoolean⟩ := by
  have run : ∃ e, (squad.parse .empty squadData).value = .error e ∧
      e.trail = ["members", "captain"] ∧ e.root = ⟨"boolean", "perhaps", .notABoolean⟩ :=
    ⟨_, rfl, rfl, rfl⟩
  obtain ⟨e, failed, trail, root⟩ := run
  refine ⟨rfl, ?_⟩
  rcases squad.parse_pinpoints .empty squadData rfl with ⟨record, parsed, _⟩ | pinpointed
  · rw [failed] at parsed
    cases parsed
  · obtain ⟨found, step, rest, result, model, input, chain, levels, named⟩ := pinpointed
    rw [failed] at result
    cases result
    exact ⟨e, step, rest, failed, model, input, chain, levels, named.symm.trans trail, root⟩

end RecordSchema
