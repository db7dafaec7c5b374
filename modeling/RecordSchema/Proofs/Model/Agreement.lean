import RecordSchema.Proofs.Model.Failure
import RecordSchema.Proofs.Related

set_option autoImplicit false

/-!
What a parse can see of its input: only what the paths of the attributes lead to, at every depth. Two
inputs that are alike along them give the same record, or fail for the same cause in the same place.
-/

namespace RecordSchema

/-- Two pieces of data as a whole, or the elements of two sequences one by one. -/
inductive Elementwise (Part : Json → Json → Prop) : Json → Json → Prop where
  | whole {data data' : Json} (part : Part data data') : Elementwise Part data data'
  | elements {items items' : List Json} (each : List.Forall₂ Part items items') :
      Elementwise Part (.arr items) (.arr items')

/-- What a path finds in two inputs: the same error, nothing in both, or data that is alike. -/
inductive FoundAlike (Data : Json → Json → Prop) (path : List String) (raw raw' : Json) : Prop where
  | refused {e : CoercionError} (first : dig path raw = .error e) (second : dig path raw' = .error e)
  | nothing {found found' : Option Json} (first : dig path raw = .ok found)
      (second : dig path raw' = .ok found') (bare : found.getD .null = .null)
      (bare' : found'.getD .null = .null)
  | data {found found' : Json} (first : dig path raw = .ok (some found))
      (second : dig path raw' = .ok (some found')) (alike : Data found found')

mutual

def TypeRef.Alike : TypeRef → Json → Json → Prop
  | .scalar _, data, data' => data = data'
  | .model m, data, data' => Elementwise (fun part part' => m.Alike part part') data data'

def Attribute.Alike : Attribute → Json → Json → Prop
  | .mk _ path type? _, raw, raw' =>
      match type? with
      | none => FoundAlike (fun data data' => data = data') path raw raw'
      | some t => FoundAlike (fun data data' => t.Alike data data') path raw raw'

def allAlike : List Attribute → Json → Json → Prop
  | [], _, _ => True
  | a :: rest, raw, raw' => a.Alike raw raw' ∧ allAlike rest raw raw'

/-- Inputs that are equal, or objects that differ in nothing that an attribute leads to. -/
def Model.Alike : Model → Json → Json → Prop
  | .mk _ _ _ _ attributes, raw, raw' =>
      raw = raw' ∨
        (∃ fields fields', raw = .obj fields ∧ raw' = .obj fields') ∧ allAlike attributes raw raw'

end

def Attribute.DataAlike (a : Attribute) (data data' : Json) : Prop :=
  match a.type? with
  | none => data = data'
  | some t => t.Alike data data'

theorem Attribute.alike_iff (a : Attribute) (raw raw' : Json) :
    a.Alike raw raw' ↔ FoundAlike a.DataAlike a.path raw raw' := by
  obtain ⟨name, path, type?, isArray⟩ := a
  cases type? <;>
  · rw [Attribute.Alike]
    rfl

theorem allAlike_iff (attributes : List Attribute) (raw raw' : Json) :
    allAlike attributes raw raw' ↔ ∀ a ∈ attributes, a.Alike raw raw' := by
  induction attributes with
  | nil => simp [allAlike]
  | cons a rest ih => simp [allAlike, ih]

theorem Model.alike_iff (m : Model) (raw raw' : Json) :
    m.Alike raw raw' ↔ raw = raw' ∨
      (∃ fields fields', raw = .obj fields ∧ raw' = .obj fields') ∧
        ∀ a ∈ m.attributes, a.Alike raw raw' := by
  cases m
  rw [Model.Alike, allAlike_iff]
  rfl

namespace ParseFailure

/-- Two failures with the same cause, in the same attributes of the same models. -/
structure Alike (e e' : ParseFailure) : Prop where
  trail : e.trail = e'.trail
  owners : e.levels.map (·.owner) = e'.levels.map (·.owner)
  paths : e.levels.map (·.path) = e'.levels.map (·.path)
  root : e.root = e'.root

theorem Alike.refl (e : ParseFailure) : e.Alike e := ⟨rfl, rfl, rfl, rfl⟩

theorem Alike.atAttribute {e e' : ParseFailure} (alike : e.Alike e') (name owner : String)
    (path : List String) (raw raw' : Json) :
    (e.atAttribute ⟨name, owner, path, raw⟩).Alike (e'.atAttribute ⟨name, owner, path, raw'⟩) where
  trail := congrArg (name :: ·) alike.trail
  owners := congrArg (owner :: ·) alike.owners
  paths := congrArg (path :: ·) alike.paths
  root := alike.root

theorem levelMessage_eq {level level' : FailedAttribute} (name : level.name = level'.name)
    (owner : level.owner = level'.owner) (path : level.path = level'.path) :
    levelMessage level = levelMessage level' := by
  obtain ⟨n, o, p, raw⟩ := level
  obtain ⟨n', o', p', raw'⟩ := level'
  cases name
  cases owner
  cases path
  rfl

theorem foldr_levelMessage {levels levels' : List FailedAttribute}
    (names : levels.map (·.name) = levels'.map (·.name))
    (owners : levels.map (·.owner) = levels'.map (·.owner))
    (paths : levels.map (·.path) = levels'.map (·.path)) (cause : String) :
    levels.foldr levelMessage cause = levels'.foldr levelMessage cause := by
  induction levels generalizing levels' with
  | nil =>
    obtain rfl : levels' = [] := List.map_eq_nil_iff.mp names.symm
    rfl
  | cons level rest ih =>
    cases levels' with
    | nil => cases names
    | cons level' rest' =>
      obtain ⟨name, names⟩ := List.cons.inj names
      obtain ⟨owner, owners⟩ := List.cons.inj owners
      obtain ⟨path, paths⟩ := List.cons.inj paths
      rw [List.foldr_cons, List.foldr_cons, ih names owners paths, levelMessage_eq name owner path]

/-- The message shows nothing else of the input. -/
theorem Alike.message {e e' : ParseFailure} (alike : e.Alike e') : e.message = e'.message := by
  rw [ParseFailure.message, ParseFailure.message, alike.root]
  exact foldr_levelMessage alike.trail alike.owners alike.paths _

theorem Alike.isEmpty_levels {e e' : ParseFailure} (alike : e.Alike e') :
    e.levels.isEmpty = e'.levels.isEmpty := by
  have same := congrArg List.isEmpty alike.owners
  rwa [List.isEmpty_map, List.isEmpty_map] at same

theorem Alike.failureEvent {e e' : ParseFailure} (alike : e.Alike e') (name owner : String)
    (path : List String) (raw raw' : Json) :
    failureEvent ⟨name, owner, path, raw⟩ e = failureEvent ⟨name, owner, path, raw'⟩ e' := by
  unfold RecordSchema.failureEvent
  rw [alike.isEmpty_levels, (alike.atAttribute name owner path raw raw').message]

end ParseFailure

/-- Two parses with the same result or alike failures, which also log the same. -/
structure ParsedAlike {α : Type} (x y : Parsing α) : Prop where
  result : (∃ a, x.value = .ok a ∧ y.value = .ok a) ∨
    ∃ e e' : ParseFailure, x.value = .error e ∧ y.value = .error e' ∧ e.Alike e'
  log : x.log = y.log

namespace ParsedAlike

variable {α β : Type} {x y : Parsing α}

theorem refl (x : Parsing α) : ParsedAlike x x where
  result := by
    cases x.value with
    | ok a => exact .inl ⟨a, rfl, rfl⟩
    | error e => exact .inr ⟨e, e, rfl, rfl, .refl e⟩
  log := rfl

theorem iff_related : ParsedAlike x y ↔ Logged.Related ParseFailure.Alike Eq x y := by
  constructor
  · rintro ⟨⟨a, left, right⟩ | failed, log⟩
    · exact ⟨.inl ⟨a, a, left, right, rfl⟩, log⟩
    · exact ⟨.inr failed, log⟩
  · rintro ⟨⟨a, _, left, right, rfl⟩ | failed, log⟩
    · exact ⟨.inl ⟨a, left, right⟩, log⟩
    · exact ⟨.inr failed, log⟩

theorem map (alike : ParsedAlike x y) (f : α → β) :
    ParsedAlike (Logged.map (Except.map f) x) (Logged.map (Except.map f) y) :=
  iff_related.mpr ((iff_related.mp alike).map fun _ _ same => congrArg f same)

theorem andThen (alike : ParsedAlike x y) {f g : α → Parsing β}
    (further : ∀ a, ParsedAlike (f a) (g a)) : ParsedAlike (x.andThen f) (y.andThen g) := by
  refine iff_related.mpr ((iff_related.mp alike).andThen ?_)
  rintro a _ rfl
  exact iff_related.mp (further a)

end ParsedAlike

theorem coerceAll_alike {coerce : Json → Parsing Value} {Part : Json → Json → Prop}
    (parts : ∀ data data', Part data data' → ParsedAlike (coerce data) (coerce data'))
    {items items' : List Json} (each : List.Forall₂ Part items items') :
    ParsedAlike (coerceAll coerce items) (coerceAll coerce items') := by
  induction each with
  | nil => exact .refl _
  | cons part others ih =>
    refine (parts _ _ part).andThen ?_
    intro value
    exact ih.map (value :: ·)

theorem Attribute.resolve_alike (σ : Store) {a : Attribute} (policy : ArrayNilPolicy)
    (data : ∀ data data', a.DataAlike data data' →
      ParsedAlike (coerceFound (a.part σ) data) (coerceFound (a.part σ) data'))
    {raw raw' : Json} (given : raw.isNull = false) (given' : raw'.isNull = false)
    (alike : a.Alike raw raw') :
    ParsedAlike (a.resolve σ policy raw) (a.resolve σ policy raw') := by
  rw [a.resolve_eq σ policy given, a.resolve_eq σ policy given']
  cases (a.alike_iff raw raw').mp alike with
  | refused first second =>
    rw [first, second]
    exact .refl _
  | nothing first second bare bare' =>
    simp only [first, second, bare, bare']
    exact .refl _
  | data first second found =>
    rw [first, second]
    exact (data _ _ found).map _

theorem resolveFields_alike (σ : Store) (owner : String) (policy : ArrayNilPolicy)
    {attributes : List Attribute} {raw raw' : Json}
    (each : ∀ a ∈ attributes, ParsedAlike (a.resolve σ policy raw) (a.resolve σ policy raw')) :
    ParsedAlike (resolveFields σ owner policy attributes raw)
      (resolveFields σ owner policy attributes raw') := by
  induction attributes with
  | nil => exact .refl _
  | cons a rest ih =>
    have own := each a (by simp)
    have others := ih fun b member => each b (by simp [member])
    simp only [resolveFields]
    rcases own.result with ⟨value, left, right⟩ | ⟨e, e', left, right, same⟩
    · simp only [left, right]
      exact ⟨(others.map _).result, by rw [own.log, others.log]⟩
    · simp only [left, right]
      refine ⟨.inr ⟨_, _, rfl, rfl, same.atAttribute ..⟩, ?_⟩
      rw [own.log, same.failureEvent a.name owner a.path raw raw']

theorem TypeRef.coerceFound_alike (σ : Store) {t : TypeRef}
    (records : ∀ m, t = .model m → ∀ raw raw', m.Alike raw raw' →
      ParsedAlike (m.parseFields σ raw) (m.parseFields σ raw'))
    {data data' : Json} (alike : t.Alike data data') :
    ParsedAlike (coerceFound (t.coerce σ) data) (coerceFound (t.coerce σ) data') := by
  cases t with
  | scalar s =>
    rw [TypeRef.Alike] at alike
    rw [alike]
    exact .refl _
  | model m =>
    rw [TypeRef.Alike] at alike
    -- Objects are parsed, and anything else is the same on both sides.
    have part (data data' : Json) (alike : m.Alike data data') :
        ParsedAlike ((TypeRef.model m).coerce σ data) ((TypeRef.model m).coerce σ data') := by
      have parsed := records m rfl data data' alike
      rcases (m.alike_iff data data').mp alike with rfl | ⟨⟨fields, fields', rfl, rfl⟩, _⟩
      · exact .refl _
      · simp only [TypeRef.coerce, Json.isNull, Bool.false_eq_true, if_false]
        exact parsed.map _
    cases alike with
    | elements each => exact (coerceAll_alike part each).map _
    | whole own =>
      rcases (m.alike_iff data data').mp own with rfl | ⟨⟨fields, fields', rfl, rfl⟩, _⟩
      · exact .refl _
      · exact part _ _ own

theorem Model.parseFields_alike (σ : Store) (m : Model) {raw raw' : Json}
    (alike : m.Alike raw raw') : ParsedAlike (m.parseFields σ raw) (m.parseFields σ raw') := by
  -- Induction on the references between models: nested data is alike for the model referred to.
  induction m using Model.refers_induction generalizing raw raw' with
  | step m ih =>
    rcases (m.alike_iff raw raw').mp alike with rfl | ⟨⟨fields, fields', rfl, rfl⟩, each⟩
    · exact .refl _
    · rw [m.parseFields_eq, m.parseFields_eq]
      refine resolveFields_alike σ _ _ fun a member => ?_
      refine Attribute.resolve_alike σ m.policy ?_ rfl rfl (each a member)
      intro data data' same
      unfold Attribute.DataAlike at same
      cases typed : a.type? with
      | none =>
        simp only [typed] at same
        rw [same]
        exact .refl _
      | some t =>
        simp only [typed] at same
        rw [a.part_of_typed σ typed]
        refine TypeRef.coerceFound_alike σ ?_ same
        rintro inner rfl raw raw' alike
        exact ih inner ⟨a, member, typed⟩ alike

/-- What no attribute leads to has no influence on a parse. -/
theorem Model.parse_alike (m : Model) (σ : Store) {raw raw' : Json} (alike : m.Alike raw raw') :
    ParsedAlike (m.parse σ raw) (m.parse σ raw') := by
  have parsed := m.parseFields_alike σ alike
  rcases (m.alike_iff raw raw').mp alike with rfl | ⟨⟨fields, fields', rfl, rfl⟩, _⟩
  · exact .refl _
  · exact parsed.map _

/-- The data of the squad with keys that no attribute asks for. -/
def annotatedSquadData : Json :=
  .obj [("motto", .str "onwards"),
    ("members", .arr [.null, .obj [("age", .null), ("captain", .bool true)],
      .obj [("captain", .str "perhaps"), ("rank", .arr [])]]),
    ("key", .obj [("issued", .bool false), ("id", .str "7")])]

theorem squad_alike : squad.Alike squadData annotatedSquadData := by
  have member (fields fields' : List (String × Json)) {flag : Json}
      (first : Json.field? "captain" fields = some flag)
      (second : Json.field? "captain" fields' = some flag) :
      squad.member.Alike (.obj fields) (.obj fields') := by
    have left : dig ["captain"] (.obj fields) = .ok (some flag) := by
      simp only [dig, first]
    have right : dig ["captain"] (.obj fields') = .ok (some flag) := by
      simp only [dig, second]
    refine (Model.alike_iff ..).mpr (.inr ⟨⟨_, _, rfl, rfl⟩, ?_⟩)
    refine List.forall_mem_singleton.mpr ?_
    exact (Attribute.alike_iff ..).mpr (.data left right rfl)
  refine (Model.alike_iff ..).mpr (.inr ⟨⟨_, _, rfl, rfl⟩, ?_⟩)
  refine List.forall_mem_cons.mpr ⟨?_, List.forall_mem_singleton.mpr ?_⟩
  · exact (Attribute.alike_iff ..).mpr (.data rfl rfl rfl)
  · refine (Attribute.alike_iff ..).mpr (.data rfl rfl (.elements ?_))
    refine .cons ?_ (.cons (member _ _ rfl rfl) (.cons (member _ _ rfl rfl) .nil))
    exact (Model.alike_iff ..).mpr (.inl rfl)

theorem Model.parse_alike_annotated : squad.Alike squadData annotatedSquadData ∧
    ∃ e e', (squad.parse .empty squadData).value = .error e ∧
      (squad.parse .empty annotatedSquadData).value = .error e' ∧ e.Alike e' ∧
      e'.trail = ["members", "captain"] ∧ e'.root = ⟨"boolean", "perhaps", .notABoolean⟩ := by
  have run : ∃ e, (squad.parse .empty annotatedSquadData).value = .error e ∧
      e.trail = ["members", "captain"] ∧ e.root = ⟨"boolean", "perhaps", .notABoolean⟩ :=
    ⟨_, rfl, rfl, rfl⟩
  obtain ⟨e', failed, trail, root⟩ := run
  refine ⟨squad_alike, ?_⟩
  rcases (squad.parse_alike .empty squad_alike).result with ⟨_, _, parsed⟩ | alike
  · rw [failed] at parsed
    cases parsed
  · obtain ⟨e, other, left, right, same⟩ := alike
    rw [failed] at right
    cases right
    exact ⟨e, e', left, failed, same, trail, root⟩

end RecordSchema
