import RecordSchema.Proofs.Model.Failure

set_option autoImplicit false

/-!
The log of a parse. A success logs nothing. A failure is logged once at each level of records, from
the inside out, and only the innermost level counts as an error.
-/

namespace RecordSchema

namespace ParseFailure

def innermostEvent (level : FailedAttribute) (root : CoercionError) : Event :=
  ⟨.error, message ⟨[level], root⟩,
    [("model", level.owner), ("attribute", level.name), ("path", joinPath level.path)]⟩

def enclosingEvent (level : FailedAttribute) : Event :=
  ⟨.debug, "nested record failed to parse", [("model", level.owner), ("attribute", level.name)]⟩

def events (e : ParseFailure) : List Event :=
  match e.levels.reverse with
  | [] => []
  | innermost :: enclosing => innermostEvent innermost e.root :: enclosing.map enclosingEvent

theorem events_of_levels {e : ParseFailure} {enclosing : List FailedAttribute}
    {innermost : FailedAttribute} (levels : e.levels = enclosing ++ [innermost]) :
    e.events = innermostEvent innermost e.root :: enclosing.reverse.map enclosingEvent := by
  simp only [events, levels, List.reverse_append, List.reverse_singleton, List.singleton_append]

-- The level around a failure comes last, and it is an error only where there is no level inside.
theorem events_atAttribute (level : FailedAttribute) (e : ParseFailure) :
    (e.atAttribute level).events = e.events ++ [failureEvent level e] := by
  obtain ⟨levels, root⟩ := e
  rcases levels.eq_nil_or_concat' with rfl | ⟨enclosing, innermost, rfl⟩
  next => rfl
  next =>
    have inside : events ⟨enclosing ++ [innermost], root⟩ = _ := events_of_levels rfl
    have around : events ⟨level :: enclosing ++ [innermost], root⟩ = _ := events_of_levels rfl
    have nested : failureEvent level ⟨enclosing ++ [innermost], root⟩ = enclosingEvent level := by
      simp [failureEvent, enclosingEvent]
    rw [inside, nested]
    apply around.trans
    simp

theorem length_events (e : ParseFailure) : e.events.length = e.trail.length := by
  unfold events trail
  split
  next none => simp [List.reverse_eq_nil_iff.mp none]
  next innermost enclosing shape =>
    have length := congrArg List.length shape
    simp_all

end ParseFailure

/-- What is logged is the failure, if there is one. -/
def Logged.OfFailure {α : Type} (x : Parsing α) : Prop :=
  x.log = match x.value with
    | .ok _ => []
    | .error e => e.events

namespace Logged.OfFailure

variable {α β : Type} {x : Parsing α}

theorem pure (result : Except CoercionError α) :
    OfFailure (.pure (result.mapError ParseFailure.ofCoercion)) := by
  cases result <;> rfl

theorem ok (a : α) : OfFailure (.pure (.ok a)) := rfl

theorem map (logged : OfFailure x) (f : α → β) : OfFailure (x.map (Except.map f)) := by
  unfold OfFailure at *
  rw [value_map]
  apply logged.trans
  cases x.value <;> rfl

theorem andThen (logged : OfFailure x) {f : α → Parsing β} (further : ∀ a, OfFailure (f a)) :
    OfFailure (x.andThen f) := by
  unfold OfFailure Logged.andThen at *
  cases result : x.value with
  | error e => simpa only [result] using logged
  | ok a =>
    -- The first step has logged nothing.
    simp only [result] at logged ⊢
    rw [logged, List.nil_append]
    exact further a

end Logged.OfFailure

open Logged (OfFailure)
open ParseFailure (innermostEvent enclosingEvent events_of_levels)

theorem logged_coerceAll {coerce : Json → Parsing Value} (each : ∀ data, OfFailure (coerce data))
    (items : List Json) : OfFailure (coerceAll coerce items) := by
  induction items with
  | nil => exact .ok []
  | cons item rest ih =>
    apply (each item).andThen
    intro value
    exact ih.map (value :: ·)

theorem logged_coerceFound {coerce : Json → Parsing Value}
    (each : ∀ data, OfFailure (coerce data)) (data : Json) :
    OfFailure (coerceFound coerce data) := by
  cases data with
  | arr items => exact (logged_coerceAll each items).map Value.list
  | _ => exact each _

theorem Attribute.logged_resolve (σ : Store) (policy : ArrayNilPolicy) {a : Attribute}
    (part : ∀ data, OfFailure (a.part σ data)) (raw : Json) :
    OfFailure (a.resolve σ policy raw) := by
  cases null : raw.isNull with
  | true =>
    obtain ⟨name, path, type?, isArray⟩ := a
    rw [resolve, null]
    exact .ok Value.nil
  | false =>
    rw [a.resolve_eq σ policy null]
    cases dig a.path raw with
    | error e => exact .pure (.error e)
    | ok found => exact (logged_coerceFound part _).map _

theorem logged_resolveFields (σ : Store) (owner : String) (policy : ArrayNilPolicy)
    {attributes : List Attribute} {raw : Json}
    (each : ∀ a ∈ attributes, OfFailure (a.resolve σ policy raw)) :
    OfFailure (resolveFields σ owner policy attributes raw) := by
  induction attributes with
  | nil => exact .ok []
  | cons a rest ih =>
    have own : OfFailure (a.resolve σ policy raw) := each a List.mem_cons_self
    have others := ih fun b member => each b (List.mem_cons_of_mem a member)
    unfold OfFailure at own
    simp only [resolveFields]
    cases resolved : (a.resolve σ policy raw).value with
    | ok value =>
      simp only [resolved] at own ⊢
      rw [own, List.nil_append]
      exact others.map _
    | error cause =>
      -- What the attribute logged is followed by the event of the record that it belongs to.
      simp only [resolved] at own ⊢
      rw [own]
      exact (ParseFailure.events_atAttribute _ cause).symm

theorem Model.logged_parseFields (σ : Store) (m : Model) (raw : Json) :
    OfFailure (m.parseFields σ raw) := by
  -- Induction on the references between models: an attribute is coerced by the model it refers to.
  induction m using Model.refers_induction generalizing raw with
  | step m ih =>
    rw [m.parseFields_eq]
    apply logged_resolveFields
    intro a member
    apply a.logged_resolve
    intro data
    cases typed : a.type? with
    | none =>
      rw [a.part_of_untyped σ typed]
      exact .ok _
    | some t =>
      rw [a.part_of_typed σ typed]
      cases t with
      | scalar s => exact .pure (s.parse σ data)
      | model inner =>
        rw [TypeRef.coerce]
        split
        · exact .ok Value.nil
        · exact (ih inner ⟨a, member, typed⟩ data).map _

/-- A success with nothing logged, or a failure of which the innermost level is logged as an error,
and then each level around it, from the inside out. -/
def Logged.ByLevel {α : Type} (x : Parsing α) : Prop :=
  (∃ a, x.value = .ok a ∧ x.log = []) ∨
    ∃ e enclosing innermost, x.value = .error e ∧ e.levels = enclosing ++ [innermost] ∧
      x.log = innermostEvent innermost e.root :: enclosing.reverse.map enclosingEvent ∧
      x.log.length = e.trail.length

theorem Logged.OfFailure.byLevel {α : Type} {x : Parsing α} (logged : OfFailure x)
    (named : ∀ e, x.value = .error e → e.levels ≠ []) : x.ByLevel := by
  unfold OfFailure at logged
  cases result : x.value with
  | ok a =>
    rw [result] at logged
    exact .inl ⟨a, result, logged⟩
  | error e =>
    rw [result] at logged
    rcases e.levels.eq_nil_or_concat' with none | ⟨enclosing, innermost, levels⟩
    · exact absurd none (named e result)
    · refine .inr ⟨e, enclosing, innermost, result, levels, ?_, ?_⟩
      · exact logged.trans (events_of_levels levels)
      · rw [logged, e.length_events]

theorem Model.levels_of_parseFields (σ : Store) (m : Model) {raw : Json} {e : ParseFailure}
    (failed : (m.parseFields σ raw).value = .error e) : e.levels ≠ [] := by
  rw [m.parseFields_eq, resolveFields_eq_error_iff] at failed
  obtain ⟨a, cause, _, rfl⟩ := failed
  exact List.cons_ne_nil _ _

theorem Model.failure_logged_by_level (m : Model) (σ : Store) (raw : Json) :
    (m.parse σ raw).ByLevel ∧ (m.parseFields σ raw).ByLevel := by
  have fields := m.logged_parseFields σ raw
  constructor
  · cases null : raw.isNull with
    | true =>
      rw [parse, null]
      exact .inl ⟨none, rfl, rfl⟩
    | false =>
      rw [parse, null]
      apply (fields.map _).byLevel
      intro e failed
      exact m.levels_of_parseFields σ ((map_eq_error_iff ..).mp failed)
  · exact fields.byLevel fun e failed => m.levels_of_parseFields σ failed

example : (squad.parse .empty squadData).log =
    [⟨.error, "Unable to parse attribute captain (Member) at captain: " ++
        "Invalid boolean: perhaps (expected true/false, yes/no or 1/0)",
        [("model", "Member"), ("attribute", "captain"), ("path", "captain")]⟩,
      ⟨.debug, "nested record failed to parse", [("model", "Squad"), ("attribute", "members")]⟩] :=
  rfl

end RecordSchema
