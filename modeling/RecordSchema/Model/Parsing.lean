import RecordSchema.Model.Basic
import RecordSchema.Failure
import RecordSchema.Event

set_option autoImplicit false

/-!
Parsing raw data by a model. Attributes are resolved in order and the first failure ends the
parse. The innermost record that fails logs an error, each record around it a debug event.
-/

namespace RecordSchema

abbrev Parsing (α : Type) := Logged (Except ParseFailure α)

/-- Follows a path through objects. Nothing is found where a key is missing or a null is met; any
other value on the way is an error. -/
def dig : List String → Json → Except CoercionError (Option Json)
  | [], raw => .ok (some raw)
  | key :: rest, .obj fields =>
      match Json.field? key fields with
      | some next => dig rest next
      | none => .ok none
  | _ :: _, .null => .ok none
  | key :: _, other => .error ⟨"path", other.rawText, .noLookup key other.kindName⟩

/-- Coerces every element; the first failure ends it. -/
def coerceAll (coerce : Json → Parsing Value) : List Json → Parsing (List Value)
  | [] => .pure (.ok [])
  | item :: rest =>
      (coerce item).andThen fun value =>
        (coerceAll coerce rest).map (Except.map (value :: ·))

/-- Array attributes always give a list. -/
def ArrayNilPolicy.wrap (policy : ArrayNilPolicy) : Value → Value
  | .list items => .list items
  | .nil => match policy with
      | .wrapNil => .list [.nil]
      | .empty => .list []
  | value => .list [value]

/-- Sequences are coerced element by element. -/
def coerceFound (coerce : Json → Parsing Value) : Json → Parsing Value
  | .arr items => (coerceAll coerce items).map (Except.map .list)
  | raw => coerce raw

/-- The event of a record whose attribute failed. -/
def failureEvent (level : FailedAttribute) (cause : ParseFailure) : Event :=
  if cause.levels.isEmpty then
    ⟨.error, (cause.atAttribute level).message,
      [("model", level.owner), ("attribute", level.name), ("path", joinPath level.path)]⟩
  else
    ⟨.debug, "nested record failed to parse",
      [("model", level.owner), ("attribute", level.name)]⟩

mutual

def TypeRef.coerce (σ : Store) : TypeRef → Json → Parsing Value
  | .scalar s, raw => .pure ((s.parse σ raw).mapError ParseFailure.ofCoercion)
  | .model m, raw =>
      if raw.isNull then .pure (.ok .nil)
      else (m.parseFields σ raw).map (Except.map (Value.record m.qualifiedName))

def Attribute.resolve (σ : Store) (policy : ArrayNilPolicy) : Attribute → Json → Parsing Value
  | .mk _ path type? isArray, raw =>
      if raw.isNull then .pure (.ok .nil)
      else
        match dig path raw with
        | .error e => .pure (.error (.ofCoercion e))
        | .ok found =>
            let found := found.getD .null
            let value :=
              match type? with
              | none => .pure (.ok (Value.lift found))
              | some t => coerceFound (t.coerce σ) found
            if isArray then value.map (Except.map policy.wrap) else value

def resolveFields (σ : Store) (owner : String) (policy : ArrayNilPolicy) :
    List Attribute → Json → Parsing (List (String × Value))
  | [], _ => .pure (.ok [])
  | a :: rest, raw =>
      let resolved := a.resolve σ policy raw
      match resolved.value with
      | .ok value =>
          let others := resolveFields σ owner policy rest raw
          ⟨others.value.map ((a.name, value) :: ·), resolved.log ++ others.log⟩
      | .error cause =>
          let level : FailedAttribute := ⟨a.name, owner, a.path, raw⟩
          ⟨.error (cause.atAttribute level), resolved.log ++ [failureEvent level cause]⟩

def Model.parseFields (σ : Store) : Model → Json → Parsing (List (String × Value))
  | .mk _ _ qualifiedName policy attributes, raw =>
      resolveFields σ qualifiedName policy attributes raw

end

namespace Model

/-- Parses data into a record; null gives no record. -/
def parse (m : Model) (σ : Store) (raw : Json) : Parsing (Option Record) :=
  if raw.isNull then .pure (.ok none)
  else (m.parseFields σ raw).map (Except.map fun fields => some ⟨m.qualifiedName, fields⟩)

end Model

end RecordSchema
