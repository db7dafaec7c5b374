set_option autoImplicit false

/-!
Log events, and values that come with the events of their computation.
-/

namespace RecordSchema

inductive Event.Level where
  | debug
  | info
  | warn
  | error
  deriving DecidableEq

def Event.Level.name : Event.Level → String
  | debug => "DEBUG"
  | info => "INFO"
  | warn => "WARN"
  | error => "ERROR"

structure Event where
  level : Event.Level
  message : String
  fields : List (String × String)
  deriving DecidableEq

structure Logged (α : Type) where
  value : α
  log : List Event

namespace Logged

variable {α β ε : Type}

def pure (a : α) : Logged α := ⟨a, []⟩

def map (f : α → β) (x : Logged α) : Logged β := ⟨f x.value, x.log⟩

/-- Goes on with a successful value; an error ends the computation. -/
def andThen (x : Logged (Except ε α)) (f : α → Logged (Except ε β)) : Logged (Except ε β) :=
  match x.value with
  | .error e => ⟨.error e, x.log⟩
  | .ok a => ⟨(f a).value, x.log ++ (f a).log⟩

@[simp] theorem value_andThen (x : Logged (Except ε α)) (f : α → Logged (Except ε β)) :
    (x.andThen f).value = x.value.bind fun a => (f a).value := by
  unfold andThen
  cases x.value <;> rfl

end Logged

end RecordSchema
