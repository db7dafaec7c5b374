import RecordSchema.Json.Printer
import RecordSchema.Text.Blank

set_option autoImplicit false

/-!
What all scalar types share: the text of a raw value, blank values, and the error of a value that
a type refuses.
-/

namespace RecordSchema

inductive CoercionError.Reason where
  | emptyValue
  | notDigits
  | misplacedSign
  | notInt64
  | negative
  | integerOutOfRange
  | notANumber
  | templateMismatch (template : String)
  | unknownDateLayout
  | unknownDatetimeLayout
  | notABoolean
  | noLookup (key : String) (kind : String)
  | other (text : String)
  deriving DecidableEq

def CoercionError.Reason.text : CoercionError.Reason → String
  | emptyValue => "empty value"
  | notDigits => "expected digits with an optional leading '-'"
  | misplacedSign => "'-' is only allowed as the first character"
  | notInt64 => "not a 64-bit integer"
  | negative => "value must not be negative"
  | integerOutOfRange => "integer out of range"
  | notANumber => "expected an integer or decimal number"
  | templateMismatch template => "does not match template '" ++ template ++ "'"
  | unknownDateLayout => "unrecognized date format"
  | unknownDatetimeLayout => "unrecognized datetime format"
  | notABoolean => "expected true/false, yes/no or 1/0"
  | noLookup key kind => "cannot look up '" ++ key ++ "' in a " ++ kind
  | other text => text

/-- A type refused a raw value, which is kept as text. -/
structure CoercionError where
  typeName : String
  raw : String
  reason : CoercionError.Reason
  deriving DecidableEq

def CoercionError.message (e : CoercionError) : String :=
  "Invalid " ++ e.typeName ++ ": " ++ e.raw ++ " (" ++ e.reason.text ++ ")"

namespace Json

/-- Null, false, texts of blanks only, and empty collections. -/
def isBlank : Json → Bool
  | null => true
  | bool b => !b
  | num _ => false
  | str s => Text.isBlankText s
  | arr items => items.isEmpty
  | obj fields => fields.isEmpty

/-- A text as it is, null as the empty text, any other value as data text. -/
def rawText : Json → String
  | null => ""
  | str s => s
  | j => j.text

end Json

end RecordSchema
