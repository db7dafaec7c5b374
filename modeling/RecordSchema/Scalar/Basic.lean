import RecordSchema.Scalar.Integer
import RecordSchema.Scalar.Float
import RecordSchema.Scalar.Date
import RecordSchema.Scalar.Boolean
import RecordSchema.Value.Basic

set_option autoImplicit false

/-!
Scalar types. A type has an identity; the tokens that it takes for nil and its date formats are
kept in a store in the place of that identity, so that every holder of the type sees a change to
them. A caller's type may share the tokens of another type, and then it has that type's place.
-/

namespace RecordSchema

inductive BuiltIn where
  | integer
  | positiveInteger
  | float
  | date
  | datetime
  | string
  | boolean
  deriving DecidableEq

def BuiltIn.name : BuiltIn → String
  | integer => "integer"
  | positiveInteger => "PositiveInteger"
  | float => "float"
  | date => "date"
  | datetime => "datetime"
  | string => "string"
  | boolean => "boolean"

def BuiltIn.hasSentinels : BuiltIn → Bool
  | integer | positiveInteger | float => true
  | date | datetime | string | boolean => false

/-- Where the tokens are kept that a caller's type takes for nil: with the type, or in the place of
another type whose set it shares. -/
inductive SentinelSet where
  | own
  | sharedWith (place : Nat)

/-- A type that a caller brings along. It may have a set of tokens, which its functions read. -/
structure CustomType where
  name : String
  sentinelSet : Option SentinelSet
  parse : KeyMap Unit → Json → Except CoercionError Value
  isValid : KeyMap Unit → Json → Bool

inductive ScalarKind where
  | builtIn (b : BuiltIn)
  | custom (c : CustomType)

structure Scalar where
  id : Nat
  kind : ScalarKind

/-- The place of the set that a new type of the kind shares. -/
def ScalarKind.sharedPlace? : ScalarKind → Option Nat
  | .builtIn _ => none
  | .custom c =>
      match c.sentinelSet with
      | some (.sharedWith place) => some place
      | _ => none

/-- The place of what is kept for a type: its own, unless it shares the set of another one. -/
def Scalar.place (s : Scalar) : Nat := s.kind.sharedPlace?.getD s.id

@[simp] theorem Scalar.place_builtIn (id : Nat) (b : BuiltIn) :
    (⟨id, .builtIn b⟩ : Scalar).place = id := rfl

/-- What is kept in one place. -/
structure ScalarSettings where
  sentinels : KeyMap Unit
  dateFormats : List DateFormat

def ScalarSettings.empty : ScalarSettings := ⟨.empty, []⟩

/-- Only texts are sentinels, letter by letter. -/
def ScalarSettings.isSentinel (settings : ScalarSettings) : Json → Bool
  | .str s => settings.sentinels.contains s
  | _ => false

namespace BuiltIn

/-- The value of a check, or its error with the type and the raw value. -/
def report {α : Type} (b : BuiltIn) (raw : Json) (toValue : α → Value) :
    Except CoercionError.Reason α → Except CoercionError Value
  | .ok a => .ok (toValue a)
  | .error reason => .error ⟨b.name, raw.rawText, reason⟩

def parse (b : BuiltIn) (settings : ScalarSettings) (raw : Json) : Except CoercionError Value :=
  match b with
  | integer =>
      if raw.isBlank || settings.isSentinel raw then .ok .nil
      else b.report raw .integer (Scalar.checkInteger false raw.rawText)
  | positiveInteger =>
      if raw.isBlank || settings.isSentinel raw then .ok .nil
      else b.report raw .integer (Scalar.checkInteger true raw.rawText)
  | float =>
      if raw.isBlank || settings.isSentinel raw then .ok .nil
      else b.report raw .float (Scalar.checkFloat raw.rawText)
  | date =>
      if raw.isBlank then .ok .nil
      else b.report raw .date (Scalar.checkDate settings.dateFormats raw.rawText)
  | datetime =>
      if raw.isBlank then .ok .nil
      else b.report raw .datetime (Scalar.checkTimestamp raw.rawText)
  | string => if raw.isBlank then .ok (.string "") else .ok (.string raw.rawText)
  | boolean =>
      match raw with
      | .bool flag => .ok (.boolean flag)
      | _ =>
          if raw.isBlank then .ok .nil
          else
            match Scalar.boolean? raw with
            | some flag => .ok (.boolean flag)
            | none => .error ⟨b.name, raw.rawText, .notABoolean⟩

/-- Whether a raw value holds a value of the type. -/
def isValid (b : BuiltIn) (settings : ScalarSettings) (raw : Json) : Bool :=
  match b with
  | integer => (Scalar.checkInteger false raw.rawText).isOk
  | positiveInteger => (Scalar.checkInteger true raw.rawText).isOk
  | float => (Scalar.checkFloat raw.rawText).isOk
  | date => !raw.isBlank && (Scalar.checkDate settings.dateFormats raw.rawText).isOk
  | datetime => !raw.isBlank && (Scalar.checkTimestamp raw.rawText).isOk
  | string => true
  | boolean => (Scalar.boolean? raw).isSome

end BuiltIn

/-- The tokens that a caller's type reads; none without a set. -/
def CustomType.tokens (c : CustomType) (settings : ScalarSettings) : KeyMap Unit :=
  if c.sentinelSet.isSome then settings.sentinels else .empty

/-- The settings of all scalar types, by place. -/
structure Store where
  settings : List ScalarSettings

namespace Store

def empty : Store := ⟨[]⟩

def settingsOf (σ : Store) (s : Scalar) : ScalarSettings :=
  σ.settings.getD s.place ScalarSettings.empty

def update (σ : Store) (s : Scalar) (f : ScalarSettings → ScalarSettings) : Store :=
  ⟨σ.settings.modify s.place f⟩

/-- A new type, with a new place that has no sentinels and no date formats. -/
def create (σ : Store) (kind : ScalarKind) : Scalar × Store :=
  (⟨σ.settings.length, kind⟩, ⟨σ.settings ++ [ScalarSettings.empty]⟩)

end Store

namespace Scalar

def name (s : Scalar) : String :=
  match s.kind with
  | .builtIn b => b.name
  | .custom c => c.name

def hasSentinels (s : Scalar) : Bool :=
  match s.kind with
  | .builtIn b => b.hasSentinels
  | .custom c => c.sentinelSet.isSome

def parse (s : Scalar) (σ : Store) (raw : Json) : Except CoercionError Value :=
  match s.kind with
  | .builtIn b => b.parse (σ.settingsOf s) raw
  | .custom c => c.parse (c.tokens (σ.settingsOf s)) raw

def isValid (s : Scalar) (σ : Store) (raw : Json) : Bool :=
  match s.kind with
  | .builtIn b => b.isValid (σ.settingsOf s) raw
  | .custom c => c.isValid (c.tokens (σ.settingsOf s)) raw

/-- The tokens of the type in increasing order. -/
def sentinels (s : Scalar) (σ : Store) : List String := (σ.settingsOf s).sentinels.keys

def insertSentinel (s : Scalar) (token : String) (σ : Store) : Store :=
  σ.update s fun settings => { settings with sentinels := settings.sentinels.insert token () }

def removeSentinel (s : Scalar) (token : String) (σ : Store) : Store :=
  σ.update s fun settings => { settings with sentinels := settings.sentinels.erase token }

def clearSentinels (s : Scalar) (σ : Store) : Store :=
  σ.update s fun settings => { settings with sentinels := .empty }

def addDateFormat (s : Scalar) (format : DateFormat) (σ : Store) : Store :=
  σ.update s fun settings => { settings with dateFormats := settings.dateFormats ++ [format] }

end Scalar

end RecordSchema
