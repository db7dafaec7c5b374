import RecordSchema.Settings.Basic
import RecordSchema.Settings.Setting

set_option autoImplicit false

/-!
Settings from a tree of raw settings. Missing parts get their defaults and unknown ones are
skipped. A group may also be a list of its parts in the order of their declaration.
-/

namespace RecordSchema

/-- How strictly raw settings are taken: whether a flag or a number will do for a text, whether a
list may go on beyond the parts of a group, and whether a choice may carry a value. -/
inductive Strictness where
  | strict
  | lenient
  deriving DecidableEq

namespace Setting

/-- A double without exponent, and without a point if it is whole. -/
def plainChars : Number.Double → List Char
  | .finite negative m =>
      let chars := Number.Layout.positional.renderSigned negative m
      if chars.drop (chars.length - 2) == ['.', '0'] then chars.take (chars.length - 2) else chars
  | d => d.chars

def asText? (mode : Strictness) : Setting → Option String
  | text s => some s
  | flag b => if mode = .lenient then some (if b then "true" else "false") else none
  | integer i => if mode = .lenient then some (Number.intText i) else none
  | float d => if mode = .lenient then some (String.ofList (plainChars d)) else none
  | _ => none

def asTexts? (mode : Strictness) : Setting → Option (List String)
  | list items => items.mapM (asText? mode)
  | _ => none

/-- The parts of a group by their names; a list is matched with the names in order. -/
def asGroup? (mode : Strictness) (names : List String) : Setting → Option (List (String × Setting))
  | table entries => some entries
  | list items =>
      if mode = .lenient ∨ items.length ≤ names.length then some (names.zip items) else none
  | _ => none

/-- A part of a group, decoded, or its default where it is missing. -/
def part? {α : Type} (parts : List (String × Setting)) (name : String)
    (decode : Setting → Option α) (fallback : α) : Option α :=
  match parts.lookup name with
  | none => some fallback
  | some value => decode value

/-- A choice is given by its name, or by a table with the name as its only key. -/
def asChoice? (mode : Strictness) : Setting → Option String
  | text name => some name
  | table [(name, value)] =>
      match mode, value with
      | .lenient, _ => some name
      | .strict, absent => some name
      | .strict, _ => none
  | _ => none

end Setting

open Setting

def LoaderSettings.ofSetting? (mode : Strictness) (s : Setting) : Option LoaderSettings := do
  let parts ← s.asGroup? mode ["schemas_path", "file_pattern"]
  let schemasPath ← part? parts "schemas_path" (asText? mode) LoaderSettings.defaultPath
  let filePattern ← part? parts "file_pattern" (asText? mode) LoaderSettings.defaultPattern
  return { schemasPath, filePattern }

namespace TypeSettings

def sentinels? (mode : Strictness) : Setting → Option (KeyMap (List String))
  | .table entries =>
      let lists? := entries.mapM fun (e : String × Setting) =>
        (e.2.asTexts? mode).map fun tokens => (e.1, tokens)
      lists?.map KeyMap.ofList
  | _ => none

/-- A template and its pattern; both must be there. -/
def dateFormat? (mode : Strictness) (s : Setting) : Option (String × String) := do
  let parts ← s.asGroup? mode ["template", "regex"]
  let template ← (← parts.lookup "template").asText? mode
  let pattern ← (← parts.lookup "regex").asText? mode
  return (template, pattern)

def dateFormats? (mode : Strictness) : Setting → Option (List (String × String))
  | .list items => items.mapM (dateFormat? mode)
  | _ => none

def ofSetting? (mode : Strictness) (s : Setting) : Option TypeSettings := do
  let parts ← s.asGroup? mode ["nil_sentinels", "date_formats"]
  let sentinels ← part? parts "nil_sentinels" (sentinels? mode) TypeSettings.defaultSentinels
  let dateFormats ← part? parts "date_formats" (dateFormats? mode) []
  return { sentinels, dateFormats }

end TypeSettings

def ArrayNilPolicy.ofSetting? (mode : Strictness) (s : Setting) : Option ArrayNilPolicy :=
  (s.asChoice? mode).bind ArrayNilPolicy.ofName?

namespace Settings

def policyOfSetting? (mode : Strictness) (s : Setting) : Option ArrayNilPolicy := do
  let parts ← s.asGroup? mode ["array_nil_policy"]
  part? parts "array_nil_policy" (ArrayNilPolicy.ofSetting? mode) ArrayNilPolicy.default

def ofSetting? (mode : Strictness) (s : Setting) : Option Settings := do
  let parts ← s.asGroup? mode ["loader", "types", "parsing"]
  let loader ← part? parts "loader" (LoaderSettings.ofSetting? mode) LoaderSettings.default
  let types ← part? parts "types" (TypeSettings.ofSetting? mode) TypeSettings.default
  let policy ← part? parts "parsing" (policyOfSetting? mode) ArrayNilPolicy.default
  return { loader, types, policy }

end Settings

end RecordSchema
