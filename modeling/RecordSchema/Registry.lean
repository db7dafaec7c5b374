import RecordSchema.Context.Basic

set_option autoImplicit false

/-!
The scalar types that are known by name. An alias is a second name for a type and follows its
target when that is registered anew.
-/

namespace RecordSchema

structure TypeRegistry where
  descriptors : KeyMap Scalar
  /-- Alias and target. -/
  aliases : KeyMap String
  /-- The date type that the registry was made with. -/
  date : Scalar

namespace TypeRegistry

def get? (r : TypeRegistry) (name : String) : Option Scalar := r.descriptors.get? name

def contains (r : TypeRegistry) (name : String) : Bool := r.descriptors.contains name

def names (r : TypeRegistry) : List String := r.descriptors.keys

/-- The aliases of a target now mean the type. -/
def repoint (name : String) (s : Scalar) (aliases : List (String × String))
    (descriptors : KeyMap Scalar) : KeyMap Scalar :=
  aliases.foldl (fun d e => if e.2 == name then d.insert e.1 s else d) descriptors

/-- Installs a type under a name; the name is no alias from then on. -/
def register (r : TypeRegistry) (name : String) (s : Scalar) : TypeRegistry :=
  let aliases := r.aliases.erase name
  { r with
    aliases
    descriptors := (repoint name s aliases.toList r.descriptors).insert name s }

/-- A second name for a type; none when nothing is registered under the target. -/
def alias? (r : TypeRegistry) (name target : String) : Option TypeRegistry :=
  (r.get? target).map fun s =>
    { r with descriptors := r.descriptors.insert name s, aliases := r.aliases.insert name target }

/-- The type under a name, if it has sentinels. -/
def sentinelType? (r : TypeRegistry) (name : String) : Option Scalar :=
  (r.get? name).filter Scalar.hasSentinels

/-- As `sentinelType?`, but if nothing is found the first name that differs only in the case of
its letters decides. -/
def sentinelTypeForKey? (r : TypeRegistry) (name : String) : Option Scalar :=
  (r.sentinelType? name).orElse fun _ =>
    match r.descriptors.toList.find? fun e => Text.asciiLower e.1 == Text.asciiLower name with
    | some (_, s) => if s.hasSentinels then some s else none
    | none => none

/-- The built-in types, without sentinels and date formats. -/
def create (σ : Store) : TypeRegistry × Store :=
  let (date, σ) := σ.create (.builtIn .date)
  let (boolean, σ) := σ.create (.builtIn .boolean)
  let (datetime, σ) := σ.create (.builtIn .datetime)
  let (integer, σ) := σ.create (.builtIn .integer)
  let (positive, σ) := σ.create (.builtIn .positiveInteger)
  let (float, σ) := σ.create (.builtIn .float)
  let (string, σ) := σ.create (.builtIn .string)
  let r : TypeRegistry := ⟨.empty, .empty, date⟩
  let r := ((r.register "boolean" boolean).register "date" date).register "datetime" datetime
  let r := (r.register "integer" integer).register "PositiveInteger" positive
  let r := (r.alias? "positive_integer" "PositiveInteger").getD r
  ((r.register "float" float).register "string" string, σ)

/-- A context that holds every registered type. -/
def seedContext (r : TypeRegistry) : TypeContext :=
  ⟨r.descriptors.map fun _ s => .scalar s⟩

/-- Adds the tokens listed under each key; keys of no type with sentinels are ignored. -/
def addSentinels (r : TypeRegistry) : List (String × List String) → Store → Logged Store
  | [], σ => .pure σ
  | (key, tokens) :: rest, σ =>
      match r.sentinelTypeForKey? key with
      | some s =>
          r.addSentinels rest (tokens.foldl (fun σ token => s.insertSentinel token σ) σ)
      | none =>
          let others := r.addSentinels rest σ
          ⟨others.value,
            ⟨.debug, "ignoring nil sentinels for a type without sentinel support",
              [("type_name", key)]⟩ :: others.log⟩

/-- Adds date formats to the registry's own date type, up to a malformed pattern. -/
def addDateFormats (r : TypeRegistry) : List (String × String) → Store → Except ModelError Store
  | [], σ => .ok σ
  | (template, patternText) :: rest, σ =>
      match DateFormat.ofTexts? template patternText with
      | some format => r.addDateFormats rest (r.date.addDateFormat format σ)
      | none => .error .pattern

def dateFormats (r : TypeRegistry) (σ : Store) : List DateFormat :=
  (σ.settingsOf r.date).dateFormats

end TypeRegistry

end RecordSchema
