import RecordSchema.KeyMap
import RecordSchema.Settings.Setting
import RecordSchema.Yaml.Reading

set_option autoImplicit false

/-!
Raw settings in a YAML text. Scalars follow narrower rules than those of other data: the words for
null and the flags are lower-case, zeros may stand in front of a number, and bases other than ten
are sixteen and eight.
-/

namespace RecordSchema.Yaml

open Number (readInt64? readDouble? int64Fits)

def wholeSetting? (base : Nat) (cs : List Char) : Option Setting :=
  ((inBase? base cs).filter fun n => int64Fits n).map fun n => .integer n

def unmarkedSetting (s : String) : Setting :=
  match s with
  | "~" | "null" => .absent
  | "true" => .flag true
  | "false" => .flag false
  | _ =>
      match readInt64? s.toList with
      | some i => .integer i
      | none =>
          match readDouble? s.toList with
          | some d => .float d
          | none => .text s

/-- The setting of a plain scalar without a tag. -/
def plainSetting (s : String) : Setting :=
  let marked? :=
    match s.toList with
    | '0' :: 'x' :: rest => wholeSetting? 16 rest
    | '0' :: 'o' :: rest => wholeSetting? 8 rest
    | '+' :: rest => (readInt64? rest).map .integer
    | _ => none
  marked?.getD (unmarkedSetting s)

def isInfinityName (cs : List Char) : Bool :=
  isInfinityText (if cs.head?.any isSign then cs.drop 1 else cs)

/-- Names that stand for a float which no reader of numbers takes. -/
def isUnreadableFloat (s : String) : Bool :=
  isInfinityName s.toList || s == ".nan" || s == ".NAN"

def floatSetting? (s : String) : Option Setting :=
  if isUnreadableFloat s then none
  else some ((readDouble? s.toList).elim .absent .float)

/-- The setting of a plain scalar with a tag. What the tag does not allow is absent. -/
def taggedSetting? (tag s : String) : Option Setting :=
  if tag == coreTag "bool" then
    some (if s == "true" then .flag true else if s == "false" then .flag false else .absent)
  else if tag == coreTag "int" then some ((readInt64? s.toList).elim .absent .integer)
  else if tag == coreTag "float" then floatSetting? s
  else if tag == coreTag "null" then some .absent
  else some (.text s)

def scalarSetting? (p : Properties) (style : ScalarStyle) (s : String) : Option Setting :=
  if style ≠ .plain then some (.text s)
  else
    match p.tag with
    | some tag => taggedSetting? tag s
    | none =>
        if s.isEmpty then some (if p.anchor.isSome then .text s else .absent)
        else if isUnreadableFloat s then none
        else some (plainSetting s)

/-- Keys are texts or whole numbers. -/
def settingKey? : Setting → Option String
  | .text s => some s
  | .integer i => some (Number.intText i)
  | _ => none

namespace Document

/-- A node as a raw setting. Of two entries under one key the later wins. -/
def readSetting (doc : Document) (depth : Nat) (n : Node) : Reading Setting := do
  match ← doc.follow n with
  | .reference _ => failure
  | .scalar p style s => StateT.lift (scalarSetting? p style s)
  | .sequence _ items =>
      match depth with
      | 0 => failure
      | depth + 1 => return .list (← items.mapM (doc.readSetting depth))
  | .mapping _ entries =>
      match depth with
      | 0 => failure
      | depth + 1 =>
          let entries ← entries.mapM fun (e : Node × Node) => do
            let key ← StateT.lift (settingKey? (← doc.readSetting depth e.1))
            return (key, ← doc.readSetting depth e.2)
          return .table (entries.foldl (fun entries e => insertEntry e.1 e.2 entries) [])

end Document

/-- The settings of a text. One without a document has none in it. -/
def setting? (s : String) : Option Setting :=
  (document? s).bind fun root =>
    match root with
    | none => some (.table [])
    | some root =>
        let doc := Document.ofNode root
        doc.run? (doc.readSetting Document.depthLimit)

end RecordSchema.Yaml
