import RecordSchema.KeyMap
import RecordSchema.Number.Reader
import RecordSchema.Settings.Setting
import RecordSchema.Text.Hex
import RecordSchema.Text.Lowercase

set_option autoImplicit false

/-!
Raw settings on top of others. Tables are merged key by key, and anything else takes the place of
what was below it. Keys are lower-cased, so that sources may differ in case.
-/

namespace RecordSchema

namespace Setting

def entries : Setting → List (String × Setting)
  | table entries => entries
  | _ => []

def items : Setting → List Setting
  | list items => items
  | _ => []

mutual

/-- Puts a value under a key of a table; what is no table becomes one. -/
def put (key : String) : Setting → Setting → Setting
  | table incoming, below =>
      let key := Text.lowercase key
      let merged := putAll incoming ((below.entries.lookup key).getD (table []))
      table (insertEntry key merged below.entries)
  | value, below => table (insertEntry (Text.lowercase key) value below.entries)

def putAll : List (String × Setting) → Setting → Setting
  | [], below => below
  | (key, value) :: rest, below => putAll rest (put key value below)

end

end Setting

/-- A step into a table, or into a list from its start or, below zero, from its end. -/
inductive SettingStep where
  | key (name : String)
  | item (index : Int)

namespace SettingStep

def isNameChar (c : Char) : Bool := c.isAlphanum || c == '_' || c == '-'

/-- The steps that a text writes behind the first name, as `.name` and `[index]`. -/
def readAll? : Nat → List Char → Option (List SettingStep)
  | _, [] => some []
  | fuel + 1, '.' :: cs =>
      let name := cs.takeWhile isNameChar
      if name.isEmpty then none
      else (readAll? fuel (cs.drop name.length)).map (key (String.ofList name) :: ·)
  | fuel + 1, '[' :: cs =>
      let index := cs.takeWhile (· != ']')
      match index, cs.drop index.length with
      | '+' :: _, _ => none
      | _, ']' :: rest => do return item (← Number.readInt64? index) :: (← readAll? fuel rest)
      | _, _ => none
  | _, _ => none

/-- The steps of a key; a key that is no path of steps is one step as a whole. -/
def ofKey (text : String) : List SettingStep :=
  let cs := text.toList
  let name := cs.takeWhile isNameChar
  let rest := cs.drop name.length
  if name.isEmpty then [key text]
  else
    match readAll? rest.length rest with
    | some steps => key (String.ofList name) :: steps
    | none => [key text]

def position (index : Int) (length : Nat) : Nat :=
  if 0 ≤ index then index.toNat else length - index.natAbs

end SettingStep

namespace Setting

/-- A list with an item replaced; missing items in front of it are absent settings. -/
def setItem (items : List Setting) (position : Nat) (value : Setting) : List Setting :=
  (items ++ List.replicate (position + 1 - items.length) absent).set position value

/-- Puts a value at the end of some steps, through tables and lists that are made on the way. -/
def putAt (value : Setting) : List SettingStep → Setting → Setting
  | [], _ => value
  | [.key name], below => put name value below
  | .key name :: steps, below =>
      let name := Text.lowercase name
      let inner := (below.entries.lookup name).getD absent
      table (insertEntry name (putAt value steps inner) below.entries)
  | .item index :: steps, below =>
      let position := SettingStep.position index below.items.length
      let inner := (below.items[position]?).getD absent
      list (setItem below.items position (putAt value steps inner))

/-- A source on top of the settings below it. The keys of a source may be paths. -/
def layer (below : Setting) (source : List (String × Setting)) : Setting :=
  source.foldl (fun below e => putAt e.2 (SettingStep.ofKey e.1) below) below

def layers (sources : List (List (String × Setting))) : Setting :=
  sources.foldl layer (table [])

end Setting

end RecordSchema
