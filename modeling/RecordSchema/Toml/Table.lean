import RecordSchema.KeyMap
import RecordSchema.Settings.Setting

set_option autoImplicit false

/-!
Tables while a TOML document is read. Each key may be given once. A table that a header named, or
that a value is, is closed to dotted keys; one that only stood on the way of a header may still get
a header; one that dotted keys made takes further dotted keys only.
-/

namespace RecordSchema.Toml

/-- What made a table: its own header or the start of the document, the way of a header, or a
dotted key. -/
inductive Origin where
  | header
  | way
  | dotted
  deriving DecidableEq

inductive Node where
  | value (s : Setting)
  | table (origin : Origin) (entries : List (String × Node))
  /-- Tables that were given one by one, the last one first. -/
  | rows (last : List (String × Node)) (before : List (List (String × Node)))

structure Table where
  origin : Origin
  entries : List (String × Node)

namespace Table

def start : Table := ⟨.header, []⟩

def node (t : Table) : Node := .table t.origin t.entries

def set (t : Table) (key : String) (n : Node) : Table :=
  { t with entries := insertEntry key n t.entries }

/-- Changes the table at the end of a path. Missing tables on the way are made; of rows the last
one is entered. -/
def within? (dotted : Bool) (change? : Table → Option Table) : List String → Table → Option Table
  | [], t => change? t
  | key :: path, t =>
      match t.entries.lookup key with
      | none =>
          (within? dotted change? path ⟨if dotted then .dotted else .way, []⟩).map fun inner =>
            t.set key inner.node
      | some (.table origin entries) =>
          if dotted ∧ origin = .header then none
          else (within? dotted change? path ⟨origin, entries⟩).map fun inner => t.set key inner.node
      | some (.rows last before) =>
          (within? dotted change? path ⟨.header, last⟩).map fun inner =>
            t.set key (.rows inner.entries before)
      | some (.value _) => none

/-- Gives a value to a key that has none. A table that dotted keys made is reached by dotted keys
only, and no other table is. -/
def assign? (t : Table) (path : List String) (value : Setting) : Option Table :=
  let way := path.dropLast
  let put? (inner : Table) : Option Table :=
    match path.getLast? with
    | none => none
    | some key =>
        if inner.origin = .dotted ↔ way.isEmpty then none
        else if (inner.entries.lookup key).isSome then none
        else some (inner.set key (.value value))
  within? true put? way t

def assignAll? (t : Table) (assignments : List (List String × Setting)) : Option Table :=
  assignments.foldlM (fun t a => t.assign? a.1 a.2) t

/-- Fills the table that a header names. -/
def fillAt? (t : Table) (path : List String) (assignments : List (List String × Setting)) :
    Option Table :=
  let fill? (parent : Table) : Option Table :=
    match path.getLast? with
    | none => none
    | some key =>
        match parent.entries.lookup key with
        | none => (start.assignAll? assignments).map fun inner => parent.set key inner.node
        | some (.table .way entries) =>
            ((Table.mk .header entries).assignAll? assignments).map fun inner =>
              parent.set key inner.node
        | some _ => none
  within? false fill? path.dropLast t

/-- Adds a row to the rows that a header names. -/
def addRow? (t : Table) (path : List String) (assignments : List (List String × Setting)) :
    Option Table :=
  let add? (parent : Table) : Option Table :=
    match path.getLast? with
    | none => none
    | some key =>
        match parent.entries.lookup key with
        | none =>
            (start.assignAll? assignments).map fun inner => parent.set key (.rows inner.entries [])
        | some (.rows last before) =>
            (start.assignAll? assignments).map fun inner =>
              parent.set key (.rows inner.entries (last :: before))
        | some _ => none
  within? false add? path.dropLast t

end Table

namespace Node

mutual

def setting : Node → Setting
  | value s => s
  | table _ entries => .table (settings entries)
  | rows last before => .list (rowSettings [.table (settings last)] before)

def settings : List (String × Node) → List (String × Setting)
  | [] => []
  | (key, n) :: rest => (key, n.setting) :: settings rest

/-- Puts rows, the last one first, in front of the rows that follow them. -/
def rowSettings (following : List Setting) : List (List (String × Node)) → List Setting
  | [] => following
  | entries :: before => rowSettings (.table (settings entries) :: following) before

end

end Node

def Table.setting (t : Table) : Setting := t.node.setting

end RecordSchema.Toml
