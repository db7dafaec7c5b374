import RecordSchema.Yaml.Resolution

set_option autoImplicit false

/-!
Reading values out of a YAML document. Aliases are followed where a value is needed. Collections
may be nested 128 deep, aliases included, and an alias may be followed a hundred times as often as
the document has nodes.
-/

namespace RecordSchema.Yaml

/-- A reading keeps how many times an alias may still be followed. -/
abbrev Reading := StateT Nat Option

structure Document where
  root : Node
  anchored : List (Nat × Node)

namespace Document

/-- Of nodes with one number the last counts. -/
def ofNode (root : Node) : Document := ⟨root, root.anchored.reverse⟩

def depthLimit : Nat := 128

def run? {α : Type} (doc : Document) (read : Node → Reading α) : Option α :=
  ((read doc.root).run (100 * doc.root.weight)).map (·.1)

/-- The node that is meant: the anchored one in place of an alias. -/
def follow (doc : Document) : Node → Reading Node
  | .reference id => do
      match ← get with
      | 0 => failure
      | left + 1 =>
          set left
          match doc.anchored.lookup id with
          | some target => return target
          | none => failure
  | n => return n

/-- The text of a scalar, whatever its style and tag. -/
def readText (doc : Document) (n : Node) : Reading String := do
  match ← doc.follow n with
  | .scalar _ _ text => return text
  | _ => failure

/-- The items of a sequence, each read with one level less to go; a bare empty scalar has none. -/
def readItems {α : Type} (doc : Document) (depth : Nat) (read : Nat → Node → Reading α)
    (n : Node) : Reading (List α) := do
  match ← doc.follow n, depth with
  | .sequence _ _, 0 => failure
  | .sequence _ items, depth + 1 => items.mapM (read depth)
  | .scalar _ .plain "", _ => return []
  | _, _ => failure

/-- Folds over the entries of a mapping, whose keys are scalars. -/
def readEntries {α : Type} (doc : Document) (depth : Nat)
    (visit : Nat → α → String → Node → Reading α) (start : α) (n : Node) : Reading α := do
  match ← doc.follow n, depth with
  | .mapping _ _, 0 => failure
  | .mapping _ entries, depth + 1 =>
      entries.foldlM
        (fun (a : α) (e : Node × Node) => do visit depth a (← doc.readText e.1) e.2) start
  | .scalar _ .plain "", _ => return start
  | _, _ => failure

/-- A flag is a plain scalar, or a literal one with the tag of flags. -/
def readFlag (doc : Document) (n : Node) : Reading Bool := do
  match ← doc.follow n with
  | .scalar p style text =>
      if style = .plain ∨ (style = .literal ∧ p.tag = some (coreTag "bool")) then
        StateT.lift (flag? text)
      else failure
  | _ => failure

/-- A value that may be absent: null texts and empty plain scalars are, unless they have a tag. -/
def readOptional {α : Type} (doc : Document) (read : Node → Reading α) (n : Node) :
    Reading (Option α) := do
  let n ← doc.follow n
  match n with
  | .scalar p .plain text =>
      match p.tag with
      | none => if text.isEmpty || isNullText text then return none else some <$> read n
      | some tag =>
          if tag == coreTag "null" then if isNullText text then return none else failure
          else some <$> read n
  | _ => some <$> read n

/-- A node as data. Keys become texts, and of two entries under one key the later wins. -/
def readData (doc : Document) (depth : Nat) (n : Node) : Reading Json := do
  match ← doc.follow n with
  | .reference _ => failure
  | .scalar p style text => StateT.lift (scalarData? p style text)
  | .sequence p items =>
      match depth with
      | 0 => failure
      | depth + 1 =>
          if hasDataTag p then return .arr (← items.mapM (doc.readData depth)) else failure
  | .mapping p entries =>
      match depth with
      | 0 => failure
      | depth + 1 =>
          if hasDataTag p then
            let fields ← entries.mapM fun (e : Node × Node) => do
              return (← doc.readText e.1, ← doc.readData depth e.2)
            return .mkObj fields
          else failure

end Document

/-- The data of a text; a text without a document is null. -/
def data? (s : String) : Option Json :=
  (document? s).bind fun root =>
    match root with
    | none => some .null
    | some root =>
        let doc := Document.ofNode root
        doc.run? (doc.readData Document.depthLimit)

end RecordSchema.Yaml
