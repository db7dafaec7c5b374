import RecordSchema.Toml.Text
import RecordSchema.Toml.Literal
import RecordSchema.Toml.Table

set_option autoImplicit false

/-!
Reading a TOML document: values, which may be nested 79 deep, then statements, then the table that
the statements make together.
-/

namespace RecordSchema.Toml

def nestingLimit : Nat := 79

/-- The longest path of a key. -/
def pathLimit : Nat := 79

def path? (cs : Rest) : Option (List String × Rest) := keyPath? pathLimit cs

/-- Skips spaces, line breaks and comments, starting inside of a comment or outside. -/
def skipGaps (inComment : Bool) : Rest → Rest
  | [] => []
  | '\n' :: rest => skipGaps false rest
  | '\r' :: '\n' :: rest => skipGaps false rest
  | c :: rest =>
      if inComment then (if isPlain c then skipGaps true rest else c :: rest)
      else if c == '#' then skipGaps true rest
      else if isSpace c then skipGaps false rest
      else c :: rest

/-! Values -/

/-- A reader of one value at the start of a text. -/
abbrev ValueReader := Rest → Option (Setting × Rest)

/-- The items of an array up to its closing bracket. The last may have a comma behind it. -/
def items? (value? : ValueReader) : Nat → Rest → Option (List Setting × Rest)
  | 0, _ => none
  | fuel + 1, cs =>
      match skipGaps false cs with
      | ']' :: rest => some ([], rest)
      | cs =>
          match value? cs with
          | none => none
          | some (item, rest) =>
              match skipGaps false rest with
              | ']' :: rest => some ([item], rest)
              | ',' :: rest => (items? value? fuel rest).map fun (items, rest) => (item :: items, rest)
              | _ => none

/-- A path, an equals sign and a value. -/
def assignment? (value? : ValueReader) (cs : Rest) :
    Option ((List String × Setting) × Rest) := do
  let (path, rest) ← path? cs
  match rest with
  | '=' :: rest =>
      let (value, rest) ← value? (skipSpace rest)
      return ((path, value), rest)
  | _ => failure

/-- The assignments of an inline table up to its closing brace, at least one. -/
def assignments? (value? : ValueReader) : Nat → Rest → Option (List (List String × Setting) × Rest)
  | 0, _ => none
  | fuel + 1, cs =>
      match assignment? value? cs with
      | none => none
      | some (a, rest) =>
          match skipSpace rest with
          | '\x7d' :: rest => some ([a], rest)
          | ',' :: rest =>
              (assignments? value? fuel rest).map fun (others, rest) => (a :: others, rest)
          | _ => none

def inlineTable? (value? : ValueReader) (cs : Rest) : Option (Setting × Rest) :=
  match skipSpace cs with
  | '\x7d' :: rest => some (.table [], rest)
  | cs => do
      let (assignments, rest) ← assignments? value? cs.length cs
      let t ← Table.start.assignAll? assignments
      return (t.setting, rest)

/-- A value that is nested at most so deep. -/
def value? : Nat → ValueReader
  | 0, '[' :: _ => none
  | 0, '\x7b' :: _ => none
  | depth + 1, '[' :: rest =>
      (items? (value? depth) (rest.length + 1) rest).map fun (items, rest) => (.list items, rest)
  | depth + 1, '\x7b' :: rest => inlineTable? (value? depth) rest
  | _, cs =>
      if cs.head? == some '"' || cs.head? == some '\'' then
        (text? cs).map fun (text, rest) => (.text (String.ofList text), rest)
      else (ofWord? (word cs)).map fun s => (s, cs.drop (word cs).length)

/-! Statements -/

inductive Statement where
  | assign (path : List String) (value : Setting)
  | table (path : List String)
  | row (path : List String)

/-- The rest after a line that has only spaces and a comment left. -/
def endOfLine? (cs : Rest) : Option Rest :=
  let left :=
    match skipSpace cs with
    | '#' :: comment => comment.dropWhile isPlain
    | cs => cs
  if left.isEmpty then some [] else lineBreak? left

def statement? : Rest → Option (Statement × Rest)
  | '[' :: '[' :: rest =>
      match path? rest with
      | some (path, ']' :: ']' :: rest) => some (.row path, rest)
      | _ => none
  | '[' :: rest =>
      match path? rest with
      | some (path, ']' :: rest) => some (.table path, rest)
      | _ => none
  | cs => (assignment? (value? nestingLimit) cs).map fun (a, rest) => (.assign a.1 a.2, rest)

def statements? : Nat → Rest → Option (List Statement)
  | 0, _ => none
  | fuel + 1, cs =>
      match skipGaps false cs with
      | [] => some []
      | cs => do
          let (statement, rest) ← statement? cs
          let others ← statements? fuel (← endOfLine? rest)
          return statement :: others

/-! Documents -/

/-- A header, or the start of the document, and the assignments below it. -/
structure Part where
  header : Option Statement
  assignments : List (List String × Setting)

/-- The parts of a document in order. -/
def parts : List Statement → List Part
  | [] => [⟨none, []⟩]
  | .assign path value :: rest =>
      match parts rest with
      | ⟨none, assignments⟩ :: others => ⟨none, (path, value) :: assignments⟩ :: others
      | others => ⟨none, [(path, value)]⟩ :: others
  | header :: rest =>
      match parts rest with
      | ⟨none, assignments⟩ :: others => ⟨none, []⟩ :: ⟨some header, assignments⟩ :: others
      | others => ⟨none, []⟩ :: ⟨some header, []⟩ :: others

def Table.part? (t : Table) (p : Part) : Option Table :=
  match p.header with
  | some (.table path) => t.fillAt? path p.assignments
  | some (.row path) => t.addRow? path p.assignments
  | _ => t.assignAll? p.assignments

/-- The table that a document gives; none when the document is malformed. -/
def read? (document : String) : Option Setting := do
  let cs :=
    match document.toList with
    | '\ufeff' :: rest => rest
    | cs => cs
  let statements ← statements? (cs.length + 1) cs
  let t ← (parts statements).foldlM Table.part? Table.start
  return t.setting

end RecordSchema.Toml
