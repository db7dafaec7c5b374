import RecordSchema.KeyMap
import RecordSchema.Ron.Token

set_option autoImplicit false

/-!
Values of a RON text. Round brackets hold named fields or a list of values, square brackets a list,
curly brackets keys and values. A word in front of round brackets names a type and says nothing
about the value; a word alone is an absent value.
-/

namespace RecordSchema.Ron

/-- What a document asks for in its header. -/
structure Features where
  /-- Named fields need the name of a type, which untyped values do not have. -/
  strictNames : Bool := false

namespace Features

def enable? (f : Features) (name : List Char) : Option Features :=
  match String.ofList name with
  | "explicit_struct_names" => some { f with strictNames := true }
  | "implicit_some" | "unwrap_newtypes" | "unwrap_variant_newtypes" => some f
  | _ => none

/-- The names of features up to the end of a header. -/
def names? (f : Features) : List Token → Option (Features × List Token)
  | .word w :: .closeBracket .round :: .closeBracket .square :: rest => (f.enable? w).map (·, rest)
  | .word w :: .comma :: .closeBracket .round :: .closeBracket .square :: rest =>
      (f.enable? w).map (·, rest)
  | .word w :: .comma :: rest => (f.enable? w).bind fun f => f.names? rest
  | _ => none

/-- The headers of a document and the tokens that follow them. -/
def ofTokens? (f : Features) : Nat → List Token → Option (Features × List Token)
  | fuel + 1, .hash :: .bang :: .openBracket .square :: .word w :: .openBracket .round :: rest =>
      if w == "enable".toList then
        (f.names? rest).bind fun (f, left) => f.ofTokens? fuel left
      else none
  | _, tokens => some (f, tokens)

end Features

/-- Words that stand for values. -/
def ofWord? (w : List Char) : Option Setting :=
  match String.ofList w with
  | "true" => some (.flag true)
  | "false" => some (.flag false)
  | "None" => some .absent
  | "inf" => some (.float (.infinity false))
  | "NaN" => some (.float .nan)
  | _ => none

/-! Values -/

abbrev Reader (α : Type) := List Token → Option (α × List Token)

def closes (b : Bracket) : List Token → Bool
  | .closeBracket b' :: _ => decide (b = b')
  | _ => false

/-- Items up to a closing bracket, with commas between them. -/
def upTo? {α : Type} (b : Bracket) (item? : Reader α) : Nat → Reader (List α)
  | 0, _ => none
  | fuel + 1, tokens =>
      if closes b tokens then some ([], tokens.drop 1)
      else
        (item? tokens).bind fun (item, left) =>
          match left with
          | .comma :: left =>
              (upTo? b item? fuel left).map fun (items, left) => (item :: items, left)
          | _ => if closes b left then some ([item], left.drop 1) else none

def list? (b : Bracket) (value? : Reader Setting) : Reader Setting := fun tokens =>
  (upTo? b value? tokens.length tokens).map fun (items, left) => (.list items, left)

/-- Of two entries under one key the later wins. -/
def table? (b : Bracket) (item? : Reader (String × Setting)) : Reader Setting := fun tokens =>
  (upTo? b item? tokens.length tokens).map fun (entries, left) =>
    (.table (entries.foldl (fun entries e => insertEntry e.1 e.2 entries) []), left)

def named? (value? : Reader Setting) : Reader (String × Setting)
  | .word w :: .colon :: rest =>
      (value? rest).map fun (s, left) => ((String.ofList w, s), left)
  | _ => none

/-- Keys in curly brackets are texts. -/
def keyed? (value? : Reader Setting) : Reader (String × Setting) := fun tokens =>
  match value? tokens with
  | some (.text key, .colon :: rest) => (value? rest).map fun (s, left) => ((key, s), left)
  | _ => none

/-- What stands in round brackets: named fields when a word and a colon come first. -/
def round? (f : Features) (value? : Reader Setting) : Reader Setting := fun tokens =>
  match tokens with
  | .word _ :: .colon :: _ => if f.strictNames then none else table? .round (named? value?) tokens
  | _ => list? .round value? tokens

/-- The value in round brackets behind the word that marks a value as present. -/
def present? (value? : Reader Setting) : Reader Setting := fun tokens =>
  (value? tokens).bind fun (s, left) =>
    match left with
    | .comma :: left => if closes .round left then some (s, left.drop 1) else none
    | _ => if closes .round left then some (s, left.drop 1) else none

def isPresentMark (w : List Char) : Bool := w == "Some".toList

/-- What follows a word that is no value itself. -/
def afterWord? (f : Features) (value? : Reader Setting) (w : List Char) : Reader Setting
  | .openBracket .round :: rest =>
      if isPresentMark w then present? value? rest else round? f value? rest
  | .unit :: rest => if isPresentMark w then none else some (.list [], rest)
  | rest => if isPresentMark w then none else some (.absent, rest)

/-- A value that is nested less deep than the limit. -/
def value? (f : Features) : Nat → Reader Setting
  | 0, _ => none
  | depth + 1, tokens =>
      match tokens with
      | .value s :: rest => some (s, rest)
      | .unit :: rest => some (.absent, rest)
      | .word w :: rest =>
          match ofWord? w with
          | some s => some (s, rest)
          | none => afterWord? f (value? f depth) w rest
      | .openBracket .round :: rest => round? f (value? f depth) rest
      | .openBracket .square :: rest => list? .square (value? f depth) rest
      | .openBracket .curly :: rest => table? .curly (keyed? (value? f depth)) rest
      | _ => none

def nestingLimit : Nat := 65

/-- The value of a text; none when the text is malformed. -/
def read? (text : String) : Option Setting := do
  let tokens ← Token.ofText? text
  let (f, tokens) ← ({} : Features).ofTokens? tokens.length tokens
  match value? f nestingLimit tokens with
  | some (s, []) => return s
  | _ => none

end RecordSchema.Ron
