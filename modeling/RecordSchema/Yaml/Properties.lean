import RecordSchema.Yaml.ScalarText
import RecordSchema.Yaml.Token

set_option autoImplicit false

/-!
Tokens beside the content: anchors and aliases, tags, and directives.
-/

namespace RecordSchema.Yaml

/-- What may follow the name of an anchor. -/
def endsName (x : Option Char) : Bool :=
  Cursor.endsWord x || x.any fun c =>
    c == '?' || c == ':' || c == ',' || c == ']' || c == '\x7d' || c == '%' || c == '@' ||
      c == '\x60'

/-- The name of an anchor or an alias, from its indicator on. -/
def anchorName? (c : Cursor) : Option (String × Cursor) :=
  let (name, c) := c.advance.span isWordChar
  if name.isEmpty || !endsName c.peek? then none else some (String.ofList name, c)

/-! Tags -/

/-- Characters of a tag besides letters, digits, the underscore and the hyphen. -/
def isTagPunctuation (c : Char) : Bool :=
  ";/?:@&=+$.%!~*'()".contains c

def isFlowTagPunctuation (c : Char) : Bool := c == ',' || c == '[' || c == ']'

/-- The bytes of the escapes that a text starts with, and what follows them. -/
def tagEscapes? : List Char → Option (List UInt8 × List Char)
  | '%' :: a :: b :: rest =>
      match Text.hexValue? [a, b] with
      | none => none
      | some code => (tagEscapes? rest).map fun (codes, rest) => (UInt8.ofNat code :: codes, rest)
  | '%' :: _ => none
  | rest => some ([], rest)

/-- The characters of a tag as far as they go. Escaped bytes must form whole characters. -/
def tagText? (withFlow : Bool) : Nat → List Char → Cursor → Option (List Char × Cursor)
  | 0, text, c => some (text, c)
  | fuel + 1, text, c =>
      match c.rest with
      | [] => some (text, c)
      | x :: _ =>
          if x == '%' then
            match tagEscapes? c.rest with
            | none => none
            | some (codes, rest) =>
                match String.fromUTF8? ⟨codes.toArray⟩ with
                | none => none
                | some s =>
                    tagText? withFlow fuel (text ++ s.toList) (c.skip (c.rest.length - rest.length))
          else if isWordChar x || isTagPunctuation x || (withFlow && isFlowTagPunctuation x) then
            tagText? withFlow fuel (text ++ [x]) c.advance
          else some (text, c)

def tagTextFrom? (withFlow : Bool) (c : Cursor) : Option (List Char × Cursor) :=
  tagText? withFlow (c.rest.length + 1) [] c

/-- An exclamation mark, a word, and perhaps a second mark. -/
def tagHandle? (c : Cursor) : Option (List Char × Cursor) :=
  if c.peek? == some '!' then
    let (word, c) := c.advance.span isWordChar
    if c.peek? == some '!' then some ('!' :: word ++ ['!'], c.advance) else some ('!' :: word, c)
  else
    none

/-- The handle and the suffix of a tag, from its mark on. A tag without a handle of its own has the
handle `!`, and the mark alone is a suffix without handle. -/
def tagParts? (c : Cursor) : Option (List Char × List Char × Cursor) :=
  if c.at? 1 == some '<' then
    match tagTextFrom? true (c.skip 2) with
    | some (suffix, c) =>
        if suffix.isEmpty || c.peek? ≠ some '>' then none else some ([], suffix, c.advance)
    | none => none
  else
    match tagHandle? c with
    | none => none
    | some (handle, c) =>
        match tagTextFrom? false c with
        | none => none
        | some (suffix, c) =>
            if 1 < handle.length && handle.getLast? == some '!' then
              if suffix.isEmpty then none else some (handle, suffix, c)
            else
              match handle.drop 1 ++ suffix with
              | [] => some ([], ['!'], c)
              | suffix => some (['!'], suffix, c)

def tag? (inFlow : Bool) (c : Cursor) : Option (Token × Cursor) :=
  match tagParts? c with
  | none => none
  | some (handle, suffix, c) =>
      if (inFlow && c.peek? == some ',') || Cursor.endsWord c.peek? then
        some (.tag (String.ofList handle) (String.ofList suffix), c)
      else
        none

/-! Directives -/

def versionNumber? (c : Cursor) : Option (Nat × Cursor) :=
  let (digits, c) := c.span Char.isDigit
  if digits.isEmpty || 9 < digits.length then none else some (Number.digitsValue digits, c)

def versionDirective? (c : Cursor) : Option (Token × Cursor) := do
  let (major, c) ← versionNumber? (c.skipWhile isBlank)
  if c.peek? ≠ some '.' then none
  else
    let (minor, c) ← versionNumber? c.advance
    return (.version major minor, c)

def tagDirective? (c : Cursor) : Option (Token × Cursor) := do
  let (handle, c) ← tagHandle? (c.skipWhile isBlank)
  if handle ≠ ['!'] ∧ handle.getLast? ≠ some '!' then none
  else if !c.peek?.any isBlank then none
  else
    let (stem, c) ← tagTextFrom? true (c.skipWhile isBlank)
    if stem.isEmpty || !Cursor.endsWord c.peek? then none
    else return (.tagHandle (String.ofList handle) (String.ofList stem), c)

/-- A directive, from its percent sign to the end of its line. -/
def directive? (c : Cursor) : Option (Token × Cursor) := do
  let (name, c) := c.advance.span isWordChar
  if !Cursor.endsWord c.peek? then none
  else
    let (token, c) ←
      if name == "YAML".toList then versionDirective? c
      else if name == "TAG".toList then tagDirective? c
      else none
    return (token, ← c.finishLine?)

end RecordSchema.Yaml
