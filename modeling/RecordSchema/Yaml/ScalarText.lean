import RecordSchema.Yaml.Cursor
import RecordSchema.Text.Hex
import RecordSchema.Number.Reader

set_option autoImplicit false

/-!
The text of scalars. A gap of blanks and breaks within a plain or quoted scalar is folded: without
a break it stands as it is, a single break becomes a blank, and of several breaks the first is
dropped.
-/

namespace RecordSchema.Yaml

/-- Breaks folded. Only a line feed is dropped. -/
def foldBreaks : List Char → List Char
  | [] => []
  | ['\n'] => [' ']
  | '\n' :: rest => rest
  | breaks => breaks

structure Gap where
  /-- The blanks before the first break. -/
  blanks : List Char
  breaks : List Char

namespace Gap

def isMultiline (g : Gap) : Bool := !g.breaks.isEmpty

def text (g : Gap) : List Char := if g.isMultiline then foldBreaks g.breaks else g.blanks

def none : Gap := ⟨[], []⟩

end Gap

def Cursor.gap (c : Cursor) : Gap × Cursor :=
  let (chars, c) := c.span isGap
  (⟨chars.takeWhile isBlank, chars.filter isBreak⟩, c)

/-- The blanks that a gap starts its lines with, in order. -/
def lineStarts : List Char → List (List Char)
  | [] => []
  | c :: rest =>
      if isBreak c then rest.takeWhile isBlank :: lineStarts rest else lineStarts rest

/-- A tab stands where indentation of this width is due. -/
def Cursor.gapHasTab (c : Cursor) (width : Nat) : Bool :=
  (lineStarts (c.rest.takeWhile isGap)).any fun start => (start.take width).contains '\t'

/-! Plain scalars -/

def isFlowIndicator (c : Char) : Bool :=
  c == ',' || c == '[' || c == ']' || c == '\x7b' || c == '\x7d'

/-- The characters of a plain scalar up to a blank, a break, or what ends the scalar; none when a
colon stands before a flow indicator. -/
def plainRun? (inFlow : Bool) : List Char → Option (List Char)
  | [] => some []
  | c :: rest =>
      if isGap c then some []
      else if inFlow && c == ':' && rest.head?.any (fun x => isFlowIndicator x || x == '?') then none
      else if c == ':' && Cursor.endsWord rest.head? then some []
      else if inFlow && isFlowIndicator c then some []
      else (plainRun? inFlow rest).map (c :: ·)

/-- What a plain scalar gives: its text, and whether a break followed the last character. -/
structure PlainScalar where
  text : List Char
  endsInBreak : Bool
  cursor : Cursor

/-- Continues a plain scalar. `width` is the indentation that its lines need outside of flow
collections. -/
def plainLoop? (inFlow : Bool) (width : Nat) :
    Nat → List Char → Gap → Cursor → Option PlainScalar
  | 0, text, gap, c => some ⟨text, gap.isMultiline, c⟩
  | fuel + 1, text, gap, c =>
      if c.isAtDocumentMarker || c.peek? == some '#' then some ⟨text, gap.isMultiline, c⟩
      else
        match plainRun? inFlow c.rest with
        | none => none
        | some run =>
            let joined := if run.isEmpty then text else text ++ gap.text ++ run
            let pending := if run.isEmpty then gap else Gap.none
            let c := c.skip run.length
            if !c.peek?.any isGap then some ⟨joined, pending.isMultiline, c⟩
            else if c.gapHasTab width then none
            else
              let (gap, c) := c.gap
              if !inFlow && c.column < width then some ⟨joined, gap.isMultiline, c⟩
              else plainLoop? inFlow width fuel joined gap c

def plainScalar? (inFlow : Bool) (width : Nat) (c : Cursor) : Option PlainScalar :=
  plainLoop? inFlow width (c.rest.length + 1) [] Gap.none c

/-! Quoted scalars -/

def namedEscape? (c : Char) : Option Char :=
  match c with
  | '0' => some '\x00'
  | 'a' => some '\x07'
  | 'b' => some '\x08'
  | 't' => some '\t'
  | '\t' => some '\t'
  | 'n' => some '\n'
  | 'v' => some '\x0b'
  | 'f' => some '\x0c'
  | 'r' => some '\r'
  | 'e' => some '\x1b'
  | ' ' => some ' '
  | '"' => some '"'
  | '/' => some '/'
  | '\\' => some '\\'
  | 'N' => some '\u0085'
  | '_' => some '\u00a0'
  | 'L' => some '\u2028'
  | 'P' => some '\u2029'
  | _ => none

/-- The number of hex digits that follow an escape of a code. -/
def escapeWidth? (c : Char) : Option Nat :=
  match c with
  | 'x' => some 2
  | 'u' => some 4
  | 'U' => some 8
  | _ => none

/-- One escape behind its backslash: the character and the number of characters it takes. -/
def escape? (cs : List Char) : Option (Char × Nat) :=
  match cs with
  | [] => none
  | c :: rest =>
      match escapeWidth? c with
      | some width =>
          let digits := rest.take width
          if digits.length < width then none
          else ((Text.hexValue? digits).bind Text.charOfCode?).map fun x => (x, width + 1)
      | none => (namedEscape? c).map fun x => (x, 1)

/-- How a run within a quoted scalar ends. -/
inductive RunEnd where
  | quote
  | gap
  | escapedBreak

/-- The characters of a quoted scalar up to the closing quote, a gap, or a break that is escaped. -/
def quotedRun? (single : Bool) :
    Nat → List Char → Cursor → Option (List Char × RunEnd × Cursor)
  | 0, _, _ => none
  | fuel + 1, text, c =>
      match c.rest with
      | [] => some (text, .gap, c)
      | x :: rest =>
          if isGap x then some (text, .gap, c)
          else if single && x == '\'' && rest.head? == some '\'' then
            quotedRun? single fuel (text ++ ['\'']) (c.skip 2)
          else if x == (if single then '\'' else '"') then some (text, .quote, c.advance)
          else if !single && x == '\\' && rest.head?.any isBreak then
            some (text, .escapedBreak, c.skip 2)
          else if !single && x == '\\' then
            match escape? rest with
            | none => none
            | some (decoded, width) => quotedRun? single fuel (text ++ [decoded]) (c.skip (width + 1))
          else quotedRun? single fuel (text ++ [x]) c.advance

/-- Behind an escaped break, blanks are dropped and breaks kept. -/
def quotedLoop? (single : Bool) : Nat → List Char → Cursor → Option (List Char × Cursor)
  | 0, _, _ => none
  | fuel + 1, text, c =>
      if c.isAtDocumentMarker || c.isAtEnd then none
      else
        match quotedRun? single (c.rest.length + 1) [] c with
        | none => none
        | some (run, .quote, c) => some (text ++ run, c)
        | some (run, .gap, c) =>
            let (gap, c) := c.gap
            quotedLoop? single fuel (text ++ run ++ gap.text) c
        | some (run, .escapedBreak, c) =>
            if c.peek? == some '"' then some (text ++ run, c.advance)
            else
              let (gap, c) := c.gap
              quotedLoop? single fuel (text ++ run ++ gap.breaks) c

/-- A scalar in quotes, from its opening quote on. -/
def quotedScalar? (single : Bool) (c : Cursor) : Option (List Char × Cursor) :=
  quotedLoop? single (c.rest.length + 1) [] c.advance

/-! Block scalars -/

inductive Chomping where
  | clip
  | strip
  | keep
  deriving DecidableEq

def chomping? (c : Char) : Option Chomping :=
  if c == '-' then some .strip else if c == '+' then some .keep else none

/-- The indicators behind the one of the style: chomping and indentation in either order. -/
def blockHeader? (c : Cursor) : Option (Chomping × Option Nat × Cursor) :=
  let digit (c : Cursor) : Option (Option Nat × Cursor) :=
    match c.peek? with
    | some x =>
        if x == '0' then none
        else if x.isDigit then some (some (Number.digitValue x), c.advance)
        else some (none, c)
    | none => some (none, c)
  let mark (c : Cursor) : Chomping × Cursor :=
    match c.peek?.bind chomping? with
    | some chomping => (chomping, c.advance)
    | none => (.clip, c)
  match c.peek?.bind chomping? with
  | some chomping => (digit c.advance).map fun (width, c) => (chomping, width, c)
  | none =>
      (digit c).map fun (width, c) =>
        match width with
        | some _ => let (chomping, c) := mark c; (chomping, width, c)
        | none => (.clip, none, c)

/-- Empty lines of a block scalar with the deepest indentation on the way. `limit` is the known
indentation; none when a tab stands where indentation is due. -/
def blockBreaks? (limit : Option Nat) :
    Nat → Nat → List Char → Cursor → Option (Nat × List Char × Cursor)
  | 0, deepest, breaks, c => some (deepest, breaks, c)
  | fuel + 1, deepest, breaks, c =>
      let spaces := (c.rest.takeWhile (· == ' ')).length
      let taken :=
        match limit with
        | some width => min spaces (width - c.column)
        | none => spaces
      let c := c.skip taken
      let deepest := max deepest c.column
      if c.peek? == some '\t' && limit.all (fun width => c.column < width) then none
      else
        match c.peek? with
        | some x =>
            if isBreak x then blockBreaks? limit fuel deepest (breaks ++ [x]) c.advance
            else some (deepest, breaks, c)
        | none => some (deepest, breaks, c)

/-- Lines of a block scalar. `leading` is the break before the line and `empty` the breaks of the
empty lines after it; `indented` tells that the line before starts with a blank. -/
def blockLines? (folded : Bool) (width : Nat) :
    Nat → List Char → List Char → List Char → Bool → Cursor →
      Option (List Char × List Char × List Char × Cursor)
  | 0, text, leading, empty, _, c => some (text, leading, empty, c)
  | fuel + 1, text, leading, empty, indented, c =>
      if c.column ≠ width || c.isAtEnd then some (text, leading, empty, c)
      else
        let blank := c.peek?.any isBlank
        let join :=
          if folded && leading == ['\n'] && !indented && !blank then
            if empty.isEmpty then [' '] else empty
          else leading ++ empty
        let (line, c) := c.span fun x => !isBreak x
        let leading := c.rest.take 1
        match blockBreaks? (some width) (c.rest.length + 1) 0 [] c.advance with
        | none => none
        | some (_, empty, c) => blockLines? folded width fuel (text ++ join ++ line) leading empty blank c

/-- A block scalar, from its indicator on. `indent` is the column of the enclosing block. -/
def blockScalar? (folded : Bool) (indent : Option Nat) (c : Cursor) :
    Option (List Char × Cursor) := do
  let (chomping, explicit, c) ← blockHeader? c.advance
  let c ← c.finishLine?
  let base := indent.getD 0
  let fuel := c.rest.length + 1
  let limit := explicit.map fun increment => base + increment
  let (deepest, empty, c) ← blockBreaks? limit fuel 0 [] c
  let least := indent.elim 1 (· + 1)
  let width := limit.getD (max deepest least)
  let (text, leading, empty, c) ← blockLines? folded width fuel [] [] empty false c
  let tail :=
    match chomping with
    | .strip => []
    | .clip => leading
    | .keep => leading ++ empty
  return (text ++ tail, c)

end RecordSchema.Yaml
