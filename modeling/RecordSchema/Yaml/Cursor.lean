set_option autoImplicit false

/-!
YAML text as a cursor sees it: the characters that may occur, line breaks in one form, and the
position after each character.
-/

namespace RecordSchema.Yaml

/-- Characters that may stand in YAML text. -/
def isAllowed (c : Char) : Bool :=
  let n := c.toNat
  c == '\t' || c == '\n' || c == '\r' || (0x20 ≤ n && n ≤ 0x7e) || n == 0x85 ||
    (0xa0 ≤ n && n ≤ 0xd7ff) || (0xe000 ≤ n && n ≤ 0xfffd) || 0x10000 ≤ n

/-- A carriage return, a line feed after it or not, and the next-line character all become line
feeds. -/
def normaliseBreaks : List Char → List Char
  | [] => []
  | '\r' :: '\n' :: rest => '\n' :: normaliseBreaks rest
  | c :: rest => (if c == '\r' || c == '\u0085' then '\n' else c) :: normaliseBreaks rest

/-- The line feed, and the line and paragraph separators, which folding keeps. -/
def isBreak (c : Char) : Bool := c == '\n' || c == '\u2028' || c == '\u2029'

def isBlank (c : Char) : Bool := c == ' ' || c == '\t'

def isGap (c : Char) : Bool := isBlank c || isBreak c

/-- Letters, digits, the underscore and the hyphen. -/
def isWordChar (c : Char) : Bool := c.isAlphanum || c == '_' || c == '-'

structure Position where
  line : Nat
  column : Nat
  index : Nat

def Position.after (p : Position) (c : Char) : Position :=
  if isBreak c then ⟨p.line + 1, 0, p.index + 1⟩ else ⟨p.line, p.column + 1, p.index + 1⟩

structure Cursor where
  position : Position
  rest : List Char

namespace Cursor

/-- The start of a text; none when it holds a character that may not occur. -/
def ofChars? (cs : List Char) : Option Cursor :=
  let body :=
    match cs with
    | '\ufeff' :: rest => rest
    | _ => cs
  if body.all isAllowed then some ⟨⟨0, 0, 0⟩, normaliseBreaks body⟩ else none

def column (c : Cursor) : Nat := c.position.column

def peek? (c : Cursor) : Option Char := c.rest.head?

/-- The character some places ahead. -/
def at? (c : Cursor) (n : Nat) : Option Char := c.rest[n]?

def isAtEnd (c : Cursor) : Bool := c.rest.isEmpty

def advance (c : Cursor) : Cursor :=
  match c.rest with
  | [] => c
  | x :: rest => ⟨c.position.after x, rest⟩

def skip : Nat → Cursor → Cursor
  | 0, c => c
  | n + 1, c => skip n c.advance

/-- The longest run of characters with a property, and the cursor behind it. -/
def span (p : Char → Bool) (c : Cursor) : List Char × Cursor :=
  let run := c.rest.takeWhile p
  (run, ⟨run.foldl Position.after c.position, c.rest.dropWhile p⟩)

def skipWhile (p : Char → Bool) (c : Cursor) : Cursor := (c.span p).2

/-- A blank, a break or the end. -/
def endsWord (x : Option Char) : Bool :=
  match x with
  | none => true
  | some c => isGap c

/-- A break or the end. -/
def endsLine (x : Option Char) : Bool :=
  match x with
  | none => true
  | some c => isBreak c

/-- A line that starts a document with three hyphens, or ends one with three points. -/
def isAtMarker (mark : Char) (c : Cursor) : Bool :=
  c.column == 0 && c.rest.take 3 == [mark, mark, mark] && endsWord (c.at? 3)

def isAtDocumentMarker (c : Cursor) : Bool := c.isAtMarker '-' || c.isAtMarker '.'

/-- Skips blanks and a comment; none when anything else stands before the end of the line. -/
def finishLine? (c : Cursor) : Option Cursor :=
  let c := c.skipWhile isBlank
  let c := if c.peek? == some '#' then c.skipWhile fun x => !isBreak x else c
  if endsLine c.peek? then some c.advance else none

end Cursor

end RecordSchema.Yaml
