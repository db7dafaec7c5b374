import RecordSchema.Yaml.Properties

set_option autoImplicit false

/-!
YAML text to tokens. Indentation opens and closes blocks. A token on which a mapping key may begin
is remembered by its number until a colon confirms the key or the line ends; for a confirmed key
the tokens that open it are put in before that token.
-/

namespace RecordSchema.Yaml

/-- A place where a key may have begun. It is required where only a key can stand. -/
structure KeyStart where
  required : Bool
  number : Nat
  position : Position

/-- The line has ended since, or too many characters have passed. -/
def KeyStart.isStale (k : KeyStart) (p : Position) : Bool :=
  k.position.line < p.line || k.position.index + 1024 < p.index

structure Lexer where
  cursor : Cursor
  /-- The tokens found, the latest first. -/
  found : List Token
  /-- The columns of the open blocks, the innermost first. -/
  columns : List Nat
  /-- The possible key of the block context and of each open flow collection, the innermost
  first. -/
  keyStarts : List (Option KeyStart)
  /-- Whether a key may begin at the next token. -/
  keyAllowed : Bool

namespace Lexer

def start (c : Cursor) : Lexer := ⟨c, [], [], [none], true⟩

def inFlow (l : Lexer) : Bool := 1 < l.keyStarts.length

def push (l : Lexer) (token : Token) : Lexer := { l with found := token :: l.found }

def move (l : Lexer) (c : Cursor) : Lexer := { l with cursor := c }

/-- Puts a token before the one with a number. -/
def insertAt (l : Lexer) (number : Nat) (token : Token) : Lexer :=
  let after := l.found.length - number
  { l with found := l.found.take after ++ token :: l.found.drop after }

def isDeeper (l : Lexer) (column : Nat) : Bool := l.columns.head?.all (· < column)

/-- Closes the blocks that are deeper than a column. -/
def closeBlocks (l : Lexer) (stays : Nat → Bool) : Lexer :=
  if l.inFlow then l
  else
    let closed := l.columns.takeWhile fun column => !stays column
    { l with
      columns := l.columns.dropWhile fun column => !stays column
      found := List.replicate closed.length .blockEnd ++ l.found }

/-- Opens a block at a column unless one is open there, with the token before a number. -/
def openBlock (l : Lexer) (column number : Nat) (token : Token) : Lexer :=
  if !l.inFlow && l.isDeeper column then
    { l.insertAt number token with columns := column :: l.columns }
  else l

/-- Forgets the possible key of the current level; none when the key is required. -/
def dropKey? (l : Lexer) : Option Lexer :=
  match l.keyStarts with
  | some k :: rest => if k.required then none else some { l with keyStarts := none :: rest }
  | _ => some l

/-- Remembers that a key may begin here. -/
def saveKey? (l : Lexer) : Option Lexer :=
  if l.keyAllowed then
    l.dropKey?.map fun l =>
      let k : KeyStart :=
        { required := !l.inFlow && l.columns.head? == some l.cursor.column
          number := l.found.length
          position := l.cursor.position }
      { l with keyStarts := some k :: l.keyStarts.drop 1 }
  else some l

/-- Forgets possible keys that are on an earlier line or too long; none when one is required. -/
def dropStaleKeys? (l : Lexer) : Option Lexer :=
  let stale (k : Option KeyStart) : Bool := k.any fun k => k.isStale l.cursor.position
  if l.keyStarts.any fun k => stale k && k.any (·.required) then none
  else some { l with keyStarts := l.keyStarts.map fun k => if stale k then none else k }

/-- Skips blanks, comments and breaks up to the next token. A break allows a key in block context,
and where a key may begin a tab is no blank. -/
def skipToToken : Nat → Lexer → Lexer
  | 0, l => l
  | fuel + 1, l =>
      let c := l.cursor
      let c := if c.column == 0 && c.peek? == some '\ufeff' then c.advance else c
      let c := c.skipWhile fun x => x == ' ' || (x == '\t' && (l.inFlow || !l.keyAllowed))
      let c := if c.peek? == some '#' then c.skipWhile fun x => !isBreak x else c
      if c.peek?.any isBreak then
        skipToToken fuel { l with cursor := c.advance, keyAllowed := l.keyAllowed || !l.inFlow }
      else l.move c

/-- A token of one character that is not part of a key. -/
def indicator? (l : Lexer) (token : Token) (keyAllowed : Bool) : Option Lexer :=
  l.dropKey?.map fun l => { (l.push token).move l.cursor.advance with keyAllowed }

def openFlow? (l : Lexer) (token : Token) : Option Lexer :=
  l.saveKey?.map fun l =>
    { (l.push token).move l.cursor.advance with
      keyStarts := none :: l.keyStarts, keyAllowed := true }

def closeFlow? (l : Lexer) (token : Token) : Option Lexer :=
  l.dropKey?.map fun l =>
    { (l.push token).move l.cursor.advance with
      keyStarts := if l.inFlow then l.keyStarts.drop 1 else l.keyStarts, keyAllowed := false }

/-- The indicator of a sequence entry or of a key, which opens a block where it stands. -/
def blockIndicator? (l : Lexer) (token opening : Token) (keyAllowed : Bool) : Option Lexer :=
  if l.inFlow then l.indicator? token keyAllowed
  else if l.keyAllowed then
    (l.openBlock l.cursor.column l.found.length opening).indicator? token keyAllowed
  else none

/-- The colon: it confirms the key that may have begun, or it stands alone. -/
def value? (l : Lexer) : Option Lexer :=
  match l.keyStarts with
  | some k :: rest =>
      let l := (l.insertAt k.number .key).openBlock k.position.column k.number .blockMappingStart
      some { (l.push .value).move l.cursor.advance with keyStarts := none :: rest, keyAllowed := false }
  | _ =>
      if l.inFlow then some { (l.push .value).move l.cursor.advance with keyAllowed := false }
      else if l.keyAllowed then
        let l := l.openBlock l.cursor.column l.found.length .blockMappingStart
        some { (l.push .value).move l.cursor.advance with keyAllowed := true }
      else none

/-- A token on which a key may begin. -/
def keyable? (l : Lexer) (scan : Cursor → Option (Token × Cursor)) : Option Lexer :=
  l.saveKey?.bind fun l =>
    (scan l.cursor).map fun (token, c) => { (l.push token).move c with keyAllowed := false }

def block? (l : Lexer) (style : ScalarStyle) : Option Lexer :=
  l.dropKey?.bind fun l =>
    (blockScalar? (style == .folded) l.columns.head? l.cursor).map fun (text, c) =>
      { (l.push (.scalar (String.ofList text) style)).move c with keyAllowed := true }

def plain? (l : Lexer) : Option Lexer :=
  l.saveKey?.bind fun l =>
    let width := l.columns.head?.elim 0 (· + 1)
    (plainScalar? l.inFlow width l.cursor).map fun s =>
      { (l.push (.scalar (String.ofList s.text) .plain)).move s.cursor with
        keyAllowed := s.endsInBreak }

def quoted? (single : Bool) (c : Cursor) : Option (Token × Cursor) :=
  (quotedScalar? single c).map fun (text, c) => (.scalar (String.ofList text) .quoted, c)

/-- A directive or a document marker ends every block. -/
def topLevel? (l : Lexer) (scan : Cursor → Option (Token × Cursor)) : Option Lexer :=
  ((l.closeBlocks fun _ => false).dropKey?).bind fun l =>
    (scan l.cursor).map fun (token, c) => { (l.push token).move c with keyAllowed := false }

/-- Characters that cannot start a plain scalar whatever follows. -/
def isIndicator (x : Char) : Bool := "-?:,[]\x7b\x7d#&*!|>'\"%@\x60".contains x

def startsPlain (l : Lexer) (x : Char) (next : Option Char) : Bool :=
  (!isIndicator x && !isBlank x) || (x == '-' && !next.any isBlank) ||
    (!l.inFlow && (x == '?' || x == ':') && !Cursor.endsWord next)

/-- Scans the token that starts with a character. -/
def token? (l : Lexer) (x : Char) : Option Lexer :=
  let c := l.cursor
  let next := c.at? 1
  let spaced := Cursor.endsWord next
  if c.column == 0 && x == '%' then l.topLevel? directive?
  else if c.isAtMarker '-' then l.topLevel? fun c => some (.documentStart, c.skip 3)
  else if c.isAtMarker '.' then l.topLevel? fun c => some (.documentEnd, c.skip 3)
  else if x == '[' then l.openFlow? .flowSequenceStart
  else if x == '\x7b' then l.openFlow? .flowMappingStart
  else if x == ']' then l.closeFlow? .flowSequenceEnd
  else if x == '\x7d' then l.closeFlow? .flowMappingEnd
  else if x == ',' then l.indicator? .flowEntry true
  else if x == '-' && spaced then l.blockIndicator? .blockEntry .blockSequenceStart true
  else if x == '?' && (l.inFlow || spaced) then
    l.blockIndicator? .key .blockMappingStart (!l.inFlow)
  else if x == ':' && (l.inFlow || spaced) then l.value?
  else if x == '*' then l.keyable? fun c => (anchorName? c).map fun (name, c) => (.reference name, c)
  else if x == '&' then l.keyable? fun c => (anchorName? c).map fun (name, c) => (.anchor name, c)
  else if x == '!' then l.keyable? (tag? l.inFlow)
  else if x == '|' && !l.inFlow then l.block? .literal
  else if x == '>' && !l.inFlow then l.block? .folded
  else if x == '\'' then l.keyable? (quoted? true)
  else if x == '"' then l.keyable? (quoted? false)
  else if l.startsPlain x next then l.plain?
  else none

/-- Scans to the end of the text, where every block is closed. -/
def run? : Nat → Lexer → Option Lexer
  | 0, _ => none
  | fuel + 1, l =>
      let l := l.skipToToken (l.cursor.rest.length + 1)
      match l.dropStaleKeys? with
      | none => none
      | some l =>
          match l.cursor.peek? with
          | none => (l.closeBlocks fun _ => false).dropKey?
          | some x =>
              let column := l.cursor.column
              ((l.closeBlocks fun open_ => open_ ≤ column).token? x).bind (run? fuel)

end Lexer

/-- The tokens of a text; none when the text is malformed. -/
def tokens? (s : String) : Option (List Token) :=
  (Cursor.ofChars? s.toList).bind fun c =>
    (Lexer.run? (c.rest.length + 2) (.start c)).map fun l => l.found.reverse

end RecordSchema.Yaml
