import RecordSchema.Pattern.Basic
import RecordSchema.Text.Hex
import RecordSchema.Number.Reader

set_option autoImplicit false

/-!
The text form of patterns. Reading goes through the text once, with a stack of the groups that are
open; each group holds its finished branches and the pieces of the branch at hand. Flags hold from
where they are set to the end of the group.
-/

namespace RecordSchema.Pattern

open RecordSchema.Text RecordSchema.Number

structure Flags where
  ignoreCase : Bool := false
  multiLine : Bool := false
  dotAll : Bool := false
  unicode : Bool := true
  returnsEndLines : Bool := false
  /-- Blanks and comments between the parts are skipped. -/
  spaced : Bool := false

/-- What a backslash sequence stands for. -/
inductive Escaped where
  | literal (code : Nat)
  | set (s : CharSet)
  | look (kind : Look)

inductive Piece where
  | matcher (p : Pattern)
  | directive

/-- A group that is open. Branches and pieces are in reverse order. -/
structure OpenGroup where
  outerFlags : Flags
  branches : List Pattern
  pieces : List Piece

structure Reading where
  flags : Flags
  branches : List Pattern
  pieces : List Piece
  groups : List OpenGroup
  names : List (List Char)

def skipSpaceFuel : Nat → List Char → List Char
  | 0, cs => cs
  | fuel + 1, cs =>
      match cs with
      | '#' :: rest => skipSpaceFuel fuel ((rest.dropWhile (· != '\n')).drop 1)
      | c :: rest => if isBlank c then skipSpaceFuel fuel rest else cs
      | [] => []

def Flags.skip (flags : Flags) (cs : List Char) : List Char :=
  if flags.spaced then skipSpaceFuel cs.length cs else cs

def isCharCode (code : Nat) : Bool := code < 0xd800 || (0xe000 ≤ code && code < 0x110000)

def hexCode? (digits : List Char) : Option Nat := do
  if digits.isEmpty then failure
  let code ← Text.hexValue? digits
  if isCharCode code then some code else none

/-- Hex digits in braces, or as many as the letter asks for. -/
def hexEscape? (flags : Flags) (count : Nat) (cs : List Char) : Option (Nat × List Char) :=
  match flags.skip cs with
  | '\x7b' :: rest =>
      let digits := rest.takeWhile (· != '\x7d')
      match rest.drop digits.length with
      | _ :: left => (hexCode? (digits.filter fun c => !(flags.spaced && isBlank c))).map (·, left)
      | [] => none
  | cs =>
      if cs.length < count then none
      else (hexCode? (cs.take count)).map (·, cs.drop count)

/-- A set by name, after the letter P. -/
def namedSet? (flags : Flags) (negated : Bool) (cs : List Char) : Option (CharSet × List Char) :=
  let finish (name : List Char) (negated : Bool) : Option CharSet :=
    if flags.unicode then
      (CharSet.named? (String.ofList name)).map fun set =>
        (set.foldIf flags.ignoreCase).negateIf negated
    else none
  match flags.skip cs with
  | '\x7b' :: rest =>
      let name := rest.takeWhile (· != '\x7d')
      match rest.drop name.length with
      | _ :: left =>
          let group := name.takeWhile fun c => c != '=' && c != ':' && c != '!'
          match name.drop group.length with
          | '!' :: '=' :: value => (finish (group ++ '=' :: value) (!negated)).map (·, left)
          | ':' :: value => (finish (group ++ '=' :: value) negated).map (·, left)
          | _ => (finish name negated).map (·, left)
      | [] => none
  | c :: left => if c == '\\' then none else (finish [c] negated).map (·, left)
  | [] => none

/-- The letters of digits, blanks and word characters; upper-case letters negate. -/
def letterSet? (flags : Flags) (c : Char) : Option CharSet :=
  let choose (wide narrow : CharSet) : CharSet := if flags.unicode then wide else narrow
  let negated (set : CharSet) : Option CharSet :=
    if flags.unicode then some (.complement set) else none
  match c with
  | 'd' => some (choose .decimalDigit (.ranges CharSet.asciiDigits))
  | 's' => some (choose .blank .asciiBlank)
  | 'w' => some (choose .wordChar .asciiWord)
  | 'D' => negated .decimalDigit
  | 'S' => negated .blank
  | 'W' => negated .wordChar
  | _ => none

def controlCode? (c : Char) : Option Nat :=
  match c with
  | 'a' => some 7
  | 'f' => some 12
  | 't' => some 9
  | 'n' => some 10
  | 'r' => some 13
  | 'v' => some 11
  | _ => none

/-- A word boundary may be narrowed by a name in braces; other braces are a count. -/
def boundary? (flags : Flags) (cs : List Char) : Option (Look × List Char) :=
  let plain := Look.wordBoundary !flags.unicode
  match cs with
  | '\x7b' :: rest =>
      let isNameChar (c : Char) : Bool := c.isAlpha || c == '-'
      match flags.skip rest with
      | [] => none
      | c :: more =>
          if isNameChar c then
            let name := (c :: more).takeWhile isNameChar
            match (c :: more).drop name.length with
            | '\x7d' :: left =>
                match String.ofList name with
                | "start" => some (.wordStart !flags.unicode, left)
                | "end" => some (.wordEnd !flags.unicode, left)
                | "start-half" => some (.wordStartHalf !flags.unicode, left)
                | "end-half" => some (.wordEndHalf !flags.unicode, left)
                | _ => none
            | _ => none
          else some (plain, cs)
  | _ => some (plain, cs)

/-- The sequence after a backslash. -/
def escape? (flags : Flags) (cs : List Char) : Option (Escaped × List Char) :=
  match cs with
  | [] => none
  | c :: rest =>
      if c == 'x' then (hexEscape? flags 2 rest).map fun (n, left) => (.literal n, left)
      else if c == 'u' then (hexEscape? flags 4 rest).map fun (n, left) => (.literal n, left)
      else if c == 'U' then (hexEscape? flags 8 rest).map fun (n, left) => (.literal n, left)
      else if c == 'p' || c == 'P' then
        (namedSet? flags (c == 'P') rest).map fun (set, left) => (.set set, left)
      else if c == 'A' then some (.look .textStart, rest)
      else if c == 'z' then some (.look .textEnd, rest)
      else if c == 'b' then (boundary? flags rest).map fun (kind, left) => (.look kind, left)
      else if c == 'B' then some (.look (.notWordBoundary !flags.unicode), rest)
      else if c == '<' then some (.look (.wordStart !flags.unicode), rest)
      else if c == '>' then some (.look (.wordEnd !flags.unicode), rest)
      else
        match letterSet? flags c, controlCode? c with
        | some set, _ => some (.set set, rest)
        | none, some code => some (.literal code, rest)
        | none, none =>
            if c.toNat < 0x80 && !c.isAlphanum then some (.literal c.toNat, rest) else none

def literalSet? (flags : Flags) (code : Nat) : Option CharSet :=
  if !flags.unicode && 0x80 ≤ code then none
  else some ((CharSet.single code).foldIf flags.ignoreCase)

inductive SetOperator where
  | intersection
  | difference
  | symmetricDifference

def SetOperator.apply (op : SetOperator) (a b : CharSet) : CharSet :=
  match op with
  | intersection => .inter a b
  | difference => a.difference b
  | symmetricDifference => a.symmetricDifference b

/-- A named ASCII class, after its opening bracket. -/
def bracketClass? (flags : Flags) (cs : List Char) : Option (CharSet × List Char) :=
  match cs with
  | ':' :: rest =>
      let (negated, rest) :=
        match rest with
        | '^' :: rest => (true, rest)
        | _ => (false, rest)
      let name := rest.takeWhile Char.isAlpha
      match rest.drop name.length with
      | ':' :: ']' :: left =>
          (CharSet.asciiClass? (String.ofList name)).map fun set =>
            ((set.foldIf flags.ignoreCase).negateIf negated, left)
      | _ => none
  | _ => none

/-- What may stand after an opening bracket only: a negation, hyphens, a closing bracket. -/
def setStart (flags : Flags) (cs : List Char) : Bool × CharSet × List Char :=
  let cs := flags.skip cs
  let (negated, cs) :=
    match cs with
    | '^' :: rest => (true, flags.skip rest)
    | _ => (false, cs)
  let hyphens := cs.takeWhile (· == '-')
  let rest := cs.drop hyphens.length
  if hyphens.isEmpty then
    match rest with
    | ']' :: rest => (negated, .single ']'.toNat, rest)
    | _ => (negated, .none, rest)
  else (negated, .single '-'.toNat, rest)

def setItem? (flags : Flags) (cs : List Char) : Option (Escaped × List Char) :=
  match cs with
  | '\\' :: rest => escape? flags rest
  | c :: rest => some (.literal c.toNat, rest)
  | [] => none

/-- An item of a set, or a range of two literals. -/
def setRange? (flags : Flags) (cs : List Char) : Option (CharSet × List Char) := do
  let (first, rest) ← setItem? flags cs
  let rest := flags.skip rest
  let next := flags.skip (rest.drop 1)
  if rest.isEmpty then failure
  if rest.head? = some '-' ∧ next.head? ≠ some ']' ∧ next.head? ≠ some '-' then
    let (second, left) ← setItem? flags next
    match first, second with
    | .literal low, .literal high =>
        if low ≤ high ∧ (flags.unicode ∨ high < 0x80) then
          some ((CharSet.ranges [(low, high)]).foldIf flags.ignoreCase, left)
        else none
    | _, _ => none
  else
    match first with
    | .literal code => (literalSet? flags code).map (·, rest)
    | .set set => some (set, rest)
    | .look _ => none

def combine (left : Option (SetOperator × CharSet)) (set : CharSet) : CharSet :=
  match left with
  | some (op, a) => op.apply a set
  | none => set

/-- The rest of a set after its start, up to its closing bracket. Each round takes at least one
character, so the length of the text bounds the rounds. -/
def setBody? : Nat → Flags → Option (SetOperator × CharSet) → CharSet → List Char →
    Option (CharSet × List Char)
  | 0, _, _, _, _ => none
  | fuel + 1, flags, left, set, cs =>
      match flags.skip cs with
      | [] => none
      | ']' :: rest => some (combine left set, rest)
      | '[' :: rest =>
          match bracketClass? flags rest with
          | some (inner, rest) => setBody? fuel flags left (.union set inner) rest
          | none =>
              let (negated, start, rest) := setStart flags rest
              (setBody? fuel flags none start rest).bind fun (inner, rest) =>
                if negated && !flags.unicode then none
                else setBody? fuel flags left (.union set (inner.negateIf negated)) rest
      | '&' :: '&' :: rest => setBody? fuel flags (some (.intersection, combine left set)) .none rest
      | '-' :: '-' :: rest => setBody? fuel flags (some (.difference, combine left set)) .none rest
      | '~' :: '~' :: rest =>
          setBody? fuel flags (some (.symmetricDifference, combine left set)) .none rest
      | cs => (setRange? flags cs).bind fun (item, rest) =>
          setBody? fuel flags left (.union set item) rest

/-- A set, after its opening bracket. -/
def bracketSet? (flags : Flags) (cs : List Char) : Option (CharSet × List Char) :=
  let (negated, start, rest) := setStart flags cs
  (setBody? (cs.length + 1) flags none start rest).bind fun (set, left) =>
    if negated && !flags.unicode then none else some (set.negateIf negated, left)

/-- One number of a count, with blanks around it. -/
def countNumber (flags : Flags) (cs : List Char) : Option (Option Nat × List Char) :=
  let start := trimStart cs
  let isDigitOrSpace (c : Char) : Bool := c.isDigit || (flags.spaced && isBlank c)
  let taken := start.takeWhile isDigitOrSpace
  let digits := taken.filter Char.isDigit
  let rest := trimStart (start.drop taken.length)
  if digits.isEmpty then some (none, rest)
  else if digitsValue digits ≤ 4294967295 then some (some (digitsValue digits), rest)
  else none

/-- The bounds of a counted repetition, after its opening brace. -/
def countRange? (flags : Flags) (cs : List Char) : Option ((Nat × Option Nat) × List Char) := do
  let (least, rest) ← countNumber flags (flags.skip cs)
  let least ← least
  match rest with
  | '\x7d' :: left => return ((least, some least), left)
  | ',' :: rest =>
      match flags.skip rest with
      | '\x7d' :: left => return ((least, none), left)
      | rest => do
          let (most, rest) ← countNumber flags rest
          let most ← most
          match rest with
          | '\x7d' :: left => if least ≤ most then return ((least, some most), left) else failure
          | _ => failure
  | _ => failure

/-- A question mark after a repetition makes it lazy, which does not change what matches. -/
def dropLazyMark : List Char → List Char
  | '?' :: rest => rest
  | cs => cs

def flag? (on : Bool) (flags : Flags) (c : Char) : Option Flags :=
  match c with
  | 'i' => some { flags with ignoreCase := on }
  | 'm' => some { flags with multiLine := on }
  | 's' => some { flags with dotAll := on }
  | 'u' => some { flags with unicode := on }
  | 'R' => some { flags with returnsEndLines := on }
  | 'x' => some { flags with spaced := on }
  | 'U' => some flags
  | _ => none

/-- Flags up to a colon or a closing bracket; each may be named once, and one hyphen turns those
after it off. -/
def readFlags? : Flags → Bool → List Char → List Char → Option (Flags × List Char)
  | _, _, _, [] => none
  | flags, on, seen, c :: rest =>
      if c == ':' || c == ')' then
        if seen.head? = some '-' then none else some (flags, c :: rest)
      else if seen.contains c then none
      else if c == '-' then readFlags? flags false (c :: seen) rest
      else (flag? on flags c).bind fun flags => readFlags? flags on (c :: seen) rest

def isNameChar (c : Char) (first : Bool) : Bool :=
  if first then c == '_' || isAlphabetic c
  else c == '_' || c == '.' || c == '[' || c == ']' || isAlphanumeric c

/-- The name of a group, up to its closing angle bracket. -/
def groupName? (cs : List Char) : Option (List Char × List Char) :=
  let name := cs.takeWhile (· != '>')
  match name, cs.drop name.length with
  | first :: more, _ :: left =>
      if isNameChar first true && more.all (isNameChar · false) then some (name, left) else none
  | _, _ => none

namespace Reading

def sequence (pieces : List Piece) : Pattern :=
  pieces.foldl (fun p piece =>
    match piece with
    | .matcher q => .seq q p
    | .directive => p) .empty

def choice (branches : List Pattern) (last : Pattern) : Pattern :=
  branches.foldl (fun p branch => .alt branch p) last

/-- The pattern of the group at hand. -/
def close (r : Reading) : Pattern := choice r.branches (sequence r.pieces)

def push (r : Reading) (p : Pattern) : Reading := { r with pieces := .matcher p :: r.pieces }

def openGroup (r : Reading) (flags : Flags) (names : List (List Char)) : Reading :=
  { flags, branches := [], pieces := [], names,
    groups := ⟨r.flags, r.branches, r.pieces⟩ :: r.groups }

/-- The opening of a group, or flags for the rest of the one at hand. -/
def group? (r : Reading) (cs : List Char) : Option (Reading × List Char) :=
  let named (rest : List Char) : Option (Reading × List Char) :=
    (groupName? rest).bind fun (name, left) =>
      if r.names.contains name then none else some (r.openGroup r.flags (name :: r.names), left)
  match r.flags.skip cs with
  | '?' :: 'P' :: '<' :: rest => named rest
  | '?' :: '<' :: '=' :: _ => none
  | '?' :: '<' :: '!' :: _ => none
  | '?' :: '<' :: rest => named rest
  | '?' :: rest =>
      (readFlags? r.flags true [] rest).bind fun (flags, left) =>
        match left with
        | ':' :: left => some (r.openGroup flags r.names, left)
        | _ :: left =>
            if rest.head? = some ')' then none
            else some ({ r with flags, pieces := .directive :: r.pieces }, left)
        | [] => none
  | rest => some (r.openGroup r.flags r.names, rest)

def closeGroup? (r : Reading) : Option Reading :=
  match r.groups with
  | [] => none
  | outer :: groups =>
      some { r with
        flags := outer.outerFlags
        branches := outer.branches
        pieces := .matcher r.close :: outer.pieces
        groups }

/-- Repeats the last piece; there has to be one. -/
def repeatLast? (r : Reading) (least : Nat) (most : Option Nat) : Option Reading :=
  match r.pieces with
  | .matcher p :: rest => some { r with pieces := .matcher (.repeated p least most) :: rest }
  | _ => none

def lineStart (flags : Flags) : Look := if flags.multiLine then .lineStart else .textStart

def lineEnd (flags : Flags) : Look := if flags.multiLine then .lineEnd else .textEnd

def anyChar (flags : Flags) : CharSet :=
  if flags.dotAll then .all
  else if flags.returnsEndLines then .complement (.ranges [(10, 10), (13, 13)])
  else .complement (.single 10)

def ofEscaped? (flags : Flags) : Escaped → Option Pattern
  | .literal code => (literalSet? flags code).map .chars
  | .set set => some (.chars set)
  | .look kind => some (.look kind)

/-- Takes the next part of the text. -/
def step? (r : Reading) (c : Char) (rest : List Char) : Option (Reading × List Char) :=
  match c with
  | '(' => r.group? rest
  | ')' => r.closeGroup?.map (·, rest)
  | '|' => some ({ r with branches := sequence r.pieces :: r.branches, pieces := [] }, rest)
  | '[' => (bracketSet? r.flags rest).map fun (set, left) => (r.push (.chars set), left)
  | '?' => (r.repeatLast? 0 (some 1)).map (·, dropLazyMark (r.flags.skip rest))
  | '*' => (r.repeatLast? 0 none).map (·, dropLazyMark (r.flags.skip rest))
  | '+' => (r.repeatLast? 1 none).map (·, dropLazyMark (r.flags.skip rest))
  | '\x7b' =>
      (countRange? r.flags rest).bind fun ((least, most), left) =>
        (r.repeatLast? least most).map (·, dropLazyMark (r.flags.skip left))
  | '\\' =>
      (escape? r.flags rest).bind fun (escaped, left) =>
        (ofEscaped? r.flags escaped).map fun p => (r.push p, left)
  | '.' =>
      if r.flags.unicode then some (r.push (.chars (anyChar r.flags)), rest) else none
  | '^' => some (r.push (.look (lineStart r.flags)), rest)
  | '$' => some (r.push (.look (lineEnd r.flags)), rest)
  | _ => (literalSet? r.flags c.toNat).map fun set => (r.push (.chars set), rest)

/-- Each step takes at least one character, so the length of the text bounds the steps. -/
def run? : Nat → Reading → List Char → Option Reading
  | 0, _, _ => none
  | fuel + 1, r, cs =>
      match r.flags.skip cs with
      | [] => some r
      | c :: rest => (r.step? c rest).bind fun (r, left) => run? fuel r left

end Reading

/-- How many ranges a set is written with, roughly. -/
def CharSet.rangeCount : CharSet → Nat
  | ranges rs => rs.length
  | union a b => a.rangeCount + b.rangeCount
  | inter a b => a.rangeCount + b.rangeCount
  | complement a => a.rangeCount + 8
  | foldCase a => 2 * a.rangeCount

/-- An estimate of the bytes that a pattern takes with all repetitions written out. -/
def expandedSize : Pattern → Nat
  | empty => 0
  | chars set => if set.rangeCount ≤ 2 then 32 else 70 * set.rangeCount
  | look _ => 32
  | seq a b => a.expandedSize + b.expandedSize
  | alt a b => a.expandedSize + b.expandedSize + 32
  | repeated p least most => (p.expandedSize + 32) * max 1 (most.getD least)

def sizeLimit : Nat := 10485760

/-- The pattern of a text; none when the text is malformed or the pattern too large. -/
def read? (s : String) : Option Pattern :=
  let cs := s.toList
  (Reading.run? (cs.length + 1) ⟨{}, [], [], [], []⟩ cs).bind fun r =>
    if r.groups.isEmpty && r.close.expandedSize ≤ sizeLimit then some r.close else none

end RecordSchema.Pattern
