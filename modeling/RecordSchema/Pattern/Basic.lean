import RecordSchema.Pattern.CharSet

set_option autoImplicit false

/-!
Patterns and where they match. A set of positions in a text is one number, with a bit for each
position from the start of the text to its end. A pattern takes the positions where a match may
start to those where it may end.
-/

namespace RecordSchema

inductive Pattern.Look where
  | textStart
  | textEnd
  | lineStart
  | lineEnd
  | wordBoundary (ascii : Bool)
  | notWordBoundary (ascii : Bool)
  | wordStart (ascii : Bool)
  | wordEnd (ascii : Bool)
  | wordStartHalf (ascii : Bool)
  | wordEndHalf (ascii : Bool)
  deriving DecidableEq

inductive Pattern where
  | empty
  | chars (set : Pattern.CharSet)
  | look (kind : Pattern.Look)
  | seq (a b : Pattern)
  | alt (a b : Pattern)
  | repeated (p : Pattern) (least : Nat) (most : Option Nat)

namespace Pattern

abbrev Positions := Nat

def isWordChar (ascii : Bool) (c : Char) : Bool :=
  if c.toNat < 0x80 then CharSet.asciiWord.contains c.toNat
  else !ascii && CharSet.wordChar.contains c.toNat

/-- Whether a position holds, given the characters before and after it. -/
def Look.holds (kind : Look) (before after : Option Char) : Bool :=
  match kind with
  | textStart => before.isNone
  | textEnd => after.isNone
  | lineStart => before.all (· == '\n')
  | lineEnd => after.all (· == '\n')
  | wordBoundary ascii => word ascii before != word ascii after
  | notWordBoundary ascii => word ascii before == word ascii after
  | wordStart ascii => !word ascii before && word ascii after
  | wordEnd ascii => word ascii before && !word ascii after
  | wordStartHalf ascii => !word ascii before
  | wordEndHalf ascii => !word ascii after
where
  word (ascii : Bool) (c : Option Char) : Bool := c.any (isWordChar ascii)

/-- The positions before a character of the set. -/
def CharSet.mask (set : CharSet) : List Char → Positions
  | [] => 0
  | c :: rest => 2 * set.mask rest + if set.contains c.toNat then 1 else 0

def Look.mask (kind : Look) (before : Option Char) : List Char → Positions
  | [] => if kind.holds before none then 1 else 0
  | c :: rest =>
      2 * kind.mask (some c) rest + if kind.holds before (some c) then 1 else 0

/-- Up to `rounds` more steps, until nothing is new. -/
def closure (step : Positions → Positions) : Nat → Positions → Positions
  | 0, reached => reached
  | rounds + 1, reached =>
      let next := reached ||| step reached
      if next = reached then reached else closure step rounds next

def iterate (step : Positions → Positions) : Nat → Positions → Positions
  | 0, reached => reached
  | rounds + 1, reached => if reached = 0 then 0 else iterate step rounds (step reached)

def ends (text : List Char) : Pattern → Positions → Positions
  | empty, starts => starts
  | chars set, starts => (starts &&& set.mask text) <<< 1
  | look kind, starts => starts &&& kind.mask none text
  | seq a b, starts => b.ends text (a.ends text starts)
  | alt a b, starts => a.ends text starts ||| b.ends text starts
  | repeated p least most, starts =>
      let rounds :=
        match most with
        | some most => most - least
        | none => text.length + 1
      closure (p.ends text) rounds (iterate (p.ends text) least starts)

/-- A match of the pattern starts and ends somewhere in the text. -/
def isMatch (p : Pattern) (text : String) : Bool :=
  let cs := text.toList
  p.ends cs (Nat.pow 2 (cs.length + 1) - 1) != 0

end Pattern

end RecordSchema
