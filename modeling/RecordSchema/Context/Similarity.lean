set_option autoImplicit false

/-!
How close a pattern is to a name that holds its characters in order. The score comes from the best
alignment, computed row by row of the pattern in a table of two rows that take turns; gaps cost,
and matches at the start of words and in succession gain. The table is kept from one name to the
next: cells outside the part that a name uses keep what they held.
-/

namespace RecordSchema.Similarity

inductive CharType where
  | start
  | hardSeparator
  | softSeparator
  | digit
  | upper
  | lower
  deriving DecidableEq

def charType (c : Char) : CharType :=
  if c == '\x00' then .start
  else if " /\\|()[]\x7b\x7d".toList.contains c then .hardSeparator
  else if ('!' ≤ c && c ≤ '\'') || ('*' ≤ c && c ≤ '.') || (':' ≤ c && c ≤ '@') ||
      ('^' ≤ c && c ≤ '\x60') || c == '~' then .softSeparator
  else if c.isDigit then .digit
  else if c.isUpper then .upper
  else .lower

def scoreMatch : Int := 16
def gapStart : Int := -3
def gapExtension : Int := -1
def bonusHead : Int := 8
def bonusBreak : Int := 7
def bonusCamel : Int := 6
def bonusConsecutive : Int := 4
def caseMismatchPenalty : Int := -2
def lowestScore : Int := -32768

/-- What a match gains from the place of its character in a word. -/
def placeBonus (before current : CharType) : Int :=
  match before, current with
  | .start, _ | .hardSeparator, _ => bonusHead
  | .softSeparator, _ => bonusBreak
  | .lower, .upper | .digit, .upper => bonusCamel
  | _, _ => 0

/-- The bonus of each character; the first counts twice. -/
def placeBonuses (name : List Char) : List Int :=
  let rec others (before : CharType) : List Char → List Int
    | [] => []
    | c :: rest => placeBonus before (charType c) :: others (charType c) rest
  match others .start name with
  | [] => []
  | first :: rest => 2 * first :: rest

/-- A cell: the best score that ends with a match, with a gap, and a bonus carried along. -/
structure Cell where
  matched : Int
  skipped : Int
  bonus : Int

def Cell.blank : Cell := ⟨lowestScore, lowestScore, 0⟩

abbrev Cells := Array Cell

def cellAt (cells : Cells) (i : Nat) : Cell := cells.getD i Cell.blank

def sameChar (caseSensitive : Bool) (a b : Char) : Bool :=
  if caseSensitive then a == b else a.toLower == b.toLower

/-- The first places of the pattern's characters in order; none when one is missing. -/
def firstMatches? (caseSensitive : Bool) : List Char → List Char → Nat → Option (List Nat)
  | _, [], _ => some []
  | [], _ :: _, _ => none
  | c :: name, p :: pattern, i =>
      if sameChar caseSensitive c p then
        (firstMatches? caseSensitive name pattern (i + 1)).map (i :: ·)
      else firstMatches? caseSensitive name (p :: pattern) (i + 1)

/-- Fits the cells kept from the last name to the number needed. -/
def resize (cells : Cells) (count : Nat) : Cells :=
  cells.extract 0 count ++ Array.replicate (count - cells.size) Cell.blank

def prepare (cells : Cells) (columns firstMatch : Nat) : Cells :=
  let cells := (resize cells (2 * columns)).setIfInBounds (columns + firstMatch) Cell.blank
  (List.range columns).foldl
    (fun cells j => cells.setIfInBounds j { Cell.blank with skipped := gapExtension }) cells

/-- Fills in one cell, given the row's own and the other row's start. -/
def fillCell (caseSensitive : Bool) (p : Char) (row otherRow column : Nat) (c : Char)
    (placed : Int) (cells : Cells) : Cells :=
  let current := row + column + 1
  let last := row + column
  let cells :=
    if sameChar caseSensitive c p then
      let score := scoreMatch + if p == c then 0 else caseMismatchPenalty
      let previous := cellAt cells (otherRow + column)
      let consecutive := max (cellAt cells last).bonus (max placed bonusConsecutive)
      let cells := cells.setIfInBounds last { cellAt cells last with bonus := consecutive }
      let matched := max (previous.matched + consecutive) (previous.skipped + placed) + score
      cells.setIfInBounds current { cellAt cells current with matched }
    else cells.setIfInBounds current { cellAt cells current with matched := lowestScore, bonus := 0 }
  let skipped :=
    max (gapStart + gapExtension + (cellAt cells last).matched) (gapExtension + (cellAt cells last).skipped)
  cells.setIfInBounds current { cellAt cells current with skipped }

/-- Fills the row of a pattern character from its first place on. -/
def fillRow (caseSensitive : Bool) (p : Char) (row otherRow : Nat) :
    Nat → List (Char × Int) → Cells → Cells
  | _, [], cells => cells
  | column, (c, placed) :: rest, cells =>
      fillRow caseSensitive p row otherRow (column + 1) rest
        (fillCell caseSensitive p row otherRow column c placed cells)

def fillRows (caseSensitive : Bool) (name : List (Char × Int)) (row otherRow : Nat) :
    List (Char × Nat) → Cells → Cells
  | [], cells => cells
  | (p, start) :: rest, cells =>
      fillRows caseSensitive name otherRow row rest
        (fillRow caseSensitive p row otherRow start (name.drop start) cells)

/-- The score of a name, none when it does not hold the pattern, and the table after it. -/
def score? (pattern name : List Char) (cells : Cells) : Option Int × Cells :=
  if pattern.isEmpty then (some 0, cells)
  else
    let caseSensitive := pattern.any Char.isUpper
    match firstMatches? caseSensitive name pattern 0 with
    | none => (none, cells)
    | some starts =>
        let columns := name.length + 1
        let prepared := prepare cells columns (starts.headD 0)
        let filled := fillRows caseSensitive (name.zip (placeBonuses name)) columns 0
          (pattern.zip starts) prepared
        let lastRow := if pattern.length % 2 = 0 then 0 else columns
        let firstColumn := starts.getLastD 0
        let scores := (List.range (columns - firstColumn)).map fun j =>
          (cellAt filled (lastRow + firstColumn + j)).matched
        (scores.max?, filled)

/-- The part after the last separator. -/
def lastPart : List Char → List Char → List Char
  | whole, [] => whole
  | whole, c :: rest =>
      match c, rest with
      | ':', ':' :: after => lastPart after rest
      | _, _ => lastPart whole rest

/-- The best of the names; the last of those with equal scores. -/
def best? (pattern : String) (names : List String) : Option String :=
  let step (state : Option (Int × String) × Cells) (name : String) :=
    let (score, cells) := score? pattern.toList (lastPart name.toList name.toList) state.2
    match score, state.1 with
    | none, best => (best, cells)
    | some score, none => (some (score, name), cells)
    | some score, some (high, held) =>
        (if high ≤ score then some (score, name) else some (high, held), cells)
  (names.foldl step (none, #[])).1.map (·.2)

end RecordSchema.Similarity
