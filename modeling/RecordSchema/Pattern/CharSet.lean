import RecordSchema.Text.Letter
import RecordSchema.Text.Blank
import RecordSchema.Text.Category
import RecordSchema.Text.Fold

set_option autoImplicit false

/-!
Sets of characters as patterns describe them: ranges, categories and properties by name, and their
combinations.
-/

namespace RecordSchema.Pattern

open RecordSchema.Text

inductive CharSet where
  | ranges (rs : CodeRanges)
  | union (a b : CharSet)
  | inter (a b : CharSet)
  | complement (a : CharSet)
  /-- Every character that differs from a member only in case. -/
  | foldCase (a : CharSet)

namespace CharSet

/-- All codes with the same folded code. -/
def caseOrbit (code : Nat) : List Nat :=
  let folded := foldCode code
  folded :: foldRuns.filterMap fun run =>
    let source := run.first + (folded - run.target)
    if run.target ≤ folded && run.image? source == some folded then some source else none

def contains : CharSet → Nat → Bool
  | ranges rs, code => rs.hasCode code
  | union a b, code => a.contains code || b.contains code
  | inter a b, code => a.contains code && b.contains code
  | complement a, code => !a.contains code
  | foldCase a, code => (caseOrbit code).any fun c => a.contains c

def single (code : Nat) : CharSet := ranges [(code, code)]

def none : CharSet := ranges []

def all : CharSet := ranges [(0, 0x10ffff)]

def difference (a b : CharSet) : CharSet := inter a (complement b)

def symmetricDifference (a b : CharSet) : CharSet := union (difference a b) (difference b a)

def negateIf (negated : Bool) (a : CharSet) : CharSet := if negated then complement a else a

def foldIf (fold : Bool) (a : CharSet) : CharSet := if fold then foldCase a else a

def asciiDigits : CodeRanges := [(0x30, 0x39)]

def asciiLetters : CodeRanges := [(0x41, 0x5a), (0x61, 0x7a)]

def asciiWord : CharSet := ranges ((0x5f, 0x5f) :: asciiDigits ++ asciiLetters)

def asciiBlank : CharSet := ranges [(0x9, 0xd), (0x20, 0x20)]

def ofCategory (chosen : Char → Char → Bool) : CharSet := ranges (categoryRanges chosen)

def decimalDigit : CharSet := ofCategory fun major minor => major == 'N' && minor == 'd'

def alphabetic : CharSet := ranges (asciiLetters ++ alphabeticRanges)

def blank : CharSet := ranges blankRanges

/-- Letters, marks, decimal digits, connectors, and the two joiners. -/
def wordChar : CharSet :=
  union alphabetic (union (ranges [(0x200c, 0x200d)])
    (ofCategory fun major minor =>
      major == 'M' || (major == 'N' && minor == 'd') || (major == 'P' && minor == 'c')))

def otherUppercase : CodeRanges :=
  [(0x2160, 0x216f), (0x24b6, 0x24cf), (0x1f130, 0x1f149), (0x1f150, 0x1f169), (0x1f170, 0x1f189)]

def otherLowercase : CodeRanges :=
  [(0xaa, 0xaa), (0xba, 0xba), (0x2b0, 0x2b8), (0x2c0, 0x2c1), (0x2e0, 0x2e4), (0x345, 0x345),
   (0x37a, 0x37a), (0x10fc, 0x10fc), (0x1d2c, 0x1d6a), (0x1d78, 0x1d78), (0x1d9b, 0x1dbf),
   (0x2071, 0x2071), (0x207f, 0x207f), (0x2090, 0x209c), (0x2170, 0x217f), (0x24d0, 0x24e9),
   (0x2c7c, 0x2c7d), (0xa69c, 0xa69d), (0xa770, 0xa770), (0xa7f2, 0xa7f4), (0xa7f8, 0xa7f9),
   (0xab5c, 0xab5f), (0xab69, 0xab69), (0x10780, 0x10780), (0x10783, 0x10785), (0x10787, 0x107b0),
   (0x107b2, 0x107ba), (0x1e030, 0x1e06d)]

def uppercase : CharSet :=
  union (ranges otherUppercase) (ofCategory fun major minor => major == 'L' && minor == 'u')

def lowercase : CharSet :=
  union (ranges otherLowercase) (ofCategory fun major minor => major == 'L' && minor == 'l')

/-- A class in brackets and colons; ASCII only. -/
def asciiClass? (name : String) : Option CharSet :=
  match name with
  | "alnum" => some (ranges (asciiDigits ++ asciiLetters))
  | "alpha" => some (ranges asciiLetters)
  | "ascii" => some (ranges [(0, 0x7f)])
  | "blank" => some (ranges [(0x9, 0x9), (0x20, 0x20)])
  | "cntrl" => some (ranges [(0, 0x1f), (0x7f, 0x7f)])
  | "digit" => some (ranges asciiDigits)
  | "graph" => some (ranges [(0x21, 0x7e)])
  | "lower" => some (ranges [(0x61, 0x7a)])
  | "print" => some (ranges [(0x20, 0x7e)])
  | "punct" => some (ranges [(0x21, 0x2f), (0x3a, 0x40), (0x5b, 0x60), (0x7b, 0x7e)])
  | "space" => some asciiBlank
  | "upper" => some (ranges [(0x41, 0x5a)])
  | "word" => some asciiWord
  | "xdigit" => some (ranges [(0x30, 0x39), (0x41, 0x46), (0x61, 0x66)])
  | _ => Option.none

/-- A property name without blanks, hyphens, underscores, case and a leading `is`. -/
def looseName (name : String) : String :=
  let cs := (name.toList.filter fun c => !(c == ' ' || c == '-' || c == '_') && c.toNat < 0x80).map
    Char.toLower
  match cs with
  | 'i' :: 's' :: rest => if rest == ['c'] then "isc" else String.ofList rest
  | _ => String.ofList cs

def major (letter : Char) : CharSet := ofCategory fun m _ => m == letter

def minor (first second : Char) : CharSet := ofCategory fun m n => m == first && n == second

def generalCategory? (name : String) : Option CharSet :=
  match name with
  | "any" => some all
  | "assigned" => some (complement (minor 'C' 'n'))
  | "ascii" => some (ranges [(0, 0x7f)])
  | "c" | "other" => some (major 'C')
  | "cc" | "control" | "cntrl" => some (minor 'C' 'c')
  | "cf" | "format" => some (minor 'C' 'f')
  | "cn" | "unassigned" => some (minor 'C' 'n')
  | "co" | "privateuse" => some (minor 'C' 'o')
  | "l" | "letter" => some (major 'L')
  | "lc" | "casedletter" =>
      some (ofCategory fun m n => m == 'L' && (n == 'u' || n == 'l' || n == 't'))
  | "ll" | "lowercaseletter" => some (minor 'L' 'l')
  | "lm" | "modifierletter" => some (minor 'L' 'm')
  | "lo" | "otherletter" => some (minor 'L' 'o')
  | "lt" | "titlecaseletter" => some (minor 'L' 't')
  | "lu" | "uppercaseletter" => some (minor 'L' 'u')
  | "m" | "mark" | "combiningmark" => some (major 'M')
  | "mc" | "spacingmark" => some (minor 'M' 'c')
  | "me" | "enclosingmark" => some (minor 'M' 'e')
  | "mn" | "nonspacingmark" => some (minor 'M' 'n')
  | "n" | "number" => some (major 'N')
  | "nd" | "decimalnumber" | "digit" => some (minor 'N' 'd')
  | "nl" | "letternumber" => some (minor 'N' 'l')
  | "no" | "othernumber" => some (minor 'N' 'o')
  | "p" | "punctuation" | "punct" => some (major 'P')
  | "pc" | "connectorpunctuation" => some (minor 'P' 'c')
  | "pd" | "dashpunctuation" => some (minor 'P' 'd')
  | "pe" | "closepunctuation" => some (minor 'P' 'e')
  | "pf" | "finalpunctuation" => some (minor 'P' 'f')
  | "pi" | "initialpunctuation" => some (minor 'P' 'i')
  | "po" | "otherpunctuation" => some (minor 'P' 'o')
  | "ps" | "openpunctuation" => some (minor 'P' 's')
  | "s" | "symbol" => some (major 'S')
  | "sc" | "currencysymbol" => some (minor 'S' 'c')
  | "sk" | "modifiersymbol" => some (minor 'S' 'k')
  | "sm" | "mathsymbol" => some (minor 'S' 'm')
  | "so" | "othersymbol" => some (minor 'S' 'o')
  | "z" | "separator" => some (major 'Z')
  | "zl" | "lineseparator" => some (minor 'Z' 'l')
  | "zp" | "paragraphseparator" => some (minor 'Z' 'p')
  | "zs" | "spaceseparator" => some (minor 'Z' 's')
  | _ => Option.none

def property? (name : String) : Option CharSet :=
  match name with
  | "alphabetic" | "alpha" => some alphabetic
  | "uppercase" | "upper" => some uppercase
  | "lowercase" | "lower" => some lowercase
  | "whitespace" | "space" | "wspace" => some blank
  | _ => generalCategory? name

/-- A property by its name, or by the name of the group and its own. -/
def named? (name : String) : Option CharSet :=
  match name.splitOn "=" with
  | [group, value] =>
      match looseName group with
      | "generalcategory" | "gc" => generalCategory? (looseName value)
      | _ => Option.none
  | _ => property? (looseName name)

end CharSet

end RecordSchema.Pattern
