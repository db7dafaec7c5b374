import RecordSchema.Text.CodeRange

set_option autoImplicit false

/-!
Blank characters are those with the White_Space property. Trimming drops them at both ends.
-/

namespace RecordSchema.Text

def blankRanges : CodeRanges :=
  [(0x9, 0xd), (0x20, 0x20), (0x85, 0x85), (0xa0, 0xa0), (0x1680, 0x1680), (0x2000, 0x200a),
   (0x2028, 0x2029), (0x202f, 0x202f), (0x205f, 0x205f), (0x3000, 0x3000)]

def isBlank (c : Char) : Bool :=
  blankRanges.hasCode c.toNat

def trimStart (cs : List Char) : List Char :=
  cs.dropWhile isBlank

def trimEnd (cs : List Char) : List Char :=
  (cs.reverse.dropWhile isBlank).reverse

def trimChars (cs : List Char) : List Char :=
  trimEnd (trimStart cs)

def trim (s : String) : String :=
  String.ofList (trimChars s.toList)

/-- Nothing is left of the text once it is trimmed. -/
def isBlankText (s : String) : Bool :=
  s.toList.all isBlank

/-- The trimmed text, unless that is empty. -/
def nonBlank? (s : String) : Option String :=
  if isBlankText s then none else some (trim s)

/-- Letters A to Z become a to z; every other character stays. -/
def asciiLower (s : String) : String :=
  String.ofList (s.toList.map Char.toLower)

end RecordSchema.Text
