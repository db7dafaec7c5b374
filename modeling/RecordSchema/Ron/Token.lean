import RecordSchema.Number.Reader
import RecordSchema.Settings.Setting
import RecordSchema.Text.Hex

set_option autoImplicit false

/-!
The pieces of a RON text: brackets, signs, words, numbers, and texts in quotes. Between them stand
blanks and comments, and a block comment may hold others.
-/

namespace RecordSchema.Ron

inductive Bracket where
  | round
  | square
  | curly
  deriving DecidableEq

inductive Token where
  | openBracket (b : Bracket)
  | closeBracket (b : Bracket)
  /-- Round brackets with nothing between them. -/
  | unit
  | comma
  | colon
  | hash
  | bang
  | word (cs : List Char)
  | value (s : Setting)

namespace Token

/-! Gaps -/

def isBlank (c : Char) : Bool := c == ' ' || c == '\t' || c == '\n' || c == '\r'

/-- What follows the end of so many nested comments. -/
def skipBlocks? : Nat → List Char → Option (List Char)
  | 0, cs => some cs
  | depth + 1, '*' :: '/' :: rest => skipBlocks? depth rest
  | depth + 1, '/' :: '*' :: rest => skipBlocks? (depth + 2) rest
  | depth + 1, _ :: rest => skipBlocks? (depth + 1) rest
  | _ + 1, [] => none

/-! Texts -/

def namedEscape? (c : Char) : Option Char :=
  match c with
  | '\'' | '"' | '\\' => some c
  | 'n' => some '\n'
  | 'r' => some '\r'
  | 't' => some '\t'
  | '0' => some '\x00'
  | _ => none

def ofHex? (digits : List Char) : Option Char :=
  (Text.hexValue? digits).bind Text.charOfCode?

/-- The character of an escape whose backslash has been read. -/
def escape? : List Char → Option (Char × List Char)
  | 'x' :: a :: b :: rest => (ofHex? [a, b]).map (·, rest)
  | 'u' :: '\x7b' :: rest =>
      let digits := rest.takeWhile (· != '\x7d')
      if digits.isEmpty || 6 < digits.length || digits.length = rest.length then none
      else (ofHex? digits).map (·, rest.drop (digits.length + 1))
  | c :: rest => (namedEscape? c).map (·, rest)
  | [] => none

/-- The rest of a text up to its closing quote. -/
def text? : Nat → List Char → Option (List Char × List Char)
  | 0, _ => none
  | _ + 1, [] => none
  | _ + 1, '"' :: rest => some ([], rest)
  | fuel + 1, '\\' :: rest =>
      (escape? rest).bind fun (c, rest) =>
        (text? fuel rest).map fun (text, left) => (c :: text, left)
  | fuel + 1, c :: rest => (text? fuel rest).map fun (text, left) => (c :: text, left)

/-- The characters up to a closing part, and what follows it. -/
def upTo? (closing : List Char) : List Char → Option (List Char × List Char)
  | [] => if closing.isEmpty then some ([], []) else none
  | c :: rest =>
      if closing.isPrefixOf (c :: rest) then some ([], (c :: rest).drop closing.length)
      else (upTo? closing rest).map fun (text, left) => (c :: text, left)

/-- A raw text whose mark has been read. It ends at a quote that is followed by as many number
signs as stand in front of it. -/
def rawText? (cs : List Char) : Option (List Char × List Char) :=
  let hashes := cs.takeWhile (· == '#')
  match cs.drop hashes.length with
  | '"' :: rest => upTo? ('"' :: hashes) rest
  | _ => none

/-- One character whose opening quote has been read. -/
def char? : List Char → Option (Char × List Char)
  | '\\' :: rest =>
      match escape? rest with
      | some (c, '\'' :: rest) => some (c, rest)
      | _ => none
  | c :: '\'' :: rest => if c == '\'' then none else some (c, rest)
  | _ => none

/-! Words -/

def isWordStart (c : Char) : Bool := c.isAlpha || c == '_'

def isWordChar (c : Char) : Bool := c.isAlphanum || c == '_'

/-- Characters that only a word behind a mark may hold. -/
def isRawWordChar (c : Char) : Bool := isWordChar c || c == '.' || c == '+' || c == '-'

/-- A word, which must not run on into characters that need the mark. -/
def word? (cs : List Char) : Option (List Char × List Char) :=
  let word := cs.takeWhile isWordChar
  if (cs.drop word.length).head?.any isRawWordChar then none
  else some (word, cs.drop word.length)

/-! Numbers -/

def digitIn? (base : Nat) (c : Char) : Option Nat :=
  (Text.hexDigit? c).filter fun d => decide (d < base)

/-- Digits in a base; underscores may stand behind the first digit. -/
def digitsValue? (base : Nat) (cs : List Char) : Option Nat :=
  if cs.head?.all (· == '_') then none
  else (cs.filter (· != '_')).foldlM (fun n c => (digitIn? base c).map fun d => n * base + d) 0

def magnitude? : List Char → Option Nat
  | '0' :: 'x' :: rest => digitsValue? 16 rest
  | '0' :: 'b' :: rest => digitsValue? 2 rest
  | '0' :: 'o' :: rest => digitsValue? 8 rest
  | cs => digitsValue? 10 cs

def integer? (cs : List Char) : Option Int :=
  let signed? :=
    match cs with
    | '-' :: rest => (magnitude? rest).map fun n => -(n : Int)
    | '+' :: rest => (magnitude? rest).map fun n => (n : Int)
    | _ => (magnitude? cs).map fun n => (n : Int)
  signed?.filter Number.int64Fits

def isFloatChar (c : Char) : Bool :=
  c.isDigit || c == 'e' || c == 'E' || c == '.' || c == '+' || c == '-'

/-- A whole number of 64 bits, or else a double. -/
def number? (cs : List Char) : Option Setting :=
  match integer? cs with
  | some i => some (.integer i)
  | none => if cs.all isFloatChar then (Number.readDouble? cs).map .float else none

def isSign (c : Char) : Bool := c == '+' || c == '-'

/-- Infinity and the value that is no number, behind a sign. -/
def signedName? (cs : List Char) : Option Setting :=
  match String.ofList cs with
  | "+inf" => some (.float (.infinity false))
  | "-inf" => some (.float (.infinity true))
  | "+NaN" | "-NaN" => some (.float .nan)
  | _ => none

def startsNumber (c : Char) : Bool := c.isDigit || c == '.' || isSign c

/-! Tokens -/

def punctuation? (c : Char) : Option Token :=
  if c == '(' then some (openBracket .round)
  else if c == ')' then some (closeBracket .round)
  else if c == '[' then some (openBracket .square)
  else if c == ']' then some (closeBracket .square)
  else if c == '\x7b' then some (openBracket .curly)
  else if c == '\x7d' then some (closeBracket .curly)
  else if c == ',' then some comma
  else if c == ':' then some colon
  else if c == '#' then some hash
  else if c == '!' then some bang
  else none

def ofText (cs : List Char) : Token := value (.text (String.ofList cs))

/-- A number, a text or a word at the start, and what follows it. -/
def longer? (cs : List Char) : Option (Token × List Char) :=
  match cs with
  | '"' :: rest => (text? cs.length rest).map fun (text, left) => (ofText text, left)
  | '\'' :: rest => (char? rest).map fun (c, left) => (ofText [c], left)
  | 'r' :: '"' :: rest => (rawText? ('"' :: rest)).map fun (text, left) => (ofText text, left)
  | 'r' :: '#' :: rest =>
      if rest.head?.any isRawWordChar then
        some (word (rest.takeWhile isRawWordChar), rest.dropWhile isRawWordChar)
      else (rawText? ('#' :: rest)).map fun (text, left) => (ofText text, left)
  | c :: _ =>
      if isWordStart c then (word? cs).map fun (w, left) => (word w, left)
      else if startsNumber c then
        let number := cs.takeWhile isRawWordChar
        ((signedName? number).orElse fun _ => number? number).map fun s =>
          (value s, cs.drop number.length)
      else none
  | [] => none

def readAll? : Nat → List Char → Option (List Token)
  | 0, _ => some []
  | fuel + 1, cs =>
      match cs with
      | [] => some []
      | '/' :: '/' :: rest => readAll? fuel (rest.dropWhile (· != '\n'))
      | '/' :: '*' :: rest => (skipBlocks? 1 rest).bind (readAll? fuel)
      | '(' :: ')' :: rest => (readAll? fuel rest).map (unit :: ·)
      | c :: rest =>
          if isBlank c then readAll? fuel rest
          else
            match punctuation? c with
            | some t => (readAll? fuel rest).map (t :: ·)
            | none =>
                (longer? cs).bind fun (t, left) => (readAll? fuel left).map (t :: ·)

/-- The tokens of a text; none when a piece of it is malformed. -/
def ofText? (s : String) : Option (List Token) := readAll? (s.length + 1) s.toList

end Token

end RecordSchema.Ron
