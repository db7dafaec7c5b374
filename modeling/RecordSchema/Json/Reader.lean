import RecordSchema.Json.Numeral
import RecordSchema.Text.Hex

set_option autoImplicit false

/-!
Reading data text in two passes, each one step per item: characters to tokens, tokens to a value
on a stack of open arrays and objects. Of two fields under one key the later wins. Text nested
127 levels deep is read, deeper text is refused.
-/

namespace RecordSchema.Json

inductive Token where
  | openObject
  | closeObject
  | openArray
  | closeArray
  | colon
  | comma
  | text (s : String)
  | literal (j : Json)

namespace Token

/-- What the tokeniser is inside of. Collected characters are in reverse order. `high` is the first
half of an escaped character beyond 16 bits, which waits for its second half. -/
inductive Mode where
  | between
  | word (collected : List Char)
  | text (collected : List Char)
  | escape (collected : List Char) (high : Option Nat)
  | hex (collected : List Char) (high : Option Nat) (digits value : Nat)
  | halfway (collected : List Char) (high : Nat)

structure Scan where
  mode : Mode
  found : List Token

def isSpace (c : Char) : Bool := c == ' ' || c == '\n' || c == '\t' || c == '\r'

def punctuation? (c : Char) : Option Token :=
  if c == '\x7b' then some openObject
  else if c == '\x7d' then some closeObject
  else if c == '[' then some openArray
  else if c == ']' then some closeArray
  else if c == ':' then some colon
  else if c == ',' then some comma
  else none

def ofWord? (collected : List Char) : Option Token :=
  let cs := collected.reverse
  if cs == nullChars then some (literal null)
  else if cs == trueChars then some (literal (bool true))
  else if cs == falseChars then some (literal (bool false))
  else (Numeral.read? cs).map fun n => literal (num n)
where
  nullChars := ['n', 'u', 'l', 'l']
  trueChars := ['t', 'r', 'u', 'e']
  falseChars := ['f', 'a', 'l', 's', 'e']

def simpleEscape? (c : Char) : Option Char :=
  if c == '"' then some '"'
  else if c == '\\' then some '\\'
  else if c == '/' then some '/'
  else if c == 'b' then some '\x08'
  else if c == 'f' then some '\x0c'
  else if c == 'n' then some '\n'
  else if c == 'r' then some '\r'
  else if c == 't' then some '\t'
  else none

/-- The mode after four hex digits. -/
def afterHex? (collected : List Char) (high : Option Nat) (code : Nat) : Option Mode :=
  match high with
  | none =>
      if 0xD800 ≤ code ∧ code < 0xDC00 then some (.halfway collected code)
      else if 0xDC00 ≤ code ∧ code < 0xE000 then none
      else some (.text (Char.ofNat code :: collected))
  | some high =>
      if 0xDC00 ≤ code ∧ code < 0xE000 then
        some (.text (Char.ofNat (0x10000 + (high - 0xD800) * 0x400 + (code - 0xDC00)) :: collected))
      else none

def between? (found : List Token) (c : Char) : Option Scan :=
  if isSpace c then some ⟨.between, found⟩
  else if c == '"' then some ⟨.text [], found⟩
  else
    match punctuation? c with
    | some token => some ⟨.between, token :: found⟩
    | none => some ⟨.word [c], found⟩

def step? (scan : Scan) (c : Char) : Option Scan :=
  match scan.mode with
  | .between => between? scan.found c
  | .word collected =>
      if isSpace c || c == '"' || (punctuation? c).isSome then
        (ofWord? collected).bind fun token => between? (token :: scan.found) c
      else some ⟨.word (c :: collected), scan.found⟩
  | .text collected =>
      if c == '"' then some ⟨.between, text (String.ofList collected.reverse) :: scan.found⟩
      else if c == '\\' then some ⟨.escape collected none, scan.found⟩
      else if c.toNat < 0x20 then none
      else some ⟨.text (c :: collected), scan.found⟩
  | .escape collected high =>
      if c == 'u' then some ⟨.hex collected high 0 0, scan.found⟩
      else if high.isSome then none
      else (simpleEscape? c).map fun plain => ⟨.text (plain :: collected), scan.found⟩
  | .hex collected high digits value =>
      (Text.hexDigit? c).bind fun d =>
        if digits = 3 then
          (afterHex? collected high (value * 16 + d)).map fun mode => ⟨mode, scan.found⟩
        else some ⟨.hex collected high (digits + 1) (value * 16 + d), scan.found⟩
  | .halfway collected high =>
      if c == '\\' then some ⟨.escape collected (some high), scan.found⟩ else none

def finish? (scan : Scan) : Option (List Token) :=
  match scan.mode with
  | .between => some scan.found.reverse
  | .word collected => (ofWord? collected).map fun token => (token :: scan.found).reverse
  | _ => none

def scan? (cs : List Char) : Option (List Token) :=
  (cs.foldlM step? ⟨.between, []⟩).bind finish?

end Token

/-- An open array with its items in reverse, or an open object with the key being filled. -/
inductive Frame where
  | array (items : List Json)
  | object (fields : List (String × Json)) (key : String)

/-- What may come next. -/
inductive Phase where
  | value
  | firstItem
  | afterItem
  | firstKey (fields : List (String × Json))
  | key (fields : List (String × Json))
  | colon (fields : List (String × Json)) (key : String)
  | done (result : Json)

structure Build where
  stack : List Frame
  phase : Phase

namespace Build

def nestingLimit : Nat := 127

def complete (stack : List Frame) (value : Json) : Build :=
  match stack with
  | [] => ⟨[], .done value⟩
  | .array items :: rest => ⟨.array (value :: items) :: rest, .afterItem⟩
  | .object fields key :: rest => ⟨.object (insertEntry key value fields) key :: rest, .afterItem⟩

/-- Starts a value inside of the open arrays and objects. -/
def startValue? (stack : List Frame) (token : Token) : Option Build :=
  match token with
  | .openArray => if stack.length < nestingLimit then some ⟨.array [] :: stack, .firstItem⟩ else none
  | .openObject => if stack.length < nestingLimit then some ⟨stack, .firstKey []⟩ else none
  | .text s => some (complete stack (str s))
  | .literal j => some (complete stack j)
  | _ => none

def step? (build : Build) (token : Token) : Option Build :=
  match build.phase, token, build.stack with
  | .value, token, stack => startValue? stack token
  | .firstItem, .closeArray, .array items :: rest => some (complete rest (arr items.reverse))
  | .firstItem, token, stack => startValue? stack token
  | .afterItem, .comma, .array items :: rest => some ⟨.array items :: rest, .value⟩
  | .afterItem, .closeArray, .array items :: rest => some (complete rest (arr items.reverse))
  | .afterItem, .comma, .object fields _ :: rest => some ⟨rest, .key fields⟩
  | .afterItem, .closeObject, .object fields _ :: rest => some (complete rest (obj fields))
  | .firstKey _, .closeObject, stack => some (complete stack (obj []))
  | .firstKey fields, .text key, stack => some ⟨stack, .colon fields key⟩
  | .key fields, .text key, stack => some ⟨stack, .colon fields key⟩
  | .colon fields key, .colon, stack => some ⟨.object fields key :: stack, .value⟩
  | _, _, _ => none

/-- The value that tokens spell out. -/
def ofTokens? (tokens : List Token) : Option Json :=
  (tokens.foldlM step? ⟨[], .value⟩).bind fun build =>
    match build.phase with
    | .done result => some result
    | _ => none

end Build

/-- The value of a data text; none when the text is malformed. -/
def read? (s : String) : Option Json :=
  (Token.scan? s.toList).bind Build.ofTokens?

end RecordSchema.Json
