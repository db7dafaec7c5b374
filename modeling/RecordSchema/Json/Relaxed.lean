import RecordSchema.Json.Reader
import RecordSchema.Number.Reader
import RecordSchema.Text.Blank
import RecordSchema.Text.Letter

set_option autoImplicit false

/-!
Data text as people write it: with comments, commas before a closing bracket, keys without quotes,
texts in single quotes, and numbers with a sign, in base sixteen, or with nothing on one side of
the point. The tokens are brought into the strict form and then read as such. Infinity and the
value that is no number become texts.
-/

namespace RecordSchema.Json.Relaxed

/-- A token, or a word that is a key or a value depending on what follows. -/
inductive Piece where
  | token (t : Token)
  | word (cs : List Char)

def isLineEnd (c : Char) : Bool := c == '\n' || c == '\r' || c == '\u2028' || c == '\u2029'

def isSpace (c : Char) : Bool := (Text.isBlank c && c != '\u0085') || c == '\ufeff'

def isWordChar (c : Char) : Bool :=
  Text.isAlphanumeric c || c == '$' || c == '_' || c == '.' || c == '+' || c == '-' ||
    c == '\u200c' || c == '\u200d'

/-! Texts -/

def simpleEscape? (c : Char) : Option Char :=
  match c with
  | 'b' => some '\x08'
  | 'f' => some '\x0c'
  | 'n' => some '\n'
  | 'r' => some '\r'
  | 't' => some '\t'
  | 'v' => some '\x0b'
  | '0' => some '\x00'
  | c => if c.isDigit || c == 'x' || c == 'u' then none else some c

/-- Codes of 16 bits as characters; two halves in a row make one character. -/
def joinHalves (high low : Nat) : Option Char :=
  if 0xD800 ≤ high ∧ high < 0xDC00 ∧ 0xDC00 ≤ low ∧ low < 0xE000 then
    Text.charOfCode? (0x10000 + (high - 0xD800) * 0x400 + (low - 0xDC00))
  else none

/-- The rest of a text up to its closing quote. -/
def text? (quote : Char) : List Char → Option (List Char × List Char)
  | [] => none
  | '\\' :: 'x' :: a :: b :: rest => after rest ((Text.hexValue? [a, b]).bind Text.charOfCode?)
  | '\\' :: 'u' :: a :: b :: c :: d :: '\\' :: 'u' :: e :: f :: g :: h :: rest =>
      match Text.hexValue? [a, b, c, d], Text.hexValue? [e, f, g, h] with
      | some first, some second =>
          match joinHalves first second with
          | some x => after rest (some x)
          | none =>
              match Text.charOfCode? first with
              | none => none
              | some x =>
                  (after rest (Text.charOfCode? second)).map fun (text, left) => (x :: text, left)
      | _, _ => none
  | '\\' :: 'u' :: a :: b :: c :: d :: rest =>
      after rest ((Text.hexValue? [a, b, c, d]).bind Text.charOfCode?)
  | '\\' :: '\r' :: '\n' :: rest => text? quote rest
  | '\\' :: c :: rest => if isLineEnd c then text? quote rest else after rest (simpleEscape? c)
  | c :: rest =>
      if c == quote then some ([], rest)
      else if c == '\\' || isLineEnd c then none
      else after rest (some c)
where
  after (rest : List Char) (found : Option Char) : Option (List Char × List Char) :=
    match found with
    | none => none
    | some x => (text? quote rest).map fun (text, left) => (x :: text, left)

/-! Words -/

def splitSign : List Char → Bool × List Char
  | '-' :: rest => (true, rest)
  | '+' :: rest => (false, rest)
  | cs => (false, cs)

def infinityWord : List Char := "Infinity".toList

def notANumberWord : List Char := "NaN".toList

def signedText (negative : Bool) (name : String) : Json :=
  .str (if negative then "-" ++ name else name)

def ofDouble (d : Number.Double) : Json :=
  match d with
  | .finite negative m => .num (.float negative m)
  | .infinity negative => signedText negative "inf"
  | .nan => .str "NaN"

def ofInteger? (negative : Bool) (magnitude : Nat) : Option Json :=
  let value : Int := if negative then -magnitude else magnitude
  if Number.int64Fits value then some (.ofInt64 value) else none

/-- A number without its sign. Zeros stand in front of no other digit. -/
def number? (negative : Bool) (cs : List Char) : Option Json :=
  if cs == infinityWord then some (signedText negative "inf")
  else if cs == notANumberWord then some (.str "NaN")
  else
    match cs with
    | '0' :: 'x' :: c :: rest => (Text.hexValue? (c :: rest)).bind (ofInteger? negative)
    | '0' :: 'X' :: c :: rest => (Text.hexValue? (c :: rest)).bind (ofInteger? negative)
    | _ =>
        let whole := cs.takeWhile Char.isDigit
        if whole.length ≠ 1 ∧ whole.head? = some '0' then none
        else if whole.length = cs.length then ofInteger? negative (Number.digitsValue whole)
        else if cs.head?.any Char.isAlpha then none
        else (Number.readDouble? ((if negative then ['-'] else []) ++ cs)).map ofDouble

def ofWord? (cs : List Char) : Option Json :=
  match String.ofList cs with
  | "null" => some .null
  | "true" => some (.bool true)
  | "false" => some (.bool false)
  | _ =>
      let (negative, body) := splitSign cs
      if (splitSign body).2.length = body.length then number? negative body else none

def isName (cs : List Char) : Bool :=
  match cs with
  | [] => false
  | c :: rest =>
      (Text.isAlphabetic c || c == '$' || c == '_') &&
        rest.all fun c => c != '.' && c != '+' && c != '-'

/-! Tokens -/

/-- What follows a comment whose star has been read. -/
def skipBlock : List Char → Option (List Char)
  | '*' :: '/' :: rest => some rest
  | _ :: rest => skipBlock rest
  | [] => none

def pieces? : Nat → List Char → Option (List Piece)
  | 0, _ => some []
  | fuel + 1, cs =>
      match cs with
      | [] => some []
      | '/' :: '*' :: rest => (skipBlock rest).bind (pieces? fuel)
      | '/' :: '/' :: rest => pieces? fuel (rest.dropWhile fun c => !isLineEnd c)
      | c :: rest =>
          if isSpace c then pieces? fuel rest
          else if c == '"' || c == '\'' then
            match text? c rest with
            | none => none
            | some (text, left) =>
                (pieces? fuel left).map (.token (.text (String.ofList text)) :: ·)
          else
            match Token.punctuation? c with
            | some t => (pieces? fuel rest).map (.token t :: ·)
            | none =>
                let word := cs.takeWhile isWordChar
                if word.isEmpty then none
                else (pieces? fuel (cs.drop word.length)).map (.word word :: ·)

/-- A comma that only closes a list of items is dropped: it stands behind an item and in front of
a closing bracket. -/
def tokens? (afterItem : Bool) : List Piece → Option (List Token)
  | [] => some []
  | .token .comma :: .token .closeArray :: rest =>
      if afterItem then (tokens? true rest).map (.closeArray :: ·) else none
  | .token .comma :: .token .closeObject :: rest =>
      if afterItem then (tokens? true rest).map (.closeObject :: ·) else none
  | .token t :: rest =>
      let isItem := match t with
        | .text _ | .closeArray | .closeObject => true
        | _ => false
      (tokens? isItem rest).map (t :: ·)
  | .word cs :: .token .colon :: rest =>
      if isName cs then
        (tokens? false rest).map fun ts => .text (String.ofList cs) :: .colon :: ts
      else none
  | .word cs :: rest =>
      match ofWord? cs with
      | none => none
      | some j => (tokens? true rest).map (.literal j :: ·)

/-- The value of a text; none when the text is malformed. -/
def read? (s : String) : Option Json :=
  ((pieces? (s.length + 1) s.toList).bind (tokens? false)).bind Build.ofTokens?

end RecordSchema.Json.Relaxed
