import RecordSchema.Toml.Text

set_option autoImplicit false

/-!
Keys, texts and arrays as TOML. A text gets the first kind of quotes that shows it as it is: double
ones, single ones, then three of each; only a text that none of them can show has escapes.
-/

namespace RecordSchema.Toml

def longestRun (quote : Char) (cs : List Char) : Nat :=
  let (longest, _) := cs.foldl
    (fun (longest, run) c =>
      let run := if c == quote then run + 1 else 0
      (max longest run, run))
    (0, 0)
  longest

/-- Control characters but the tab and the line feed. -/
def needsCode (c : Char) : Bool := !isPlain c && c != '\n'

/-- One character between double quotes. In three quotes a line feed stands as it is, and so do up
to two quotes in a row. -/
def escaped (multiline : Bool) (quotesBefore : Nat) (c : Char) : List Char :=
  if c == '"' then if multiline && quotesBefore < 2 then ['"'] else ['\\', '"']
  else if c == '\n' then if multiline then ['\n'] else ['\\', 'n']
  else if c == '\\' then ['\\', '\\']
  else if c == '\x08' then ['\\', 'b']
  else if c == '\t' then ['\\', 't']
  else if c == '\x0c' then ['\\', 'f']
  else if c == '\r' then ['\\', 'r']
  else if needsCode c then
    ['\\', 'u', '0', '0', Text.upperHexDigit (c.toNat / 16), Text.upperHexDigit (c.toNat % 16)]
  else [c]

/-- Characters between double quotes, after so many quotes that stand as they are. -/
def escapedChars (multiline : Bool) (quotesBefore : Nat) : List Char → List Char
  | [] => []
  | c :: rest =>
      let shown := escaped multiline quotesBefore c
      shown ++ escapedChars multiline (if shown == ['"'] then quotesBefore + 1 else 0) rest

def basic (cs : List Char) : List Char := '"' :: escapedChars false 0 cs ++ ['"']

def literal (cs : List Char) : List Char := '\'' :: cs ++ ['\'']

/-- Three quotes on each side. A text with line feeds starts on a line of its own. -/
def multiline (quote : Char) (text body : List Char) : List Char :=
  let quotes := List.replicate 3 quote
  quotes ++ (if text.contains '\n' then ['\n'] else []) ++ body ++ quotes

def textChars (cs : List Char) : List Char :=
  let coded := cs.any needsCode
  let broken := cs.contains '\n'
  let escapes := coded || cs.contains '\\'
  let doubles := longestRun '"' cs
  let singles := longestRun '\'' cs
  if !escapes && !broken && doubles = 0 then basic cs
  else if !coded && !broken && singles = 0 then literal cs
  else if !escapes && doubles ≤ 2 then multiline '"' cs (escapedChars true 0 cs)
  else if !coded && singles ≤ 2 then multiline '\'' cs cs
  else if broken then multiline '"' cs (escapedChars true 0 cs)
  else basic cs

def keyChars (cs : List Char) : List Char :=
  let coded := cs.any fun c => !isPlain c
  if !cs.isEmpty && cs.all isBareKeyChar then cs
  else if !coded && !cs.contains '\\' && !cs.contains '"' then basic cs
  else if !coded && !cs.contains '\'' then literal cs
  else basic cs

/-- Texts in an array; two and more stand on lines of their own. -/
def textArrayChars : List String → List Char
  | [] => ['[', ']']
  | [s] => '[' :: textChars s.toList ++ [']']
  | items =>
      let item (s : String) : List Char :=
        List.replicate 4 ' ' ++ textChars s.toList ++ [',', '\n']
      ['[', '\n'] ++ items.flatMap item ++ [']']

end RecordSchema.Toml
