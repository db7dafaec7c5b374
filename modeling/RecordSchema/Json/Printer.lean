import RecordSchema.Json.Basic
import RecordSchema.Number.Layout
import RecordSchema.Text.Hex

set_option autoImplicit false

/-!
Data as text, in one line without blanks or with an indent of two. A text escapes the quote, the
backslash and the control characters, nothing else.
-/

namespace RecordSchema

def Numeral.chars : Numeral → List Char
  | .integer i _ _ => Number.intDigits i
  | .float negative m => Number.Layout.data.renderSigned negative m

namespace Json

def escapeChar (c : Char) : List Char :=
  if c == '"' then ['\\', '"']
  else if c == '\\' then ['\\', '\\']
  else if c == '\x08' then ['\\', 'b']
  else if c == '\x0c' then ['\\', 'f']
  else if c == '\n' then ['\\', 'n']
  else if c == '\r' then ['\\', 'r']
  else if c == '\t' then ['\\', 't']
  else if c.toNat < 0x20 then
    ['\\', 'u', '0', '0', Text.lowerHexDigit (c.toNat / 16), Text.lowerHexDigit (c.toNat % 16)]
  else [c]

def quoted (s : String) : List Char :=
  '"' :: s.toList.flatMap escapeChar ++ ['"']

def boolChars : Bool → List Char
  | true => ['t', 'r', 'u', 'e']
  | false => ['f', 'a', 'l', 's', 'e']

def nullChars : List Char := ['n', 'u', 'l', 'l']

mutual

def chars : Json → List Char
  | null => nullChars
  | bool b => boolChars b
  | num n => n.chars
  | str s => quoted s
  | arr [] => ['[', ']']
  | arr (item :: rest) => '[' :: item.chars ++ restChars rest
  | obj [] => ['\x7b', '\x7d']
  | obj ((key, value) :: rest) => '\x7b' :: quoted key ++ ':' :: value.chars ++ restFieldChars rest

def restChars : List Json → List Char
  | [] => [']']
  | item :: rest => ',' :: item.chars ++ restChars rest

def restFieldChars : List (String × Json) → List Char
  | [] => ['\x7d']
  | (key, value) :: rest => ',' :: quoted key ++ ':' :: value.chars ++ restFieldChars rest

end

def text (j : Json) : String := String.ofList j.chars

/-- A new line with an indent of two for each level. -/
def newLine (depth : Nat) : List Char := '\n' :: List.replicate (2 * depth) ' '

mutual

def indentedChars (depth : Nat) : Json → List Char
  | arr (item :: rest) =>
      '[' :: newLine (depth + 1) ++ indentedChars (depth + 1) item ++ indentedRest depth rest
  | obj ((key, value) :: rest) =>
      '\x7b' :: newLine (depth + 1) ++ quoted key ++ ':' :: ' ' ::
        indentedChars (depth + 1) value ++ indentedRestFields depth rest
  | null => nullChars
  | bool b => boolChars b
  | num n => n.chars
  | str s => quoted s
  | arr [] => ['[', ']']
  | obj [] => ['\x7b', '\x7d']

def indentedRest (depth : Nat) : List Json → List Char
  | [] => newLine depth ++ [']']
  | item :: rest =>
      ',' :: newLine (depth + 1) ++ indentedChars (depth + 1) item ++ indentedRest depth rest

def indentedRestFields (depth : Nat) : List (String × Json) → List Char
  | [] => newLine depth ++ ['\x7d']
  | (key, value) :: rest =>
      ',' :: newLine (depth + 1) ++ quoted key ++ ':' :: ' ' ::
        indentedChars (depth + 1) value ++ indentedRestFields depth rest

end

def indentedText (j : Json) : String := String.ofList (j.indentedChars 0)

end Json

end RecordSchema
