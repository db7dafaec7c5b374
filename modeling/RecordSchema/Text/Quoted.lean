import RecordSchema.Text.Category
import RecordSchema.Text.Hex

set_option autoImplicit false

/-!
Texts in quotes as they are shown to a reader: characters that would not be seen, or would change
their neighbour, are written by their code.
-/

namespace RecordSchema.Text

def isVisible (c : Char) : Bool :=
  if c.toNat < 0x80 then 0x20 ≤ c.toNat && c.toNat < 0x7f
  else
    match category c.toNat with
    | ('C', _) => false
    | ('Z', _) => false
    | _ => !extendingRanges.hasCode c.toNat

def lowerHex (n : Nat) : List Char :=
  if n < 16 then [lowerHexDigit n] else lowerHex (n / 16) ++ [lowerHexDigit (n % 16)]
termination_by n
decreasing_by omega

def showChar (c : Char) : List Char :=
  if c == '"' then ['\\', '"']
  else if c == '\\' then ['\\', '\\']
  else if c == '\n' then ['\\', 'n']
  else if c == '\r' then ['\\', 'r']
  else if c == '\t' then ['\\', 't']
  else if c == '\x00' then ['\\', '0']
  else if isVisible c then [c]
  else ['\\', 'u', '\x7b'] ++ lowerHex c.toNat ++ ['\x7d']

def showQuoted (s : String) : List Char :=
  '"' :: s.toList.flatMap showChar ++ ['"']

end RecordSchema.Text
