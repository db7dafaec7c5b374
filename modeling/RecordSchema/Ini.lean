import RecordSchema.KeyMap
import RecordSchema.Settings.Setting
import RecordSchema.Text.Blank
import RecordSchema.Text.Hex

set_option autoImplicit false

/-!
Settings in sections: lines of `key = value` or `key: value` below headers in square brackets.
Every value is a text, in quotes or not; lines that start with a semicolon or a number sign are
comments.
-/

namespace RecordSchema.Ini

def isBreak (c : Char) : Bool := c == '\n' || c == '\r'

def namedEscape (c : Char) : Char :=
  match c with
  | '0' => '\x00'
  | 'a' => '\x07'
  | 'b' => '\x08'
  | 't' => '\t'
  | 'r' => '\r'
  | 'n' => '\n'
  | c => c

/-- The characters in front of a stop, and the rest from there on. A backslash makes an escape. The
end of the text is a stop only if it may be. -/
def until? (isStop : Char → Bool) (mayEnd : Bool) : List Char → Option (List Char × List Char)
  | [] => if mayEnd then some ([], []) else none
  | '\\' :: 'x' :: a :: b :: c :: d :: rest =>
      match (Text.hexValue? [a, b, c, d]).bind Text.charOfCode? with
      | none => none
      | some x => (until? isStop mayEnd rest).map fun (text, left) => (x :: text, left)
  | '\\' :: 'x' :: _ => none
  | '\\' :: c :: rest =>
      (until? isStop mayEnd rest).map fun (text, left) => (namedEscape c :: text, left)
  | ['\\'] => none
  | c :: rest =>
      if isStop c then some ([], c :: rest)
      else (until? isStop mayEnd rest).map fun (text, left) => (c :: text, left)

/-- A value up to the end of its line: quoted parts, then characters that are trimmed, at the start
too if no quoted part stands there. -/
def value? (parts : Nat) (isFirst : Bool) (cs : List Char) : Option (List Char × List Char) :=
  match parts, cs with
  | 0, _ => none
  | parts + 1, c :: rest =>
      if c == '"' || c == '\'' then
        match until? (· == c) false rest with
        | none => none
        | some (quoted, left) =>
            (value? parts false (left.drop 1)).map fun (text, left) => (quoted ++ text, left)
      else
        (until? isBreak true (c :: rest)).map fun (text, left) =>
          (if isFirst then Text.trimChars text else Text.trimEnd text, left)
  | _ + 1, [] => some ([], [])

/-- Skips blanks, and tells whether the next character is the first of its line. -/
def skipBlanks (isLineStart : Bool) : List Char → Bool × List Char
  | [] => (isLineStart, [])
  | c :: rest => if Text.isBlank c then skipBlanks (c == '\n') rest else (isLineStart, c :: rest)

/-- Entries in order, each with the section that it stands in. -/
structure Reading where
  current? : Option String
  sections : List (String × List (String × Setting))
  general : List (String × Setting)

namespace Reading

/-- Opens a section. One of the same name before it is dropped. -/
def openSection (r : Reading) (name : String) : Reading :=
  { r with current? := some name, sections := insertEntry name [] r.sections }

def add (r : Reading) (key : String) (value : Setting) : Reading :=
  match r.current? with
  | none => { r with general := insertEntry key value r.general }
  | some name =>
      let entries := insertEntry key value ((r.sections.lookup name).getD [])
      { r with sections := insertEntry name entries r.sections }

def entries (r : Reading) : List (String × Setting) :=
  r.sections.foldl (fun entries s => insertEntry s.1 (.table s.2) entries) r.general

def readAll? : Nat → Reading → Bool → List Char → Option Reading
  | 0, r, _, _ => some r
  | fuel + 1, r, isLineStart, cs =>
      let (isLineStart, cs) := skipBlanks isLineStart cs
      match cs with
      | [] => some r
      | '[' :: rest =>
          (until? (· == ']') false rest).bind fun (name, left) =>
            let name := String.ofList (Text.trimChars name)
            readAll? fuel (r.openSection name) false (left.drop 1)
      | c :: rest =>
          if c == ';' || c == '#' then
            if isLineStart then readAll? fuel r true ((rest.dropWhile (· != '\n')).drop 1)
            else none
          else
            (until? (fun c => c == '=' || c == ':') false (c :: rest)).bind fun (key, left) =>
              let key := Text.trimChars key
              let left := (left.drop 1).dropWhile fun c => Text.isBlank c && !isBreak c
              if key.isEmpty then none
              else
                (value? (left.length + 1) true left).bind fun (value, left) =>
                  let value := Setting.text (String.ofList value)
                  readAll? fuel (r.add (String.ofList key) value) false left

end Reading

/-- The entries of a text: those in front of all sections, and a table for each section. -/
def read? (text : String) : Option (List (String × Setting)) :=
  (Reading.readAll? (text.length + 1) ⟨none, [], []⟩ true text.toList).map Reading.entries

end RecordSchema.Ini
