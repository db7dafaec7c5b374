import RecordSchema.Yaml.Node
import RecordSchema.Json.Basic

set_option autoImplicit false

/-!
What the text of a scalar stands for: null, a flag, a whole number in base ten or, after `0x`,
`0o` and `0b`, in another base, a float, or just text.
-/

namespace RecordSchema.Yaml

inductive Meaning where
  | null
  | flag (b : Bool)
  | integer (i : Int)
  | float (d : Number.Double)
  | text

def isNullText (s : String) : Bool := s == "null" || s == "Null" || s == "NULL" || s == "~"

def flag? (s : String) : Option Bool :=
  if s == "true" || s == "True" || s == "TRUE" then some true
  else if s == "false" || s == "False" || s == "FALSE" then some false
  else none

def isSign (c : Char) : Bool := c == '+' || c == '-'

/-- A number in a base: at least one digit and nothing else. -/
def inBase? (base : Nat) (cs : List Char) : Option Nat :=
  if cs.isEmpty then none
  else
    cs.foldlM
      (fun n c => ((Text.hexDigit? c).filter (· < base)).map fun d => n * base + d) 0

/-- A number after the mark of its base, or without a mark in base ten. -/
def natural? (cs : List Char) : Option Nat :=
  match cs with
  | '0' :: 'x' :: rest => inBase? 16 rest
  | '0' :: 'o' :: rest => inBase? 8 rest
  | '0' :: 'b' :: rest => inBase? 2 rest
  | _ => inBase? 10 cs

/-- Digits with a needless zero before them, perhaps after a sign: no number, but text. -/
def isPadded (cs : List Char) : Bool :=
  let digits := match cs with
    | c :: rest => if isSign c then rest else cs
    | [] => []
  1 < digits.length && digits.head? == some '0' && digits.all Char.isDigit

def integer? (cs : List Char) : Option Int :=
  if isPadded cs then none
  else
    match cs with
    | '+' :: rest => (natural? rest).map Int.ofNat
    | '-' :: rest => (natural? rest).map fun n => -(n : Int)
    | _ => (natural? cs).map Int.ofNat

/-- Numbers of 128 bits are whole numbers even where 64 bits are too few for them; beyond that they
are floats. -/
def isInteger128 (i : Int) : Bool :=
  -170141183460469231731687303715884105728 ≤ i && i ≤ 340282366920938463463374607431768211455

def isInfinityText (cs : List Char) : Bool :=
  cs == ['.', 'i', 'n', 'f'] || cs == ['.', 'I', 'n', 'f'] || cs == ['.', 'I', 'N', 'F']

def isNanText (cs : List Char) : Bool :=
  cs == ['.', 'n', 'a', 'n'] || cs == ['.', 'N', 'a', 'N'] || cs == ['.', 'N', 'A', 'N']

def float? (cs : List Char) : Option Number.Double :=
  let unsigned := match cs with
    | '+' :: rest => rest
    | _ => cs
  if cs.head? == some '+' && unsigned.head?.any isSign then none
  else if isInfinityText unsigned then some (.infinity false)
  else if cs.head? == some '-' && isInfinityText (cs.drop 1) then some (.infinity true)
  else if isNanText cs then some .nan
  else (Number.readDouble? unsigned).filter Number.Double.isFinite

/-- The meaning of a plain scalar without a tag. -/
def meaning (s : String) : Meaning :=
  let cs := s.toList
  if s.isEmpty || isNullText s then .null
  else
    match flag? s with
    | some b => .flag b
    | none =>
        match (integer? cs).filter isInteger128 with
        | some i => .integer i
        | none =>
            if isPadded cs then .text
            else
              match float? cs with
              | some d => .float d
              | none => .text

/-! Data -/

/-- A whole number as data; none when it does not fit into 64 bits. -/
def integerData? (i : Int) : Option Json := (Numeral.ofInt? i).map .num

def Meaning.data? (s : String) : Meaning → Option Json
  | null => some .null
  | flag b => some (.bool b)
  | integer i => integerData? i
  | float d => some (.ofDouble d)
  | text => some (.str s)

def coreTag (name : String) : String := "tag:yaml.org,2002:" ++ name

/-- A scalar as data. Tags of the core schema demand a meaning, other tags make a text, and the
tags of an application have no data. -/
def scalarData? (p : Properties) (style : ScalarStyle) (s : String) : Option Json :=
  match p.tag with
  | none => if style = .plain then (meaning s).data? s else some (.str s)
  | some tag =>
      if tag.startsWith "!" then none
      else if tag == coreTag "bool" then (flag? s).map .bool
      else if tag == coreTag "int" then
        ((integer? s.toList).filter isInteger128).bind integerData?
      else if tag == coreTag "float" then (float? s.toList).map .ofDouble
      else if tag == coreTag "null" then if isNullText s then some .null else none
      else some (.str s)

/-- A collection with a tag of an application has no data. -/
def hasDataTag (p : Properties) : Bool := !p.tag.any fun tag => tag.startsWith "!"

end RecordSchema.Yaml
