import RecordSchema.Text.Hex

set_option autoImplicit false

/-!
Texts in TOML: in double quotes with escapes, in single quotes as they stand, both on one line or,
in three quotes, on several; and keys. A reader takes what follows the opening quotes, and gives
the text and what follows the closing ones.
-/

namespace RecordSchema.Toml

abbrev Rest := List Char

/-- Tabs, and characters that are no control characters. -/
def isPlain (c : Char) : Bool := c == '\t' || (0x20 ≤ c.toNat && c.toNat != 0x7f)

def isSpace (c : Char) : Bool := c == ' ' || c == '\t'

def skipSpace (cs : Rest) : Rest := cs.dropWhile isSpace

/-- A line ends in a line feed, alone or after a carriage return. -/
def lineBreak? : Rest → Option Rest
  | '\n' :: rest => some rest
  | '\r' :: '\n' :: rest => some rest
  | _ => none

/-! Double quotes -/

def namedEscape? (c : Char) : Option Char :=
  match c with
  | 'b' => some '\x08'
  | 't' => some '\t'
  | 'n' => some '\n'
  | 'f' => some '\x0c'
  | 'r' => some '\r'
  | '"' => some '"'
  | '\\' => some '\\'
  | _ => none

def codedChar? (width : Nat) (cs : Rest) : Option (Char × Rest) :=
  let digits := cs.take width
  if digits.length = width then
    ((Text.hexValue? digits).bind Text.charOfCode?).map (·, cs.drop width)
  else none

/-- The character that an escape stands for, from behind its backslash on. -/
def escape? : Rest → Option (Char × Rest)
  | 'u' :: rest => codedChar? 4 rest
  | 'U' :: rest => codedChar? 8 rest
  | c :: rest => (namedEscape? c).map (·, rest)
  | [] => none

theorem length_of_codedChar? {width : Nat} {cs rest : Rest} {c : Char}
    (h : codedChar? width cs = some (c, rest)) : rest.length ≤ cs.length := by
  simp only [codedChar?] at h
  split at h
  · obtain ⟨_, _, same⟩ := Option.map_eq_some_iff.mp h
    obtain rfl := (Prod.mk.inj same).2
    simp
  · cases h

theorem length_of_escape? {cs rest : Rest} {c : Char} (h : escape? cs = some (c, rest)) :
    rest.length < cs.length := by
  unfold escape? at h
  split at h
  · simpa using Nat.lt_succ_of_le (length_of_codedChar? h)
  · simpa using Nat.lt_succ_of_le (length_of_codedChar? h)
  · obtain ⟨_, _, same⟩ := Option.map_eq_some_iff.mp h
    obtain rfl := (Prod.mk.inj same).2
    simp
  · cases h

def basic? (cs : Rest) : Option (List Char × Rest) :=
  match cs with
  | [] => none
  | c :: rest =>
      if c == '"' then some ([], rest)
      else if c == '\\' then
        match _h : escape? rest with
        | none => none
        | some (x, left) => (basic? left).map fun (text, left) => (x :: text, left)
      else if isPlain c then (basic? rest).map fun (text, left) => (c :: text, left)
      else none
termination_by cs.length
decreasing_by
  · have := length_of_escape? _h
    simp only [List.length_cons]
    omega
  · simp

/-- Spaces and line breaks, as many as there are. -/
def skipLines : Rest → Rest
  | [] => []
  | '\r' :: '\n' :: rest => skipLines rest
  | c :: rest => if isSpace c || c == '\n' then skipLines rest else c :: rest

theorem length_skipLines (cs : Rest) : (skipLines cs).length ≤ cs.length := by
  fun_induction skipLines cs with
  | case1 => simp
  | case2 _ ih =>
      simp only [List.length_cons]
      omega
  | case3 _ _ _ _ ih =>
      simp only [List.length_cons]
      omega
  | case4 => simp

/-- Goes on with the next text when only spaces stand before the end of the line. -/
def continuedLine? (cs : Rest) : Option Rest := (lineBreak? (skipSpace cs)).map skipLines

theorem length_of_lineBreak? {cs rest : Rest} (h : lineBreak? cs = some rest) :
    rest.length < cs.length := by
  unfold lineBreak? at h
  split at h
  · cases h
    simp only [List.length_cons]
    omega
  · cases h
    simp only [List.length_cons]
    omega
  · cases h

theorem length_of_continuedLine? {cs rest : Rest} (h : continuedLine? cs = some rest) :
    rest.length < cs.length := by
  obtain ⟨left, found, rfl⟩ := Option.map_eq_some_iff.mp h
  have := length_of_lineBreak? found
  have := length_skipLines left
  have : (skipSpace cs).length ≤ cs.length := (List.dropWhile_sublist isSpace).length_le
  omega

/-- The quotes in front of three closing ones that still belong to the text, and what follows;
none when fewer than three stand together. -/
def closingQuotes? (quote : Char) (cs : Rest) : Option (List Char × Rest) :=
  let run := (cs.takeWhile (· == quote)).length
  if run < 3 then none
  else
    let extra := min (run - 3) 2
    some (List.replicate extra quote, cs.drop (extra + 3))

def multilineBasic? (cs : Rest) : Option (List Char × Rest) :=
  match cs with
  | [] => none
  | c :: rest =>
      match closingQuotes? '"' (c :: rest) with
      | some closed => some closed
      | none =>
          match _h : lineBreak? (c :: rest) with
          | some left => (multilineBasic? left).map fun (text, left) => ('\n' :: text, left)
          | none =>
              if c == '\\' then
                match _h : continuedLine? rest with
                | some left => multilineBasic? left
                | none =>
                    match _h : escape? rest with
                    | none => none
                    | some (x, left) =>
                        (multilineBasic? left).map fun (text, left) => (x :: text, left)
              else if isPlain c then
                (multilineBasic? rest).map fun (text, left) => (c :: text, left)
              else none
termination_by cs.length
decreasing_by
  · exact length_of_lineBreak? _h
  · have := length_of_continuedLine? _h
    simp only [List.length_cons]
    omega
  · have := length_of_escape? _h
    simp only [List.length_cons]
    omega
  · simp

/-! Single quotes -/

def literal? : Rest → Option (List Char × Rest)
  | [] => none
  | c :: rest =>
      if c == '\'' then some ([], rest)
      else if isPlain c then (literal? rest).map fun (text, left) => (c :: text, left)
      else none

def multilineLiteral? (cs : Rest) : Option (List Char × Rest) :=
  match cs with
  | [] => none
  | c :: rest =>
      match closingQuotes? '\'' (c :: rest) with
      | some closed => some closed
      | none =>
          match _h : lineBreak? (c :: rest) with
          | some left => (multilineLiteral? left).map fun (text, left) => ('\n' :: text, left)
          | none =>
              if isPlain c then (multilineLiteral? rest).map fun (text, left) => (c :: text, left)
              else none
termination_by cs.length
decreasing_by
  · exact length_of_lineBreak? _h
  · simp

/-! Texts and keys -/

/-- Drops the line break that may follow three opening quotes. -/
def skipFirstBreak (cs : Rest) : Rest := (lineBreak? cs).getD cs

/-- A text in any quotes, from the first quote on. -/
def text? : Rest → Option (List Char × Rest)
  | '"' :: '"' :: '"' :: rest => multilineBasic? (skipFirstBreak rest)
  | '"' :: rest => basic? rest
  | '\'' :: '\'' :: '\'' :: rest => multilineLiteral? (skipFirstBreak rest)
  | '\'' :: rest => literal? rest
  | _ => none

def isBareKeyChar (c : Char) : Bool := c.isAlphanum || c == '_' || c == '-'

def key? : Rest → Option (String × Rest)
  | '"' :: rest => (basic? rest).map fun (text, left) => (String.ofList text, left)
  | '\'' :: rest => (literal? rest).map fun (text, left) => (String.ofList text, left)
  | cs =>
      let bare := cs.takeWhile isBareKeyChar
      if bare.isEmpty then none else some (String.ofList bare, cs.dropWhile isBareKeyChar)

/-- Keys joined by points, at most so many, with spaces around each. -/
def keyPath? : Nat → Rest → Option (List String × Rest)
  | 0, _ => none
  | parts + 1, cs =>
      match key? (skipSpace cs) with
      | none => none
      | some (key, rest) =>
          match skipSpace rest with
          | '.' :: rest => (keyPath? parts rest).map fun (keys, left) => (key :: keys, left)
          | rest => some ([key], rest)

end RecordSchema.Toml
