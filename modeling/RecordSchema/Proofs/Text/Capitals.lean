import RecordSchema.Text.Blank
import RecordSchema.Text.Letter
import RecordSchema.Text.Uppercase

set_option autoImplicit false

/-!
What becomes of letters and numbers in upper case. The result is in upper case already. It is made
of letters and numbers again, except for the letters whose capitals have no code of their own:
these are written as a plain capital with combining marks.
-/

namespace RecordSchema.Text

/-- The block of the combining diacritical marks. -/
def markRanges : CodeRanges := [(0x300, 0x36f)]

def isCombiningMark (c : Char) : Bool := markRanges.hasCode c.toNat

/-- A letter, a number or a mark on one. -/
def isWordChar (c : Char) : Bool := isAlphanumeric c || isCombiningMark c

theorem isWordChar_of_isAlphanumeric {c : Char} (letter : isAlphanumeric c = true) :
    isWordChar c = true := by
  rw [isWordChar, letter, Bool.true_or]

/-- The letters whose capitals hold a mark that is not alphabetic. -/
def markedCapitals : List Nat :=
  [0x1f0, 0x390, 0x3b0, 0x1e96, 0x1e97, 0x1e98, 0x1e99, 0x1f50, 0x1f52, 0x1f54, 0x1f56, 0x1fb6,
   0x1fb7, 0x1fc6, 0x1fc7, 0x1fd2, 0x1fd3, 0x1fd6, 0x1fd7, 0x1fe2, 0x1fe3, 0x1fe4, 0x1fe6, 0x1fe7,
   0x1ff6, 0x1ff7]

section Bits

-- A set of codes is kept as the bits of a number, so that whole tables are compared in one step.

def codeBits (codes : List Nat) : Nat := codes.foldr (fun code bits => bits ||| 1 <<< code) 0

def CodeRanges.bits (ranges : CodeRanges) : Nat :=
  ranges.foldr (fun range bits => bits ||| (1 <<< (range.2 + 1 - range.1) - 1) <<< range.1) 0

theorem testBit_codeBits (codes : List Nat) (code : Nat) :
    (codeBits codes).testBit code = true ↔ code ∈ codes := by
  induction codes with
  | nil => simp [codeBits]
  | cons first rest ih =>
    have own : (1 <<< first).testBit code = true ↔ code = first := by
      simp only [Nat.testBit_shiftLeft, Nat.testBit_one_eq_true_iff_self_eq_zero, Bool.and_eq_true,
        decide_eq_true_eq]
      omega
    rw [codeBits, List.foldr_cons, Nat.testBit_or, Bool.or_eq_true, own, ← codeBits, ih,
      List.mem_cons, or_comm]

theorem CodeRanges.testBit_bits (ranges : CodeRanges) (code : Nat) :
    ranges.bits.testBit code = ranges.hasCode code := by
  induction ranges with
  | nil => simp [CodeRanges.bits, CodeRanges.hasCode]
  | cons first rest ih =>
    have own : ((1 <<< (first.2 + 1 - first.1) - 1) <<< first.1).testBit code =
        (decide (first.1 ≤ code) && decide (code ≤ first.2)) := by
      rw [Nat.testBit_shiftLeft, Nat.one_shiftLeft, Nat.testBit_two_pow_sub_one, Bool.eq_iff_iff]
      simp only [Bool.and_eq_true, decide_eq_true_eq]
      omega
    rw [CodeRanges.bits, List.foldr_cons, Nat.testBit_or, own, ← CodeRanges.bits, ih,
      CodeRanges.hasCode, CodeRanges.hasCode, List.any_cons, Bool.or_comm]

theorem testBit_of_and_eq {part whole code : Nat} (within : part &&& whole = part)
    (member : part.testBit code = true) : whole.testBit code = true := by
  rw [← within, Nat.testBit_and, Bool.and_eq_true] at member
  exact member.2

theorem testBit_of_and_eq_zero {part other code : Nat} (apart : part &&& other = 0)
    (member : part.testBit code = true) : other.testBit code = false := by
  have none := congrArg (·.testBit code) apart
  simpa [member] using none

end Bits

section Tables

def CaseRun.offsets (run : CaseRun) : List Nat :=
  (List.range ((run.last - run.first) / run.step + 1)).map (run.step * ·)

def CaseRun.codes (run : CaseRun) : List Nat := run.offsets.map (run.first + ·)

def CaseRun.images (run : CaseRun) : List Nat := run.offsets.map (run.target + ·)

theorem CaseRun.mem_of_image? {run : CaseRun} {code image : Nat}
    (mapped : run.image? code = some image) : code ∈ run.codes ∧ image ∈ run.images := by
  unfold CaseRun.image? at mapped
  split at mapped
  next inside =>
    cases mapped
    simp only [Bool.and_eq_true, decide_eq_true_eq, beq_iff_eq] at inside
    obtain ⟨⟨first, last⟩, onStep⟩ := inside
    have offset : code - run.first ∈ run.offsets := by
      refine List.mem_map.mpr ⟨(code - run.first) / run.step, List.mem_range.mpr ?_,
        Nat.mul_div_cancel' (Nat.dvd_of_mod_eq_zero onStep)⟩
      exact Nat.lt_succ_of_le (Nat.div_le_div_right (Nat.sub_le_sub_right last run.first))
    exact ⟨List.mem_map.mpr ⟨_, offset, Nat.add_sub_of_le first⟩, List.mem_map.mpr ⟨_, offset, rfl⟩⟩
  next => cases mapped

def runBits (codes : CaseRun → List Nat) (runs : List CaseRun) : Nat :=
  runs.foldr (fun run bits => bits ||| codeBits (codes run)) 0

theorem testBit_runBits {codes : CaseRun → List Nat} {runs : List CaseRun} {run : CaseRun}
    {code : Nat} (listed : run ∈ runs) (member : code ∈ codes run) :
    (runBits codes runs).testBit code = true := by
  induction runs with
  | nil => cases listed
  | cons first rest ih =>
    rw [runBits, List.foldr_cons, Nat.testBit_or, Bool.or_eq_true]
    rcases List.mem_cons.mp listed with rfl | later
    · exact .inr ((testBit_codeBits _ _).mpr member)
    · exact .inl (ih later)

-- The codes that have capitals, in ASCII and by either table.
def smallBits : Nat :=
  CodeRanges.bits [(0x61, 0x7a)] ||| runBits CaseRun.codes capitalRuns |||
    codeBits (expandingCapitals.map (·.1))

def imageBits : Nat := runBits CaseRun.images capitalRuns

def expansionBits : Nat := codeBits (expandingCapitals.flatMap (·.2))

def alphanumericBits : Nat :=
  CodeRanges.bits [(0x30, 0x39), (0x41, 0x5a), (0x61, 0x7a)] |||
    ((alphabeticRanges.bits ||| numericRanges.bits) >>> 0x80) <<< 0x80

def validBits : Nat := CodeRanges.bits [(0, 0xd7ff), (0xe000, 0x10ffff)]

-- The parts say in turn that capitals are characters, that no capital has a capital, that the
-- capitals of runs are letters or numbers, that those of expansions are this or marks but not both,
-- and that no blank is any of these.
theorem tables_compared :
    (imageBits ||| expansionBits) &&& validBits = imageBits ||| expansionBits ∧
      (imageBits ||| expansionBits) &&& smallBits = 0 ∧
      imageBits &&& alphanumericBits = imageBits ∧
      expansionBits &&& (alphanumericBits ^^^ markRanges.bits) = expansionBits ∧
      blankRanges.bits &&& (alphanumericBits ||| markRanges.bits) = 0 := by decide +kernel

theorem expandingCapitals_marked : ∀ entry ∈ expandingCapitals, entry.2 ≠ [] ∧
    ((∀ code ∈ entry.2, isCombiningMark (Char.ofNat code) = false) ↔ entry.1 ∉ markedCapitals) := by
  decide +kernel

theorem markedCapitals_expanding :
    ∀ code ∈ markedCapitals, 0x80 ≤ code ∧ (expandingCapitals.lookup code).isSome := by
  decide +kernel

theorem ascii_compared : ∀ code < 0x80,
    isAlphanumeric (Char.ofNat code) =
        CodeRanges.hasCode [(0x30, 0x39), (0x41, 0x5a), (0x61, 0x7a)] code ∧
      (isAlphanumeric (Char.ofNat code) = true →
        isAlphanumeric (Char.ofNat code).toUpper = true ∧
          uppercase (Char.ofNat code).toUpper = [(Char.ofNat code).toUpper]) := by decide +kernel

end Tables

variable {c : Char}

theorem isAlphanumeric_eq_testBit (c : Char) :
    isAlphanumeric c = alphanumericBits.testBit c.toNat := by
  simp only [alphanumericBits, Nat.testBit_or, Nat.testBit_shiftLeft, Nat.testBit_shiftRight,
    CodeRanges.testBit_bits]
  -- The tables are read beyond ASCII only, and their bits below are cut off for the same reason.
  by_cases small : c.toNat < 0x80
  · have ascii := (ascii_compared c.toNat small).1
    rw [Char.ofNat_toNat] at ascii
    rw [ascii, decide_eq_false (Nat.not_le.mpr small), Bool.false_and, Bool.or_false]
  · have beyond : CodeRanges.hasCode [(0x30, 0x39), (0x41, 0x5a), (0x61, 0x7a)] c.toNat = false := by
      simp only [CodeRanges.hasCode, List.any_cons, List.any_nil, Bool.or_false,
        Bool.or_eq_false_iff, Bool.and_eq_false_iff, decide_eq_false_iff_not]
      omega
    rw [isAlphanumeric, isAlphabetic, isNumeric, if_neg small, if_neg small, beyond,
      Nat.add_sub_of_le (by omega)]
    simp only [Bool.false_or, Nat.not_lt.mp small, decide_true, Bool.true_and]

theorem isWordChar_eq_testBit (c : Char) :
    isWordChar c = (alphanumericBits ||| markRanges.bits).testBit c.toNat := by
  rw [Nat.testBit_or, CodeRanges.testBit_bits, ← isAlphanumeric_eq_testBit]
  rfl

theorem not_isBlank_of_isWordChar (inWord : isWordChar c = true) : isBlank c = false := by
  obtain ⟨_, _, _, _, blank⟩ := tables_compared
  rw [Nat.and_comm] at blank
  rw [isWordChar_eq_testBit] at inWord
  rw [isBlank, ← CodeRanges.testBit_bits]
  exact testBit_of_and_eq_zero blank inWord

theorem uppercase_of_not_small (other : smallBits.testBit c.toNat = false) :
    uppercase c = [c] := by
  simp only [smallBits, Nat.testBit_or, Bool.or_eq_false_iff, CodeRanges.testBit_bits] at other
  obtain ⟨⟨ascii, unmapped⟩, unexpanded⟩ := other
  have notSmall : c.toUpper = c := by
    unfold Char.toUpper
    split
    next small =>
      have inside : CodeRanges.hasCode [(0x61, 0x7a)] c.toNat = true := by
        simpa [CodeRanges.hasCode, UInt32.le_iff_toNat_le] using small
      rw [ascii] at inside
      cases inside
    next => rfl
  have noExpansion : expandingCapitals.lookup c.toNat = none := by
    rw [List.lookup_eq_none_iff]
    intro entry listed
    rw [bne_iff_ne]
    rintro same
    have member := (testBit_codeBits _ _).mpr (List.mem_map_of_mem (f := (·.1)) listed)
    rw [← same, unexpanded] at member
    cases member
  have noImage : capitalRuns.findSome? (CaseRun.image? · c.toNat) = none := by
    rw [List.findSome?_eq_none_iff]
    intro run listed
    rw [Option.eq_none_iff_forall_ne_some]
    intro image mapped
    have member := testBit_runBits listed (CaseRun.mem_of_image? mapped).1
    rw [unmapped] at member
    cases member
  -- Whichever way the character would be looked up, it comes back.
  rw [uppercase, notSmall, noExpansion, noImage]
  exact ite_self _

section Capital

variable {code : Nat} (capital : (imageBits ||| expansionBits).testBit code = true)
include capital

theorem toNat_capital : (Char.ofNat code).toNat = code := by
  have inside := testBit_of_and_eq tables_compared.1 capital
  rw [validBits, CodeRanges.testBit_bits] at inside
  have valid : code.isValidChar := by
    simp only [CodeRanges.hasCode, List.any_cons, List.any_nil, Bool.or_false, Bool.or_eq_true,
      Bool.and_eq_true, decide_eq_true_eq] at inside
    unfold Nat.isValidChar
    omega
  rw [Char.ofNat, dif_pos valid]
  rfl

theorem uppercase_capital : uppercase (Char.ofNat code) = [Char.ofNat code] := by
  apply uppercase_of_not_small
  rw [toNat_capital capital]
  exact testBit_of_and_eq_zero tables_compared.2.1 capital

end Capital

theorem isAlphanumeric_image {code : Nat} (image : imageBits.testBit code = true) :
    isAlphanumeric (Char.ofNat code) = true := by
  obtain ⟨_, _, letters, _⟩ := tables_compared
  rw [isAlphanumeric_eq_testBit, toNat_capital (by simp [image])]
  exact testBit_of_and_eq letters image

theorem isAlphanumeric_expansion {code : Nat} (expansion : expansionBits.testBit code = true) :
    isAlphanumeric (Char.ofNat code) = !isCombiningMark (Char.ofNat code) := by
  obtain ⟨_, _, _, either, _⟩ := tables_compared
  have one := testBit_of_and_eq either expansion
  rw [isAlphanumeric_eq_testBit, isCombiningMark, ← CodeRanges.testBit_bits,
    toNat_capital (by simp [expansion])]
  rw [Nat.testBit_xor] at one
  cases marked : markRanges.bits.testBit code <;> simp_all

theorem testBit_expansionBits {entry : Nat × List Nat} (listed : entry ∈ expandingCapitals)
    {code : Nat} (member : code ∈ entry.2) : expansionBits.testBit code = true :=
  (testBit_codeBits _ _).mpr (List.mem_flatMap.mpr ⟨entry, listed, member⟩)

/-- A letter or number has a capital of several codes in the table, or one that is of its kind. -/
theorem uppercase_cases (letter : isAlphanumeric c = true) :
    (∃ codes, (c.toNat, codes) ∈ expandingCapitals ∧ uppercase c = codes.map Char.ofNat) ∨
      (c.toNat ∉ markedCapitals ∧
        ∃ d, uppercase c = [d] ∧ isAlphanumeric d = true ∧ uppercase d = [d]) := by
  by_cases small : c.toNat < 0x80
  · have unmarked : c.toNat ∉ markedCapitals := by
      intro member
      have beyond := (markedCapitals_expanding c.toNat member).1
      omega
    have ascii := (ascii_compared c.toNat small).2
    rw [Char.ofNat_toNat] at ascii
    obtain ⟨kept, upper⟩ := ascii letter
    exact .inr ⟨unmarked, c.toUpper, by rw [uppercase, if_pos small], kept, upper⟩
  · cases found : expandingCapitals.lookup c.toNat with
    | some codes =>
      obtain ⟨before, after, table, _⟩ := List.lookup_eq_some_iff.mp found
      exact .inl ⟨codes, by simp [table], by rw [uppercase, if_neg small, found]⟩
    | none =>
      have unmarked : c.toNat ∉ markedCapitals := by
        intro member
        have expanding := (markedCapitals_expanding c.toNat member).2
        rw [found] at expanding
        cases expanding
      refine .inr ⟨unmarked, ?_⟩
      cases mapped : capitalRuns.findSome? (CaseRun.image? · c.toNat) with
      | some code =>
        obtain ⟨run, listed, own⟩ := List.exists_of_findSome?_eq_some mapped
        have image : imageBits.testBit code = true :=
          testBit_runBits listed (CaseRun.mem_of_image? own).2
        exact ⟨Char.ofNat code, by rw [uppercase, if_neg small, found, mapped],
          isAlphanumeric_image image, uppercase_capital (by simp [image])⟩
      | none =>
        have same : uppercase c = [c] := by rw [uppercase, if_neg small, found, mapped]
        exact ⟨c, same, letter, same⟩

theorem isWordChar_uppercase (letter : isAlphanumeric c = true) :
    ∀ d ∈ uppercase c, isWordChar d = true := by
  intro d member
  rw [isWordChar]
  rcases uppercase_cases letter with ⟨codes, listed, expanded⟩ | ⟨_, capital, single, kept, _⟩
  · rw [expanded] at member
    obtain ⟨code, inside, rfl⟩ := List.mem_map.mp member
    rw [isAlphanumeric_expansion (testBit_expansionBits listed inside), Bool.not_or_self]
  · rw [single, List.mem_singleton] at member
    rw [member, kept, Bool.true_or]

theorem uppercase_unmarked_iff (letter : isAlphanumeric c = true) :
    (∀ d ∈ uppercase c, isAlphanumeric d = true) ↔ c.toNat ∉ markedCapitals := by
  rcases uppercase_cases letter with ⟨codes, listed, expanded⟩ | ⟨unmarked, capital, single, kept, _⟩
  · rw [← (expandingCapitals_marked _ listed).2, expanded, List.forall_mem_map]
    refine forall₂_congr fun code inside => ?_
    rw [isAlphanumeric_expansion (testBit_expansionBits listed inside), Bool.not_eq_true']
  · simp [single, kept, unmarked]

theorem uppercase_upper (letter : isAlphanumeric c = true) :
    ∀ d ∈ uppercase c, uppercase d = [d] := by
  intro d member
  rcases uppercase_cases letter with ⟨codes, listed, expanded⟩ | ⟨_, capital, single, _, upper⟩
  · rw [expanded] at member
    obtain ⟨code, inside, rfl⟩ := List.mem_map.mp member
    exact uppercase_capital (by simp [testBit_expansionBits listed inside])
  · rw [single, List.mem_singleton] at member
    exact member ▸ upper

theorem uppercase_ne_nil (letter : isAlphanumeric c = true) : uppercase c ≠ [] := by
  rcases uppercase_cases letter with ⟨codes, listed, expanded⟩ | ⟨_, capital, single, _⟩
  · rw [expanded, ne_eq, List.map_eq_nil_iff]
    exact (expandingCapitals_marked _ listed).1
  · rw [single]
    exact List.cons_ne_nil _ _

end RecordSchema.Text
