import RecordSchema.Namespace.Ident
import RecordSchema.Proofs.Success
import RecordSchema.Proofs.Text.Capitals

set_option autoImplicit false

/-!
Names as words. A text is the words between its word breaks, and its name is these words one after
the other, each with its first character in upper case.
-/

namespace RecordSchema.Namespace

def words (cs : List Char) : List (List Char) := cs.splitOnP isWordBreak

def initials (cs : List Char) : List Char := (words cs).filterMap List.head?

def capitalWord : List Char → List Char
  | [] => []
  | first :: rest => Text.uppercase first ++ rest

theorem words_cons_of_break {c : Char} (wordBreak : isWordBreak c = true) (cs : List Char) :
    words (c :: cs) = [] :: words cs := by
  rw [words, List.splitOnP_cons_eq_if_modifyHead, if_pos wordBreak, words]

theorem words_cons {c : Char} (joined : isWordBreak c = false) (cs : List Char) :
    words (c :: cs) = (words cs).modifyHead (c :: ·) := by
  rw [words, List.splitOnP_cons_eq_if_modifyHead, if_neg (by simp [joined]), words]

theorem exists_words_cons (cs : List Char) : ∃ word more, words cs = word :: more :=
  List.exists_cons_of_ne_nil (List.splitOnP_ne_nil isWordBreak cs)

theorem mem_words {cs word : List Char} (listed : word ∈ words cs) :
    ∀ c ∈ word, c ∈ cs ∧ isWordBreak c = false := by
  induction cs generalizing word with
  | nil => simp_all [words]
  | cons first rest ih =>
    intro c inside
    cases wordBreak : isWordBreak first with
    | true =>
      rw [words_cons_of_break wordBreak, List.mem_cons] at listed
      rcases listed with rfl | later
      · cases inside
      · exact ⟨List.mem_cons_of_mem _ (ih later c inside).1, (ih later c inside).2⟩
    | false =>
      obtain ⟨own, more, split⟩ := exists_words_cons rest
      rw [words_cons wordBreak, split, List.modifyHead_cons, List.mem_cons] at listed
      rw [split] at ih
      rcases listed with rfl | later
      · rcases List.mem_cons.mp inside with rfl | further
        · exact ⟨List.mem_cons_self, wordBreak⟩
        · have known := ih List.mem_cons_self c further
          exact ⟨List.mem_cons_of_mem _ known.1, known.2⟩
      · have known := ih (List.mem_cons_of_mem _ later) c inside
        exact ⟨List.mem_cons_of_mem _ known.1, known.2⟩

theorem isWordBreak_of_isWordChar {c : Char} (inWord : Text.isWordChar c = true) :
    isWordBreak c = false := by
  rw [← Bool.not_eq_true]
  intro wordBreak
  simp only [isWordBreak, Bool.or_eq_true, beq_iff_eq] at wordBreak
  rcases wordBreak with (rfl | rfl) | rfl <;> exact absurd inWord (by decide)

theorem capitalise_accepts {atStart : Bool} {cs name : List Char}
    (h : capitalise atStart cs = .ok name) :
    ∀ c ∈ cs, isWordBreak c = true ∨ Text.isAlphanumeric c = true := by
  induction cs generalizing atStart name with
  | nil => simp
  | cons first rest ih =>
    rw [List.forall_mem_cons]
    unfold capitalise at h
    split at h
    next wordBreak => exact ⟨.inl wordBreak, ih h⟩
    next =>
      split at h
      next => cases h
      next letter =>
        rw [map_eq_ok_iff] at h
        obtain ⟨others, tail, _⟩ := h
        exact ⟨.inr (by simpa using letter), ih tail⟩

-- The first word of what is left is the one under way, and is capitalised only if it starts here.
theorem capitalise_eq_words (atStart : Bool) {cs : List Char}
    (accepted : ∀ c ∈ cs, isWordBreak c = true ∨ Text.isAlphanumeric c = true) :
    ∃ word more, words cs = word :: more ∧ capitalise atStart cs =
      .ok ((if atStart then capitalWord word else word) ++ more.flatMap capitalWord) := by
  induction cs generalizing atStart with
  | nil => exact ⟨[], [], rfl, by cases atStart <;> rfl⟩
  | cons c rest ih =>
    obtain ⟨own, others⟩ := List.forall_mem_cons.mp accepted
    cases wordBreak : isWordBreak c with
    | true =>
      obtain ⟨word, more, split, named⟩ := ih true others
      refine ⟨[], word :: more, by rw [words_cons_of_break wordBreak, split], ?_⟩
      rw [capitalise, if_pos wordBreak, named]
      cases atStart <;> rfl
    | false =>
      have letter : Text.isAlphanumeric c = true := by simpa [wordBreak] using own
      obtain ⟨word, more, split, named⟩ := ih false others
      refine ⟨c :: word, more, by rw [words_cons wordBreak, split, List.modifyHead_cons], ?_⟩
      rw [capitalise, if_neg (by simp [wordBreak]), if_neg (by simp [letter]), named]
      cases atStart <;> simp [Except.map, capitalWord]

theorem capitalise_eq_ok_iff {cs name : List Char} : capitalise true cs = .ok name ↔
    (∀ c ∈ cs, isWordBreak c = true ∨ Text.isAlphanumeric c = true) ∧
      name = (words cs).flatMap capitalWord := by
  constructor
  · intro named
    have accepted := capitalise_accepts named
    obtain ⟨word, more, split, spelt⟩ := capitalise_eq_words true accepted
    rw [named] at spelt
    exact ⟨accepted, by rw [split, Except.ok.inj spelt]; rfl⟩
  · rintro ⟨accepted, rfl⟩
    obtain ⟨word, more, split, spelt⟩ := capitalise_eq_words true accepted
    rw [spelt, split]
    rfl

section Named

variable {cs name : List Char} (named : capitalise true cs = .ok name)
include named

theorem isAlphanumeric_of_mem_words {word : List Char} (listed : word ∈ words cs) :
    ∀ c ∈ word, Text.isAlphanumeric c = true := by
  intro c inside
  obtain ⟨member, joined⟩ := mem_words listed c inside
  simpa [joined] using capitalise_accepts named c member

theorem isWordChar_of_named : ∀ c ∈ name, Text.isWordChar c = true := by
  intro c member
  rw [(capitalise_eq_ok_iff.mp named).2] at member
  obtain ⟨word, listed, inside⟩ := List.mem_flatMap.mp member
  have letters := isAlphanumeric_of_mem_words named listed
  cases word with
  | nil => cases inside
  | cons first rest =>
    rw [List.forall_mem_cons] at letters
    rcases List.mem_append.mp inside with capital | later
    · exact Text.isWordChar_uppercase letters.1 c capital
    · exact Text.isWordChar_of_isAlphanumeric (letters.2 c later)

theorem isAlphanumeric_named_iff : (∀ c ∈ name, Text.isAlphanumeric c = true) ↔
    ∀ c ∈ initials cs, c.toNat ∉ Text.markedCapitals := by
  rw [(capitalise_eq_ok_iff.mp named).2, List.forall_mem_flatMap, initials, List.forall_mem_filterMap]
  refine forall₂_congr fun word listed => ?_
  have letters := isAlphanumeric_of_mem_words named listed
  cases word with
  | nil => simp [capitalWord]
  | cons first rest =>
    rw [List.forall_mem_cons] at letters
    rw [capitalWord, List.forall_mem_append, Text.uppercase_unmarked_iff letters.1,
      and_iff_left letters.2]
    simp

/-- A name begins with a character that is its own capital. -/
theorem uppercase_first {first : Char} {rest : List Char} (start : name = first :: rest) :
    Text.uppercase first = [first] := by
  -- The first character comes from the capital of the first word that is not empty.
  have head : ((words cs).flatMap capitalWord).head? = some first := by
    rw [← (capitalise_eq_ok_iff.mp named).2, start, List.head?_cons]
  rw [List.head?_flatMap] at head
  obtain ⟨word, listed, own⟩ := List.exists_of_findSome?_eq_some head
  have letters := isAlphanumeric_of_mem_words named listed
  cases word with
  | nil => cases own
  | cons c rest =>
    have letter := letters c List.mem_cons_self
    refine Text.uppercase_upper letter first (List.mem_of_head? ?_)
    rwa [capitalWord, List.head?_append, Option.or_of_isSome] at own
    rw [List.isSome_head?]
    simpa using Text.uppercase_ne_nil letter

theorem capitalise_of_letters (letters : ∀ c ∈ name, Text.isAlphanumeric c = true) :
    capitalise true name = .ok name := by
  refine capitalise_eq_ok_iff.mpr ⟨fun c member => .inr (letters c member), ?_⟩
  -- Nothing breaks the name, so it is one word, and its first character is in upper case already.
  have one : words name = [name] := List.splitOnP_eq_singleton fun c member =>
    isWordBreak_of_isWordChar (Text.isWordChar_of_isAlphanumeric (letters c member))
  rw [one, List.flatMap_singleton]
  cases shape : name with
  | nil => rfl
  | cons first rest => rw [capitalWord, uppercase_first named shape, List.singleton_append]

theorem capitalise_again_iff (again : List Char) : capitalise true name = .ok again ↔
    (∀ c ∈ name, Text.isAlphanumeric c = true) ∧ again = name := by
  constructor
  · intro renamed
    have letters : ∀ c ∈ name, Text.isAlphanumeric c = true := by
      intro c member
      have joined := isWordBreak_of_isWordChar (isWordChar_of_named named c member)
      simpa [joined] using capitalise_accepts renamed c member
    rw [capitalise_of_letters named letters] at renamed
    exact ⟨letters, (Except.ok.inj renamed).symm⟩
  · rintro ⟨letters, rfl⟩
    exact capitalise_of_letters named letters

end Named

end RecordSchema.Namespace
