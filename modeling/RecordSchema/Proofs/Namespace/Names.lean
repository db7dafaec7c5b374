import RecordSchema.Namespace.Ident
import Mathlib.Data.List.Infix

set_option autoImplicit false

/-!
Qualified names as texts. Names are joined by separators, and the joined text gives back the names
exactly when no name holds a separator or ends with its first half. Main statement:
`eq_of_joined_eq`, two classes under one key have the same names around them and the same class name.
-/

namespace RecordSchema

def joined (names : List String) : String := separator.intercalate names

@[simp] theorem joined_nil : joined [] = "" := by simp [joined]

theorem joined_isEmpty (names : List String) (filled : ∀ name ∈ names, name ≠ "") :
    (joined names).isEmpty = true ↔ names = [] := by
  match names with
  | [] => simp
  | [name] => simpa [joined] using filled name
  | first :: second :: rest => simp [joined, separator]

theorem joined_concat (names : List String) (name : String)
    (filled : ∀ name ∈ names, name ≠ "") :
    joined (names ++ [name]) = qualify (joined names) name := by
  by_cases root : names = []
  · subst root
    simp [joined, qualify]
  · have inside : ¬ (joined names).isEmpty = true := mt (joined_isEmpty names filled).mp root
    rw [qualify, if_neg inside, joined, joined,
      String.intercalate_append_of_ne_nil root (by simp), String.intercalate_singleton]

theorem toList_qualify {namespaceName : String} (filled : namespaceName ≠ "") (name : String) :
    (qualify namespaceName name).toList =
      namespaceName.toList ++ (separator.toList ++ name.toList) := by
  simp [qualify, filled]

-- Texts are split in one pass from the left, so only the next two characters decide.
theorem hasSeparator_cons (c : Char) (rest : List Char) :
    hasSeparator (c :: rest) = ((c == ':' && rest.head? == some ':') || hasSeparator rest) := by
  by_cases first : c = ':'
  · subst first
    cases rest with
    | nil => rfl
    | cons d rest =>
        by_cases second : d = ':'
        · subst second
          rfl
        · simp [hasSeparator, second]
  · simp [hasSeparator, first]

theorem separated_cons (c : Char) (rest : List Char)
    (apart : (c == ':' && rest.head? == some ':') = false) :
    separated (c :: rest) = (separated rest).modifyHead (c :: ·) := by
  by_cases first : c = ':'
  · subst first
    cases rest with
    | nil => rfl
    | cons d rest =>
        have second : d ≠ ':' := by simpa using apart
        simp [separated, second]
  · simp [separated, first]

theorem hasSeparator_iff (text : List Char) :
    hasSeparator text = true ↔ separator.toList <:+: text := by
  have colons : separator.toList = [':', ':'] := by decide
  rw [colons]
  induction text with
  | nil => simp [hasSeparator]
  | cons c rest ih =>
      rw [hasSeparator_cons, List.infix_cons_iff, Bool.or_eq_true]
      refine or_congr ?_ ih
      cases rest with
      | nil => simp
      | cons d rest =>
          simp only [List.head?_cons, Bool.and_eq_true, beq_iff_eq, Option.some.injEq,
            List.cons_prefix_cons, List.nil_prefix, and_true]
          exact and_congr eq_comm eq_comm

/-- A name that a separator may follow: no separator begins in it. -/
def Terminable (name : List Char) : Prop := hasSeparator (name ++ [':']) = false

theorem terminable_iff (name : List Char) :
    Terminable name ↔ hasSeparator name = false ∧ name.getLast? ≠ some ':' := by
  unfold Terminable
  induction name with
  | nil => simp [hasSeparator]
  | cons c rest ih =>
      rw [List.cons_append, hasSeparator_cons, hasSeparator_cons]
      cases rest with
      | nil => simp [hasSeparator]
      | cons d rest => simpa [and_assoc] using fun _ => ih

theorem terminable_of_no_colon (name : List Char) (plain : ':' ∉ name) : Terminable name := by
  rw [terminable_iff]
  constructor
  · by_contra held
    have inside := (hasSeparator_iff name).mp (by simpa using held)
    exact plain (inside.subset (by decide))
  · exact fun last => plain (List.mem_of_getLast? last)

theorem separated_append (name rest : List Char) (closed : Terminable name) :
    separated (name ++ ':' :: ':' :: rest) = name :: separated rest := by
  induction name with
  | nil => rfl
  | cons c tail ih =>
      rw [Terminable, List.cons_append, hasSeparator_cons, Bool.or_eq_false_iff] at closed
      have apart : (c == ':' && (tail ++ ':' :: ':' :: rest).head? == some ':') = false := by
        cases tail with
        | nil => simpa using closed.1
        | cons d tail => simpa using closed.1
      rw [List.cons_append, separated_cons _ _ apart, ih closed.2, List.modifyHead_cons]

theorem separated_of_hasSeparator_eq_false (text : List Char) (whole : hasSeparator text = false) :
    separated text = [text] := by
  induction text with
  | nil => rfl
  | cons c rest ih =>
      rw [hasSeparator_cons, Bool.or_eq_false_iff] at whole
      rw [separated_cons _ _ whole.1, ih whole.2, List.modifyHead_cons]

/-- What stands before the first separator can be followed by one. -/
theorem exists_separated_head (text : List Char) (split : hasSeparator text = true) :
    ∃ name rest, separated text = name :: rest ∧ Terminable name ∧
      (name ++ [':']).head? = text.head? := by
  induction text with
  | nil => cases split
  | cons c text ih =>
      by_cases here : (c == ':' && text.head? == some ':') = true
      · cases text with
        | nil => simp at here
        | cons d text =>
            obtain ⟨rfl, rfl⟩ : c = ':' ∧ d = ':' := by simpa using here
            exact ⟨[], separated text, rfl, rfl, rfl⟩
      · simp only [Bool.not_eq_true] at here
        rw [hasSeparator_cons, here, Bool.false_or] at split
        obtain ⟨name, rest, parts, closed, head⟩ := ih split
        refine ⟨c :: name, rest, by rw [separated_cons _ _ here, parts]; rfl, ?_, rfl⟩
        rw [Terminable, List.cons_append, hasSeparator_cons, head, here]
        exact closed

theorem separated_joined (names : List String) (last : String)
    (closed : ∀ name ∈ names, Terminable name.toList) (whole : hasSeparator last.toList = false) :
    separated (joined (names ++ [last])).toList = (names ++ [last]).map String.toList := by
  induction names with
  | nil => simpa [joined] using separated_of_hasSeparator_eq_false _ whole
  | cons name rest ih =>
      have more : rest ++ [last] ≠ [] := by simp
      have step : (joined (name :: rest ++ [last])).toList =
          name.toList ++ ':' :: ':' :: (joined (rest ++ [last])).toList := by
        rw [joined, List.cons_append, String.intercalate_cons_of_ne_nil more]
        simp [joined, separator]
      rw [step, separated_append _ _ (closed name (by simp)),
        ih fun name member => closed name (by simp [member])]
      rfl

theorem eq_of_joined_eq (names others : List String) (last other : String)
    (closed : ∀ name ∈ names, Terminable name.toList)
    (othersClosed : ∀ name ∈ others, Terminable name.toList)
    (whole : hasSeparator last.toList = false) (otherWhole : hasSeparator other.toList = false)
    (same : joined (names ++ [last]) = joined (others ++ [other])) :
    names = others ∧ last = other := by
  have parts := separated_joined names last closed whole
  rw [same, separated_joined others other othersClosed otherWhole] at parts
  have equal := List.map_injective_iff.mpr (fun _ _ => String.toList_injective) parts
  have split := List.append_inj' equal rfl
  exact ⟨split.1.symm, by simpa using split.2.symm⟩

end RecordSchema
