import RecordSchema.Proofs.Namespace.Names
import RecordSchema.Proofs.Namespace.Words
import RecordSchema.Proofs.Text.Blank

set_option autoImplicit false

/-!
The names that texts become. The name of a path segment or a schema holds no colon, so a separator
may follow it, and it is its own name when it is made of letters and numbers; a version's name keeps
the colons of the version.
-/

namespace RecordSchema

namespace Namespace

theorem ident_eq_ok_iff {segment name : String} : ident segment = .ok name ↔
    capitalise true segment.toList = .ok name.toList ∧
      name.toList.head?.any Text.isAlphabetic = true := by
  unfold ident
  cases capitalise true segment.toList with
  | error c => simp
  | ok named =>
    cases named with
    | nil =>
      constructor
      · nofun
      · rintro ⟨same, start⟩
        rw [← Except.ok.inj same] at start
        cases start
    | cons first rest =>
      by_cases letter : Text.isAlphabetic first = true
      · simp only [if_pos letter, Except.ok.injEq]
        constructor
        · rintro rfl
          exact ⟨by rw [String.toList_ofList], by simpa using letter⟩
        · rintro ⟨same, _⟩
          rw [same, String.ofList_toList]
      · simp only [if_neg letter, Except.ok.injEq]
        constructor
        · nofun
        · rintro ⟨same, start⟩
          rw [← same] at start
          exact absurd start letter

theorem ident_chars {segment name : String} (h : ident segment = .ok name) :
    capitalise true segment.toList = .ok name.toList ∧ name ≠ "" := by
  obtain ⟨named, start⟩ := ident_eq_ok_iff.mp h
  refine ⟨named, ?_⟩
  rintro rfl
  cases start

theorem ident_again_iff {segment name : String} (h : ident segment = .ok name) (again : String) :
    ident name = .ok again ↔
      (∀ c ∈ name.toList, Text.isAlphanumeric c = true) ∧ again = name := by
  obtain ⟨named, start⟩ := ident_eq_ok_iff.mp h
  rw [ident_eq_ok_iff, capitalise_again_iff named, String.toList_inj, and_assoc]
  refine and_congr_right fun _ => and_iff_left_of_imp ?_
  rintro rfl
  exact start

/-- Nothing is trimmed from a name. -/
theorem nonBlank?_name {segment name : String} (h : ident segment = .ok name) :
    Text.nonBlank? name = some name := by
  obtain ⟨named, filled⟩ := ident_chars h
  have visible : Text.Visible name.toList := fun c member =>
    Text.not_isBlank_of_isWordChar (isWordChar_of_named named c member)
  obtain ⟨first, rest, shape⟩ := List.exists_cons_of_ne_nil (mt String.toList_eq_nil_iff.mp filled)
  have notBlank : Text.isBlankText name = false :=
    List.all_eq_false.mpr ⟨first, by simp [shape], by simp [visible first (by simp [shape])]⟩
  rw [Text.nonBlank?, notBlank, Text.trim, visible.trimChars, String.ofList_toList]
  rfl

/-- A segment that names a namespace, or none, is made of letters, digits, word breaks and blanks. -/
theorem not_mem_segment {segment : String} {c : Char}
    (named : ∀ text, Text.nonBlank? segment = some text → ∃ name, ident text = .ok name)
    (visible : Text.isBlank c = false) (joined : isWordBreak c = false)
    (strange : Text.isAlphanumeric c = false) : c ∉ segment.toList := by
  intro member
  have filled : Text.isBlankText segment = false :=
    List.all_eq_false.mpr ⟨c, member, by simp [visible]⟩
  obtain ⟨name, accepted⟩ := named (Text.trim segment) (by simp [Text.nonBlank?, filled])
  have inside : c ∈ (Text.trim segment).toList := by
    rw [Text.trim, String.toList_ofList]
    exact Text.mem_trimChars member visible
  rcases capitalise_accepts (ident_chars accepted).1 c inside with wordBreak | letter
  · rw [joined] at wordBreak
    cases wordBreak
  · rw [strange] at letter
    cases letter

theorem ident_filled {segment name : String} (h : ident segment = .ok name) : name ≠ "" :=
  (ident_chars h).2

theorem terminable_ident {segment name : String} (h : ident segment = .ok name) :
    Terminable name.toList := by
  apply terminable_of_no_colon
  intro member
  have inWord := isWordChar_of_named (ident_chars h).1 ':' member
  exact absurd inWord (by decide)

theorem versionSegment_filled (version : String) : versionSegment version ≠ "" := by
  intro blank
  have := congrArg String.toList blank
  simp [versionSegment] at this

theorem hasSeparator_map_point (cs : List Char) :
    hasSeparator (cs.map fun c => if c == '.' then '_' else c) = hasSeparator cs := by
  have colon (c : Char) : ((if c == '.' then '_' else c) == ':') = (c == ':') := by
    by_cases point : c = '.'
    · subst point
      rfl
    · simp [point]
  induction cs with
  | nil => rfl
  | cons c rest ih =>
      rw [List.map_cons, hasSeparator_cons, hasSeparator_cons, ih, colon]
      cases rest with
      | nil => simp
      | cons d rest =>
          have second := colon d
          simp only [List.map_cons, List.head?_cons, Option.some_beq_some, second]

/-- A separator may follow a version's name when it may follow the version itself. -/
theorem terminable_versionSegment (version : String) :
    Terminable (versionSegment (Text.trim version)).toList ↔
      Terminable (Text.trim version).toList := by
  have points (cs : List Char) :
      (cs.map fun c => if c == '.' then '_' else c) ++ [':'] =
        (cs ++ [':']).map fun c => if c == '.' then '_' else c := by simp
  unfold Terminable versionSegment
  rw [String.toList_ofList, List.cons_append, List.cons_append, points, hasSeparator_cons,
    hasSeparator_cons, hasSeparator_map_point]
  simp [Text.trim, Text.trimChars_trimChars]

end Namespace

end RecordSchema
