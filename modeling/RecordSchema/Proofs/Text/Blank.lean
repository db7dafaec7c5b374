import RecordSchema.Text.Blank
import Mathlib.Data.List.DropRight

set_option autoImplicit false

/-!
Blank characters: which texts hold only them, and what is left of a text once it is trimmed.
-/

namespace RecordSchema.Text

theorem toNat_of_isDigit {c : Char} (digit : c.isDigit = true) : 48 ≤ c.toNat ∧ c.toNat ≤ 57 := by
  simpa [Char.isDigit, UInt32.le_iff_toNat_le] using digit

theorem not_isBlank_of_isDigit {c : Char} (digit : c.isDigit = true) : isBlank c = false := by
  have code := toNat_of_isDigit digit
  simp only [isBlank, blankRanges, CodeRanges.hasCode, List.any_cons, List.any_nil, Bool.or_false,
    Bool.or_eq_false_iff, Bool.and_eq_false_iff, decide_eq_false_iff_not]
  omega

theorem isBlankText_ofList_eq_false {cs : List Char} {c : Char} (member : c ∈ cs)
    (visible : isBlank c = false) : isBlankText (String.ofList cs) = false := by
  rw [isBlankText, String.toList_ofList, List.all_eq_false]
  exact ⟨c, member, by simp [visible]⟩

theorem trimChars_trimChars (cs : List Char) : trimChars (trimChars cs) = trimChars cs := by
  have kept : trimStart (trimChars cs) = trimChars cs := by
    unfold trimStart
    rw [List.dropWhile_eq_self_iff]
    intro some_left
    -- What is left begins as the text did once its start was trimmed.
    have start : trimChars cs <+: trimStart cs := List.rdropWhile_prefix isBlank (trimStart cs)
    have longer : 0 < (trimStart cs).length := Nat.lt_of_lt_of_le some_left start.length_le
    rw [start.getElem some_left]
    exact List.dropWhile_get_zero_not isBlank cs longer
  rw [trimChars, kept]
  exact List.rdropWhile_idempotent isBlank (trimStart cs)

def Visible (cs : List Char) : Prop := ∀ c ∈ cs, isBlank c = false

@[simp] theorem visible_nil : Visible [] := nofun

@[simp] theorem visible_cons {c : Char} {cs : List Char} :
    Visible (c :: cs) ↔ isBlank c = false ∧ Visible cs :=
  List.forall_mem_cons

@[simp] theorem visible_append {cs ds : List Char} : Visible (cs ++ ds) ↔ Visible cs ∧ Visible ds :=
  List.forall_mem_append

theorem Visible.trimChars {cs : List Char} (visible : Visible cs) : trimChars cs = cs := by
  have kept {ds : List Char} (visible : Visible ds) : ds.dropWhile isBlank = ds := by
    rw [List.dropWhile_eq_self_iff]
    intro filled
    simp [visible _ (List.getElem_mem filled)]
  rw [Text.trimChars, trimEnd, trimStart, kept visible, kept, List.reverse_reverse]
  intro c member
  exact visible c (List.mem_reverse.mp member)

theorem mem_dropWhile_blank {c : Char} {cs : List Char} (member : c ∈ cs)
    (visible : isBlank c = false) : c ∈ cs.dropWhile isBlank := by
  rw [← List.takeWhile_append_dropWhile (p := isBlank) (l := cs)] at member
  rcases List.mem_append.mp member with dropped | kept
  · have blank := List.mem_takeWhile_imp dropped
    rw [visible] at blank
    cases blank
  · exact kept

theorem mem_trimChars {c : Char} {cs : List Char} (member : c ∈ cs)
    (visible : isBlank c = false) : c ∈ trimChars cs := by
  have started : c ∈ trimStart cs := mem_dropWhile_blank member visible
  exact List.mem_reverse.mpr (mem_dropWhile_blank (List.mem_reverse.mpr started) visible)

theorem eq_trim_of_nonBlank? {text trimmed : String} (h : nonBlank? text = some trimmed) :
    trimmed = trim text := by
  unfold nonBlank? at h
  split at h
  · cases h
  · exact (Option.some.inj h).symm

theorem trim_of_blank {text : String} (blank : isBlankText text = true) : trim text = "" := by
  have dropped : trimStart text.toList = [] := by
    rw [trimStart, List.dropWhile_eq_nil_iff]
    exact List.all_eq_true.mp blank
  rw [trim, trimChars, dropped]
  rfl

end RecordSchema.Text
