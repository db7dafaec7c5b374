import RecordSchema.Checksum

set_option autoImplicit false

/-!
Blocks that end in a mark can be told from the whole when the mark stands in none of them, and
characters can be told from their bytes.
-/

namespace RecordSchema.Text

section Marks

variable {α : Type} {mark : α}

theorem append_mark_inj {xs ys rest rest' : List α} (absent : mark ∉ xs) (absent' : mark ∉ ys)
    (same : xs ++ mark :: rest = ys ++ mark :: rest') : xs = ys ∧ rest = rest' := by
  induction xs generalizing ys with
  | nil =>
    cases ys with
    | nil =>
      cases same
      exact ⟨rfl, rfl⟩
    | cons y ys =>
      have first : mark = y := (List.cons.inj same).1
      exact absurd (first ▸ List.mem_cons_self) absent'
  | cons x xs ih =>
    cases ys with
    | nil =>
      have first : x = mark := (List.cons.inj same).1
      exact absurd (first ▸ List.mem_cons_self) absent
    | cons y ys =>
      obtain ⟨rfl, others⟩ := List.cons.inj same
      obtain ⟨rfl, rfl⟩ := ih (fun member => absent (List.mem_cons_of_mem _ member))
        (fun member => absent' (List.mem_cons_of_mem _ member)) others
      exact ⟨rfl, rfl⟩

def marked (mark : α) (blocks : List (List α)) : List α := blocks.flatMap (· ++ [mark])

theorem marked_cons (b : List α) (rest : List (List α)) :
    marked mark (b :: rest) = b ++ mark :: marked mark rest := by
  simp [marked]

theorem marked_injective {blocks blocks' : List (List α)} (absent : ∀ b ∈ blocks, mark ∉ b)
    (absent' : ∀ b ∈ blocks', mark ∉ b) (same : marked mark blocks = marked mark blocks') :
    blocks = blocks' := by
  induction blocks generalizing blocks' with
  | nil =>
    cases blocks' with
    | nil => rfl
    | cons b' rest' => simp [marked] at same
  | cons b rest ih =>
    cases blocks' with
    | nil => simp [marked] at same
    | cons b' rest' =>
      rw [marked_cons, marked_cons] at same
      rw [List.forall_mem_cons] at absent absent'
      obtain ⟨rfl, others⟩ := append_mark_inj absent.1 absent'.1 same
      rw [ih absent.2 absent'.2 others]

theorem mem_marked {x : α} {blocks : List (List α)} (member : x ∈ marked mark blocks) :
    x = mark ∨ ∃ b ∈ blocks, x ∈ b := by
  obtain ⟨b, listed, inside⟩ := List.mem_flatMap.mp member
  rcases List.mem_append.mp inside with own | last
  · exact .inr ⟨b, listed, own⟩
  · exact .inl (List.mem_singleton.mp last)

end Marks

open Checksum (utf8)

theorem utf8_append (cs cs' : List Char) : utf8 (cs ++ cs') = utf8 cs ++ utf8 cs' :=
  List.flatMap_append

theorem utf8_injective {cs cs' : List Char} (same : utf8 cs = utf8 cs') : cs = cs' := by
  have bytes : cs.utf8Encode = cs'.utf8Encode := congrArg List.toByteArray same
  rw [← String.toByteArray_ofList, ← String.toByteArray_ofList, String.toByteArray_inj] at bytes
  simpa using congrArg String.toList bytes

end RecordSchema.Text
