import RecordSchema.Number.Layout

set_option autoImplicit false

/-!
The text of a double: a point or an exponent in it shows that it is no whole number.
-/

namespace RecordSchema.Number

theorem dot_mem_pointForm (digits : List Char) (leading : Int) :
    '.' ∈ pointForm digits leading := by
  unfold pointForm
  split
  · simp
  · dsimp only
    split <;> simp

theorem e_mem_exponentForm (plusSign : Bool) (digits : List Char) (leading : Int) :
    'e' ∈ exponentForm plusSign digits leading := by
  simp [exponentForm]

theorem Layout.mark_mem_renderSigned (layout : Layout) (negative : Bool) (m : Magnitude) :
    ∃ c ∈ layout.renderSigned negative m, c = '.' ∨ c = 'e' := by
  have unsigned : ∃ c ∈ layout.render m, c = '.' ∨ c = 'e' := by
    unfold render
    dsimp only
    split
    · exact ⟨'.', dot_mem_pointForm .., .inl rfl⟩
    · exact ⟨'e', e_mem_exponentForm .., .inr rfl⟩
  obtain ⟨c, member, mark⟩ := unsigned
  refine ⟨c, ?_, mark⟩
  rw [renderSigned]
  split <;> simp [member]

theorem Double.exists_eq_finite {d : Double} (finite : d.isFinite = true) :
    ∃ negative m, d = .finite negative m := by
  cases d with
  | nan => cases finite
  | infinity negative => cases finite
  | finite negative m => exact ⟨negative, m, rfl⟩

end RecordSchema.Number
