import RecordSchema.Proofs.Success

set_option autoImplicit false

/-!
Two computations side by side. They succeed with related results or fail with related errors, and
they log the same.
-/

namespace RecordSchema.Logged

structure Related {ε α β : Type} (Fault : ε → ε → Prop) (Rel : α → β → Prop)
    (x : Logged (Except ε α)) (y : Logged (Except ε β)) : Prop where
  result : (∃ a b, x.value = .ok a ∧ y.value = .ok b ∧ Rel a b) ∨
    ∃ e e', x.value = .error e ∧ y.value = .error e' ∧ Fault e e'
  log : x.log = y.log

namespace Related

variable {ε α β γ δ : Type} {Fault : ε → ε → Prop} {Rel : α → β → Prop} {Other : γ → δ → Prop}
  {x : Logged (Except ε α)} {y : Logged (Except ε β)}

theorem ok {a : α} {b : β} (related : Rel a b) :
    Related Fault Rel (.pure (.ok a)) (.pure (.ok b)) :=
  ⟨.inl ⟨a, b, rfl, rfl, related⟩, rfl⟩

theorem error {e e' : ε} (related : Fault e e') :
    Related Fault Rel (.pure (.error e)) (.pure (.error e')) :=
  ⟨.inr ⟨e, e', rfl, rfl, related⟩, rfl⟩

theorem mono {Weaker : α → β → Prop} (related : Related Fault Rel x y)
    (step : ∀ a b, Rel a b → Weaker a b) : Related Fault Weaker x y where
  result := by
    rcases related.result with ⟨a, b, left, right, same⟩ | failed
    · exact .inl ⟨a, b, left, right, step a b same⟩
    · exact .inr failed
  log := related.log

theorem map (related : Related Fault Rel x y) {f : α → γ} {g : β → δ}
    (step : ∀ a b, Rel a b → Other (f a) (g b)) :
    Related Fault Other (x.map (Except.map f)) (y.map (Except.map g)) where
  result := by
    rw [value_map, value_map]
    rcases related.result with ⟨a, b, left, right, same⟩ | ⟨e, e', left, right, same⟩
    · rw [left, right]
      exact .inl ⟨f a, g b, rfl, rfl, step a b same⟩
    · rw [left, right]
      exact .inr ⟨e, e', rfl, rfl, same⟩
  log := related.log

theorem mapError {ζ : Type} {Further : ζ → ζ → Prop} (related : Related Fault Rel x y) {f : ε → ζ}
    (step : ∀ e e', Fault e e' → Further (f e) (f e')) :
    Related Further Rel (x.map (Except.mapError f)) (y.map (Except.mapError f)) where
  result := by
    rw [value_map, value_map]
    rcases related.result with ⟨a, b, left, right, same⟩ | ⟨e, e', left, right, same⟩
    · rw [left, right]
      exact .inl ⟨a, b, rfl, rfl, same⟩
    · rw [left, right]
      exact .inr ⟨f e, f e', rfl, rfl, step e e' same⟩
  log := related.log

theorem andThen (related : Related Fault Rel x y) {f : α → Logged (Except ε γ)}
    {g : β → Logged (Except ε δ)} (step : ∀ a b, Rel a b → Related Fault Other (f a) (g b)) :
    Related Fault Other (x.andThen f) (y.andThen g) := by
  unfold Logged.andThen
  rcases related.result with ⟨a, b, left, right, same⟩ | ⟨e, e', left, right, same⟩
  · simp only [left, right]
    exact ⟨(step a b same).result, by rw [related.log, (step a b same).log]⟩
  · simp only [left, right]
    exact ⟨.inr ⟨e, e', rfl, rfl, same⟩, related.log⟩

end Related

end RecordSchema.Logged
