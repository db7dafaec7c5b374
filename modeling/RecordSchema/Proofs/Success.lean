import RecordSchema.Event

set_option autoImplicit false

/-!
What the success or the failure of a computation says about its steps.
-/

namespace RecordSchema

section Except

variable {ε δ α β : Type}

theorem mapError_ok (f : ε → δ) (a : α) : (Except.ok a).mapError f = .ok a := rfl

theorem mapError_eq_ok_iff (f : ε → δ) (x : Except ε α) (a : α) :
    x.mapError f = .ok a ↔ x = .ok a := by
  cases x with
  | ok b =>
      change Except.ok b = Except.ok a ↔ _
      rw [Except.ok.injEq, Except.ok.injEq]
  | error e => constructor <;> intro impossible <;> cases impossible

theorem map_eq_ok_iff (f : α → β) (x : Except ε α) (b : β) :
    x.map f = .ok b ↔ ∃ a, x = .ok a ∧ f a = b := by
  cases x with
  | ok a =>
      change Except.ok (f a) = Except.ok b ↔ _
      simp
  | error e =>
      constructor
      · intro impossible
        cases impossible
      · rintro ⟨a, impossible, _⟩
        cases impossible

theorem bind_eq_ok_iff (x : Except ε α) (f : α → Except ε β) (b : β) :
    x.bind f = .ok b ↔ ∃ a, x = .ok a ∧ f a = .ok b := by
  cases x with
  | ok a =>
      change f a = Except.ok b ↔ _
      simp
  | error e =>
      constructor
      · intro impossible
        cases impossible
      · rintro ⟨a, impossible, _⟩
        cases impossible

theorem toOption_eq_some_iff (x : Except ε α) (a : α) : x.toOption = some a ↔ x = .ok a := by
  cases x with
  | ok b => simp [Except.toOption]
  | error e => simp [Except.toOption]

theorem mapError_eq_error_iff (f : ε → δ) (x : Except ε α) (d : δ) :
    x.mapError f = .error d ↔ ∃ e, x = .error e ∧ f e = d := by
  cases x with
  | ok a => simp [mapError_ok]
  | error e =>
      change Except.error (f e) = Except.error d ↔ _
      simp

theorem map_eq_error_iff (f : α → β) (x : Except ε α) (e : ε) :
    x.map f = .error e ↔ x = .error e := by
  cases x with
  | ok a => simp [Except.map]
  | error other =>
      change Except.error other = Except.error e ↔ _
      rw [Except.error.injEq, Except.error.injEq]

theorem bind_eq_error_iff (x : Except ε α) (f : α → Except ε β) (e : ε) :
    x.bind f = .error e ↔ x = .error e ∨ ∃ a, x = .ok a ∧ f a = .error e := by
  cases x with
  | ok a =>
      change f a = Except.error e ↔ _
      simp
  | error other =>
      change Except.error other = Except.error e ↔ _
      simp

theorem exists_of_isOk {x : Except ε α} (ok : x.isOk = true) : ∃ a, x = .ok a := by
  cases x with
  | ok a => exact ⟨a, rfl⟩
  | error e => cases ok

/-- The first element of a list whose computation fails, and how it fails. -/
def FirstFailure (run : α → Except ε β) (xs : List α) (x : α) (e : ε) : Prop :=
  ∃ before after, xs = before ++ x :: after ∧ (∀ y ∈ before, ∃ b, run y = .ok b) ∧ run x = .error e

theorem FirstFailure.mem {run : α → Except ε β} {xs : List α} {x : α} {e : ε}
    (first : FirstFailure run xs x e) : x ∈ xs := by
  obtain ⟨before, after, rfl, _⟩ := first
  simp

theorem FirstFailure.failed {run : α → Except ε β} {xs : List α} {x : α} {e : ε}
    (first : FirstFailure run xs x e) : run x = .error e := by
  obtain ⟨_, _, _, _, failed⟩ := first
  exact failed

theorem not_firstFailure_nil (run : α → Except ε β) (x : α) (e : ε) :
    ¬ FirstFailure run [] x e := by
  rintro ⟨before, after, split, _⟩
  cases before <;> cases split

theorem firstFailure_cons_iff (run : α → Except ε β) (y : α) (ys : List α) (x : α) (e : ε) :
    FirstFailure run (y :: ys) x e ↔
      (x = y ∧ run y = .error e) ∨ ((∃ b, run y = .ok b) ∧ FirstFailure run ys x e) := by
  constructor
  · rintro ⟨before, after, split, passed, failed⟩
    cases before with
    | nil =>
      obtain ⟨rfl, rfl⟩ := List.cons.inj split
      exact .inl ⟨rfl, failed⟩
    | cons first before =>
      obtain ⟨rfl, rfl⟩ := List.cons.inj split
      refine .inr ⟨passed y (by simp), before, after, rfl, ?_, failed⟩
      intro other member
      exact passed other (by simp [member])
  · rintro (⟨rfl, failed⟩ | ⟨first, before, after, rfl, passed, failed⟩)
    · exact ⟨[], ys, rfl, by simp, failed⟩
    · refine ⟨y :: before, after, rfl, ?_, failed⟩
      intro other member
      rcases List.mem_cons.mp member with rfl | later
      · exact first
      · exact passed other later

theorem firstFailure_singleton_iff (run : α → Except ε β) (y x : α) (e : ε) :
    FirstFailure run [y] x e ↔ x = y ∧ run y = .error e := by
  simp [firstFailure_cons_iff, not_firstFailure_nil]

theorem exists_firstFailure {run : α → Except ε β} {xs : List α} {x : α} {e : ε} (member : x ∈ xs)
    (failed : run x = .error e) : ∃ y d, FirstFailure run xs y d := by
  induction xs with
  | nil => cases member
  | cons y ys ih =>
    simp only [firstFailure_cons_iff]
    cases result : run y with
    | error d => exact ⟨y, d, .inl ⟨rfl, rfl⟩⟩
    | ok b =>
      rcases List.mem_cons.mp member with rfl | later
      · rw [result] at failed
        cases failed
      · obtain ⟨z, d, first⟩ := ih later
        exact ⟨z, d, .inr ⟨⟨b, rfl⟩, first⟩⟩

theorem firstFailure_mapError_iff (run : α → Except ε β) (f : ε → δ) (xs : List α) (x : α)
    (d : δ) : FirstFailure (fun y => (run y).mapError f) xs x d ↔
      ∃ e, FirstFailure run xs x e ∧ f e = d := by
  simp only [FirstFailure, mapError_eq_ok_iff, mapError_eq_error_iff]
  constructor
  · rintro ⟨before, after, split, passed, e, failed, same⟩
    exact ⟨e, ⟨before, after, split, passed, failed⟩, same⟩
  · rintro ⟨e, ⟨before, after, split, passed, failed⟩, same⟩
    exact ⟨before, after, split, passed, e, failed, same⟩

/-- Only the failures of a computation matter. -/
theorem FirstFailure.of_same_errors {γ : Type} {run : α → Except ε β} {other : α → Except ε γ}
    (same : ∀ x e, run x = .error e ↔ other x = .error e) {xs : List α} {x : α} {e : ε}
    (first : FirstFailure run xs x e) : FirstFailure other xs x e := by
  obtain ⟨before, after, split, passed, failed⟩ := first
  refine ⟨before, after, split, ?_, (same x e).mp failed⟩
  intro y member
  obtain ⟨b, passes⟩ := passed y member
  cases result : other y with
  | ok c => exact ⟨c, rfl⟩
  | error d =>
    rw [(same y d).mpr result] at passes
    cases passes

end Except

namespace Logged

variable {α β : Type}

@[simp] theorem value_pure (a : α) : (pure a).value = a := rfl

@[simp] theorem value_map (f : α → β) (x : Logged α) : (x.map f).value = f x.value := rfl

end Logged

end RecordSchema
