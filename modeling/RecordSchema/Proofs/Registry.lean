import RecordSchema.Proofs.Scalar.Settings

set_option autoImplicit false

/-!
What all types of a registry have in common, and how registering another type or an alias keeps it.
-/

namespace RecordSchema.TypeRegistry

def All (P : Scalar → Prop) (r : TypeRegistry) : Prop := ∀ name s, r.get? name = some s → P s

variable {P : Scalar → Prop} {r : TypeRegistry} {s : Scalar}

theorem all_repoint (given : P s) (name : String) (aliases : List (String × String))
    {descriptors : KeyMap Scalar} (all : ∀ key t, descriptors.get? key = some t → P t) :
    ∀ key t, (repoint name s aliases descriptors).get? key = some t → P t := by
  unfold repoint
  induction aliases generalizing descriptors with
  | nil => exact all
  | cons e rest ih =>
    rw [List.foldl_cons]
    apply ih
    intro key t found
    split at found
    · rw [KeyMap.get?_insert] at found
      split at found
      · rw [← Option.some.inj found]
        exact given
      · exact all key t found
    · exact all key t found

theorem All.register (all : r.All P) (given : P s) (name : String) : (r.register name s).All P := by
  intro key t found
  simp only [get?, TypeRegistry.register, KeyMap.get?_insert] at found
  split at found
  · rw [← Option.some.inj found]
    exact given
  · exact all_repoint given name _ all key t found

theorem All.alias? (all : r.All P) (name target : String) {r' : TypeRegistry}
    (made : r.alias? name target = some r') : r'.All P := by
  obtain ⟨s, found, rfl⟩ := Option.map_eq_some_iff.mp made
  intro key t held
  simp only [get?, KeyMap.get?_insert] at held
  split at held
  · rw [← Option.some.inj held]
    exact all target s found
  · exact all key t held

theorem All.alias_getD (all : r.All P) (name target : String) :
    ((r.alias? name target).getD r).All P := by
  cases made : r.alias? name target with
  | none => exact all
  | some r' => exact all.alias? name target made

/-- The registry of the built-in types is made by registering them and by one alias. -/
theorem create_induction (σ : Store) {motive : TypeRegistry → Prop}
    (bare : ∀ date, (create σ).2.Holds date → motive ⟨.empty, .empty, date⟩)
    (register : ∀ r name b id, (create σ).2.Holds ⟨id, .builtIn b⟩ → motive r →
      motive (r.register name ⟨id, .builtIn b⟩))
    (addAlias : ∀ r, motive r →
      motive ((r.alias? "positive_integer" "PositiveInteger").getD r)) :
    motive (create σ).1 := by
  unfold create at *
  refine register _ _ _ _ ?_ (register _ _ _ _ ?_ (addAlias _ (register _ _ _ _ ?_
    (register _ _ _ _ ?_ (register _ _ _ _ ?_ (register _ _ _ _ ?_
      (register _ _ _ _ ?_ (bare _ ?_))))))))
  all_goals simp [Store.Holds, Store.create]

theorem builtIn_create (σ : Store) :
    (create σ).1.All fun s => ∃ b, s.kind = .builtIn b := by
  refine create_induction σ ?_ ?_ ?_
  · intro date _ name s found
    cases found
  · intro r name b id _ all
    exact all.register ⟨b, rfl⟩ name
  · intro r all
    exact all.alias_getD _ _

end RecordSchema.TypeRegistry
