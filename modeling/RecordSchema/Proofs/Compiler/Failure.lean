import RecordSchema.Proofs.Compiler.Requests

set_option autoImplicit false

/-!
What a failed compilation leaves: the classes before the one that is refused are registered, and no
other, so none around it.
-/

namespace RecordSchema

mutual

/-- The classes of a definition in the order of compilation, each with those around it. -/
def Definition.enclosed (around : List ClassSite) (above : List NamespaceStep) :
    Definition → List (ClassSite × List ClassSite)
  | ⟨schemaName, version, nested, className, properties⟩ =>
      let d : Definition := ⟨schemaName, version, nested, className, properties⟩
      let own : ClassSite := ⟨above ++ d.steps, d⟩
      Definition.allEnclosed (own :: around) (above ++ d.steps) nested ++ [(own, around)]

def Definition.allEnclosed (around : List ClassSite) (above : List NamespaceStep) :
    List Definition → List (ClassSite × List ClassSite)
  | [] => []
  | d :: rest => d.enclosed around above ++ Definition.allEnclosed around above rest

end

mutual

theorem Definition.enclosed_classes (around : List ClassSite) (above : List NamespaceStep) :
    ∀ d : Definition, (d.enclosed around above).map Prod.fst = d.classes above
  | ⟨schemaName, version, nested, className, properties⟩ => by
    simp [Definition.enclosed, Definition.classes,
      Definition.allEnclosed_classes _ _ nested]

theorem Definition.allEnclosed_classes (around : List ClassSite) (above : List NamespaceStep) :
    ∀ ds : List Definition, (Definition.allEnclosed around above ds).map Prod.fst =
      Definition.allClasses above ds
  | [] => rfl
  | d :: rest => by
    simp [Definition.allEnclosed, Definition.allClasses, Definition.enclosed_classes _ _ d,
      Definition.allEnclosed_classes _ _ rest]

end

/-- In a list of classes with those around each, the ones around come later or are given. -/
def OutersLater (around : List ClassSite) (list : List (ClassSite × List ClassSite)) : Prop :=
  ∀ before site outers after, list = before ++ (site, outers) :: after →
    ∀ outer ∈ outers, outer ∈ around ∨ outer ∈ after.map Prod.fst

theorem OutersLater.append {around : List ClassSite} {list more : List (ClassSite × List ClassSite)}
    (first : OutersLater around list) (second : OutersLater around more) :
    OutersLater around (list ++ more) := by
  intro before site outers after split outer member
  -- The class at the split is one of the second list, or of the first with a part of that after it.
  rcases List.append_eq_append_iff.mp split with ⟨gap, _, later⟩ | ⟨gap, earlier, later⟩
  · exact second gap site outers after later outer member
  · cases gap with
    | nil => exact second [] site outers after later.symm outer member
    | cons own gap =>
      obtain ⟨rfl, rfl⟩ := List.cons.inj later
      rcases first before site outers gap earlier outer member with given | inner
      · exact .inl given
      · exact .inr (by simp [List.mem_map.mp inner])

theorem OutersLater.concat {own : ClassSite} {around : List ClassSite}
    {inner : List (ClassSite × List ClassSite)} (nested : OutersLater (own :: around) inner) :
    OutersLater around (inner ++ [(own, around)]) := by
  intro before site outers after split outer member
  -- The class around all others comes last, and itself has only the given ones around it.
  cases after using List.reverseRecOn with
  | nil =>
    obtain ⟨_, last⟩ := List.append_inj' split rfl
    obtain ⟨rfl, rfl⟩ : own = site ∧ around = outers := by simpa using last
    exact .inl member
  | append_singleton after last =>
    rw [← List.cons_append, ← List.append_assoc] at split
    obtain ⟨inside, same⟩ := List.append_inj' split rfl
    obtain rfl : (own, around) = last := by simpa using same
    rcases nested before site outers after inside outer member with given | later
    · rcases List.mem_cons.mp given with rfl | given
      · exact .inr (by simp)
      · exact .inl given
    · rw [List.map_append]
      exact .inr (List.mem_append_left _ later)

mutual

theorem Definition.outersLater_enclosed (around : List ClassSite) (above : List NamespaceStep) :
    ∀ d : Definition, OutersLater around (d.enclosed around above)
  | ⟨schemaName, version, nested, className, properties⟩ => by
    rw [Definition.enclosed]
    exact (Definition.outersLater_allEnclosed _ _ nested).concat

theorem Definition.outersLater_allEnclosed (around : List ClassSite) (above : List NamespaceStep) :
    ∀ ds : List Definition, OutersLater around (Definition.allEnclosed around above ds)
  | [] => by simp [OutersLater, Definition.allEnclosed]
  | d :: rest => by
    rw [Definition.allEnclosed]
    exact (Definition.outersLater_enclosed around above d).append
      (Definition.outersLater_allEnclosed around above rest)

end

namespace Compilation

def Request.enclosed (q : Request) : List (ClassSite × List ClassSite) :=
  q.definition.enclosed [] q.above

theorem Request.enclosed_classes (q : Request) : q.enclosed.map Prod.fst = q.classes :=
  Definition.enclosed_classes [] q.above q.definition

theorem perform_failed (c : Compilation) (contained : c.tree.Contained) (q : Request)
    (inside : q.origin < c.tree.size) {e : ModelError} (failed : (c.perform q).2 = .error e) :
    ∃ made site rest, q.classes = made.map Registration.site ++ site :: rest ∧
      Scope.Leaves q.policy q.origin c.scope made (c.perform q).1.scope ∧
      (c.perform q).1.scope.Refuses q.policy q.origin site e ∧
      ∃ outers, q.enclosed[made.length]? = some (site, outers) ∧ ∀ outer ∈ outers, outer ∈ rest := by
  obtain ⟨made, ends⟩ := c.perform_ends contained q inside
  rw [failed] at ends
  obtain ⟨_, leaves⟩ := ends.run.leaves contained inside
  cases ends with
  | stopped _ site rest split _ refused =>
    -- The refused class stands in the list with the classes around each where it stands in this.
    have all := q.enclosed_classes
    rw [split] at all
    obtain ⟨before, last, listed, earlier, others⟩ := List.map_eq_append_iff.mp all
    obtain ⟨⟨_, outers⟩, after, rfl, rfl, rfl⟩ := List.map_eq_cons_iff.mp others
    have length : made.length = before.length := by
      simpa using (congrArg List.length earlier).symm
    refine ⟨made, _, _, split, leaves, refused, outers, ?_, ?_⟩
    · rw [listed, length]
      simp
    · intro outer member
      have later := Definition.outersLater_enclosed [] q.above q.definition before _ outers after
        listed outer member
      simpa using later

end Compilation

end RecordSchema
