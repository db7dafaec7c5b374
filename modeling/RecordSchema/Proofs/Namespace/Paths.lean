import RecordSchema.Proofs.Namespace.Growth

set_option autoImplicit false

/-!
Names that lead down from any node. Nothing is asked of a tree here but that its links stay within
it, so nodes may be unreachable from the root or share a qualified name.
-/

namespace RecordSchema.NamespaceTree

/-- Every link leads to a node of the tree, as in every tree that was grown from the empty one. -/
def Contained (t : NamespaceTree) : Prop :=
  ∀ parent name child, (t.get parent).children.get? name = some child → child < t.size

def OnlyAddsNodes (t later : NamespaceTree) : Prop :=
  ∀ parent name child, (later.get parent).children.get? name = some child →
    (t.get parent).children.get? name = some child ∨ t.size ≤ child

theorem WellFormed.contained {t : NamespaceTree} (well : t.WellFormed) : t.Contained :=
  fun parent name child known => (well.isChild parent name child known).inside

theorem OnlyAddsNodes.refl (t : NamespaceTree) : t.OnlyAddsNodes t := fun _ _ _ known => .inl known

theorem OnlyAddsNodes.trans {t u v : NamespaceTree} (first : t.OnlyAddsNodes u)
    (second : u.OnlyAddsNodes v) (grown : t.size ≤ u.size) : t.OnlyAddsNodes v := by
  intro parent name child known
  rcases second parent name child known with old | new
  · exact first parent name child old
  · exact .inr (Nat.le_trans grown new)

theorem descendTo?_append (t : NamespaceTree) (start : Nat) (names more : List String) :
    t.descendTo? start (names ++ more) =
      (t.descendTo? start names).bind fun node => t.descendTo? node more := by
  induction names generalizing start with
  | nil => rfl
  | cons name rest ih =>
      simp only [List.cons_append, descendTo?]
      cases (t.get start).children.get? name with
      | none => rfl
      | some child => exact ih child

theorem descendTo?_concat (t : NamespaceTree) (start : Nat) (names : List String) (name : String)
    (node : Nat) :
    t.descendTo? start (names ++ [name]) = some node ↔
      ∃ parent, t.descendTo? start names = some parent ∧
        (t.get parent).children.get? name = some node := by
  simp [descendTo?_append, descendTo?, Option.bind_eq_some_iff]

theorem Extends.descends {t later : NamespaceTree} (more : t.Extends later) {start node : Nat}
    {names : List String} (leads : t.descendTo? start names = some node) :
    later.descendTo? start names = some node := by
  induction names using List.reverseRecOn generalizing node with
  | nil => exact leads
  | append_singleton names name ih =>
    obtain ⟨parent, above, known⟩ := (descendTo?_concat t start names name node).mp leads
    exact (descendTo?_concat later start names name node).mpr
      ⟨parent, ih above, more.child _ _ _ known⟩

variable {t : NamespaceTree} {parent : Nat} {segment : String}

theorem Contained.inside (contained : t.Contained) {start node : Nat} (inside : start < t.size)
    {names : List String} (leads : t.descendTo? start names = some node) : node < t.size := by
  cases names using List.reverseRecOn with
  | nil =>
    cases leads
    exact inside
  | append_singleton names name =>
    obtain ⟨above, _, known⟩ := (descendTo?_concat t start names name node).mp leads
    exact contained above name node known

theorem contained_findOrCreate (contained : t.Contained) (inside : parent < t.size) :
    (t.findOrCreate parent segment).1.Contained := by
  intro i name child known
  have grown : t.size ≤ (t.findOrCreate parent segment).1.size := (extends_findOrCreate inside).size
  rcases link_of_findOrCreate inside known with old | ⟨_, _, new, size⟩
  · exact Nat.lt_of_lt_of_le (contained i name child old) grown
  · omega

theorem onlyAddsNodes_findOrCreate (inside : parent < t.size) :
    t.OnlyAddsNodes (t.findOrCreate parent segment).1 := by
  intro i name child known
  rcases link_of_findOrCreate inside known with old | ⟨_, _, new, _⟩
  · exact .inl old
  · exact .inr (Nat.le_of_eq new.symm)

theorem descendTo?_findOrCreate {start : Nat} {names : List String} (inside : parent < t.size)
    (leads : t.descendTo? start names = some parent) (name : String) :
    (t.findOrCreate parent name).1.descendTo? start (names ++ [name]) =
      some (t.findOrCreate parent name).2 :=
  (descendTo?_concat _ start names name _).mpr
    ⟨parent, (extends_findOrCreate inside).descends leads, child_findOrCreate inside⟩

theorem contained_bind (contained : t.Contained) (id : Nat) (inside : id < t.size)
    (name key : String) : (t.bind id name key).Contained := by
  intro i other child known
  rw [children_bind id inside] at known
  rw [size_bind]
  exact contained i other child known

theorem descendTo?_bind (id : Nat) (inside : id < t.size) (name key : String) (start : Nat)
    (names : List String) : (t.bind id name key).descendTo? start names = t.descendTo? start names := by
  induction names generalizing start with
  | nil => rfl
  | cons first rest ih => simp only [descendTo?, children_bind id inside, ih]

theorem onlyAddsNodes_bind (id : Nat) (inside : id < t.size) (name key : String) :
    t.OnlyAddsNodes (t.bind id name key) := by
  intro i other child known
  rw [children_bind id inside] at known
  exact .inl known

end RecordSchema.NamespaceTree
