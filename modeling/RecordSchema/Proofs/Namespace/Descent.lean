import RecordSchema.Proofs.Namespace.Paths
import RecordSchema.Proofs.Namespace.Idents

set_option autoImplicit false

/-!
The names that lead from the root to a node. There is exactly one such list for each node, and
joined it is the node's qualified name.
-/

namespace RecordSchema.NamespaceTree

def Leads (t : NamespaceTree) (names : List String) (node : Nat) : Prop :=
  t.descendTo? 0 names = some node

instance (t : NamespaceTree) (names : List String) (node : Nat) : Decidable (t.Leads names node) :=
  inferInstanceAs (Decidable (t.descendTo? 0 names = some node))

theorem leads_concat (t : NamespaceTree) (names : List String) (name : String) (node : Nat) :
    t.Leads (names ++ [name]) node ↔
      ∃ parent, t.Leads names parent ∧ (t.get parent).children.get? name = some node :=
  descendTo?_concat t 0 names name node

variable {t : NamespaceTree}

theorem Leads.inside (well : t.WellFormed) {names : List String} {node : Nat}
    (leads : t.Leads names node) : node < t.size :=
  well.contained.inside well.rooted leads

theorem Leads.filled (well : t.WellFormed) {names : List String} {node : Nat}
    (leads : t.Leads names node) : ∀ name ∈ names, name ≠ "" := by
  induction names using List.reverseRecOn generalizing node with
  | nil => simp
  | append_singleton names name ih =>
      obtain ⟨parent, above, known⟩ := (leads_concat t names name node).mp leads
      intro other member
      rcases List.mem_append.mp member with old | new
      · exact ih above other old
      · exact List.mem_singleton.mp new ▸ (well.isChild parent name node known).filled

theorem Leads.qualifiedName (well : t.WellFormed) {names : List String} {node : Nat}
    (leads : t.Leads names node) : (t.get node).qualifiedName = joined names := by
  induction names using List.reverseRecOn generalizing node with
  | nil =>
      cases leads
      simpa using well.rootQualified
  | append_singleton names name ih =>
      obtain ⟨parent, above, known⟩ := (leads_concat t names name node).mp leads
      rw [(well.isChild parent name node known).qualified, ih above,
        joined_concat names name (above.filled well)]

theorem Leads.unique (well : t.WellFormed) {names others : List String} {node : Nat}
    (leads : t.Leads names node) (also : t.Leads others node) : names = others := by
  induction names using List.reverseRecOn generalizing others node with
  | nil =>
      cases leads
      cases others using List.reverseRecOn with
      | nil => rfl
      | append_singleton others other =>
          obtain ⟨parent, _, known⟩ := (leads_concat t others other 0).mp also
          exact absurd (well.isChild parent other 0 known).later (by omega)
  | append_singleton names name ih =>
      obtain ⟨parent, above, known⟩ := (leads_concat t names name node).mp leads
      have child := well.isChild parent name node known
      cases others using List.reverseRecOn with
      | nil =>
          cases also
          exact absurd child.later (by omega)
      | append_singleton others other =>
          obtain ⟨parent', above', known'⟩ := (leads_concat t others other node).mp also
          have child' := well.isChild parent' other node known'
          -- A node records its parent and its name, so both last steps are the same.
          have sameParent : parent = parent' :=
            Option.some.inj (child.parentOf.symm.trans child'.parentOf)
          subst sameParent
          rw [ih above above', ← child.named, ← child'.named]

theorem exists_leads (well : t.WellFormed) (node : Nat) (inside : node < t.size) :
    ∃ names, t.Leads names node := by
  induction node using Nat.strong_induction_on with
  | _ node ih =>
      rcases Nat.eq_zero_or_pos node with rfl | positive
      · exact ⟨[], rfl⟩
      · obtain ⟨parent, name, known⟩ := well.linked node positive inside
        have child := well.isChild parent name node known
        obtain ⟨names, above⟩ := ih parent child.later (Nat.lt_trans child.later inside)
        exact ⟨names ++ [name], (leads_concat t names name node).mpr ⟨parent, above, known⟩⟩

theorem Leads.child {names : List String} {node : Nat} (leads : t.Leads names node) :
    ∀ name ∈ names, ∃ parent child, (t.get parent).children.get? name = some child := by
  induction names using List.reverseRecOn generalizing node with
  | nil => simp
  | append_singleton names name ih =>
      obtain ⟨parent, above, known⟩ := (leads_concat t names name node).mp leads
      intro other member
      rcases List.mem_append.mp member with old | new
      · exact ih above other old
      · rw [List.mem_singleton.mp new]
        exact ⟨parent, node, known⟩

/-- A path of names is new in a tree with one more namespace only if it is the path to that one. -/
theorem leads_of_findOrCreate {parent : Nat} {segment : String} (well : t.WellFormed)
    {above : List String} (leads : t.Leads above parent) {names : List String} {node : Nat}
    (found : (t.findOrCreate parent segment).1.Leads names node) :
    t.Leads names node ∨ (names = above ++ [segment] ∧ t.size ≤ node) := by
  induction names using List.reverseRecOn generalizing node with
  | nil => exact .inl found
  | append_singleton names name ih =>
    have inside := leads.inside well
    obtain ⟨middle, before, known⟩ := (leads_concat _ names name node).mp found
    rcases link_of_findOrCreate inside known with old | ⟨rfl, rfl, rfl, _⟩
    · -- A node with an old link is an old node, so the path to it is not the new one.
      have linked := t.inside_of_child old
      rcases ih before with kept | ⟨_, new⟩
      · exact .inl ((leads_concat t names name node).mpr ⟨middle, kept, old⟩)
      · omega
    · rcases ih before with kept | ⟨_, new⟩
      · rw [kept.unique well leads]
        exact .inr ⟨rfl, Nat.le_refl _⟩
      · omega

theorem find?_joined (names : List String) (filled : ∀ name ∈ names, name ≠ "")
    (closed : ∀ name ∈ names, Terminable name.toList) :
    t.find? (joined names) = t.descendTo? 0 names := by
  cases names using List.reverseRecOn with
  | nil => rfl
  | append_singleton names last =>
      have whole := ((terminable_iff last.toList).mp (closed last (by simp))).1
      have parts := separated_joined names last
        (fun name member => closed name (by simp [member])) whole
      have kept : ((names ++ [last]).map String.toList).filter (fun part => !part.isEmpty) =
          (names ++ [last]).map String.toList := by
        rw [List.filter_eq_self]
        intro part member
        obtain ⟨name, own, rfl⟩ := List.mem_map.mp member
        simpa using filled name own
      rw [find?, parts, kept, List.map_map]
      simp [Function.comp_def]

/-- Each name of a child can stand before a separator. -/
def Closed (t : NamespaceTree) : Prop :=
  ∀ parent name child, (t.get parent).children.get? name = some child → Terminable name.toList

theorem Closed.findOrCreate {parent : Nat} {segment : String} (closed : t.Closed)
    (inside : parent < t.size) (own : Terminable segment.toList) :
    (t.findOrCreate parent segment).1.Closed := by
  intro i name child known
  rcases link_of_findOrCreate inside known with old | ⟨_, rfl, _⟩
  · exact closed i name child old
  · exact own

theorem Closed.bind (closed : t.Closed) (id : Nat) (inside : id < t.size) (name key : String) :
    (t.bind id name key).Closed := by
  intro i other child known
  rw [children_bind id inside] at known
  exact closed i other child known

theorem Closed.names (closed : t.Closed) {names : List String} {node : Nat}
    (leads : t.Leads names node) : ∀ name ∈ names, Terminable name.toList := by
  intro name member
  obtain ⟨parent, child, known⟩ := leads.child name member
  exact closed parent name child known

theorem Closed.find? (closed : t.Closed) (well : t.WellFormed) {node : Nat}
    (inside : node < t.size) : t.find? (t.get node).qualifiedName = some node := by
  obtain ⟨names, leads⟩ := exists_leads well node inside
  rw [leads.qualifiedName well, find?_joined names (leads.filled well) (closed.names leads)]
  exact leads

/-- A text is looked up from what stands before its first separator. -/
theorem child_of_find? {text : String} {node : Nat} (found : t.find? text = some node)
    (split : hasSeparator text.toList = true) (filled : text.toList.head? ≠ some ':') :
    ∃ name child, Terminable name.toList ∧ (t.get 0).children.get? name = some child := by
  obtain ⟨first, rest, parts, closed, head⟩ := exists_separated_head text.toList split
  have start : first.isEmpty = false := by
    cases first with
    | nil => exact absurd head.symm filled
    | cons c first => rfl
  rw [find?, parts, List.filter_cons_of_pos (by simp [start]), List.map_cons, descendTo?] at found
  obtain ⟨child, known, _⟩ := Option.bind_eq_some_iff.mp found
  exact ⟨String.ofList first, child, by simpa using closed, known⟩

end RecordSchema.NamespaceTree
