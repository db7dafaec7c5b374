import RecordSchema.Proofs.Compiler.Coherence

set_option autoImplicit false

/-!
The namespaces and the bindings that are left by a run over all classes of a list. They depend on
which classes are in the list and on nothing else.
-/

namespace RecordSchema

namespace NamespaceTree

/-- Trees with the same paths of names, and under each path the same names of children and the same
bindings. Nodes may be numbered differently. -/
structure SameByPath (t other : NamespaceTree) : Prop where
  paths : ∀ names, (∃ node, t.Leads names node) ↔ ∃ node, other.Leads names node
  children : ∀ names node otherNode, t.Leads names node → other.Leads names otherNode →
    (t.get node).children.keys = (other.get otherNode).children.keys
  bindings : ∀ names node otherNode, t.Leads names node → other.Leads names otherNode →
    (t.get node).bindings = (other.get otherNode).bindings

theorem Leads.isSome_child {t : NamespaceTree} {names : List String} {node : Nat}
    (leads : t.Leads names node) (name : String) :
    ((t.get node).children.get? name).isSome ↔ ∃ below, t.Leads (names ++ [name]) below := by
  rw [Option.isSome_iff_exists]
  constructor
  · rintro ⟨below, known⟩
    exact ⟨below, (leads_concat t names name below).mpr ⟨node, leads, known⟩⟩
  · rintro ⟨below, down⟩
    obtain ⟨parent, above, known⟩ := (leads_concat t names name below).mp down
    obtain rfl : node = parent := Option.some.inj (leads.symm.trans above)
    exact ⟨below, known⟩

theorem children_eq_of_paths {t other : NamespaceTree}
    (paths : ∀ names, (∃ node, t.Leads names node) ↔ ∃ node, other.Leads names node)
    {names : List String} {node otherNode : Nat} (leads : t.Leads names node)
    (otherLeads : other.Leads names otherNode) :
    (t.get node).children.keys = (other.get otherNode).children.keys := by
  apply KeyMap.keys_eq_of_isSome
  intro name
  rw [Bool.eq_iff_iff, leads.isSome_child, otherLeads.isSome_child]
  exact paths (names ++ [name])

end NamespaceTree

theorem Registration.isSome_bindingsAfter (start : Nat → KeyMap String) (made : List Registration)
    (node : Nat) (name : String) :
    ((bindingsAfter start made node).get? name).isSome ↔ ((start node).get? name).isSome ∨
      ∃ r ∈ made, r.node = node ∧ r.model.className = name := by
  induction made using List.reverseRecOn with
  | nil => simp [bindingsAfter]
  | append_singleton made r ih =>
    rw [bindingsAfter_append]
    simp only [bindingsAfter, List.foldl_cons, List.foldl_nil, Function.update_apply] at ih ⊢
    by_cases here : node = r.node
    · subst here
      by_cases same : name = r.model.className
      · simp [same]
      · simp [same, Ne.symm same, ih]
    · simp [here, Ne.symm here, ih]

namespace Scope

variable {policy : ArrayNilPolicy} {sites : List ClassSite} {s later : Scope}
  {made : List Registration}

theorem Run.path_of_leads (run : Run policy 0 sites s made later) (well : s.tree.WellFormed)
    {names : List String} {node : Nat} (leads : later.tree.Leads names node) :
    s.tree.Leads names node ∨ ∃ site ∈ sites, names <+: site.names := by
  induction run with
  | refl => exact .inl leads
  | enter before above _ name leadsAbove toward ih =>
    have kept := before.wellFormed well well.rooted
    rcases NamespaceTree.leads_of_findOrCreate kept leadsAbove leads with old | ⟨rfl, _⟩
    · exact ih old
    · obtain ⟨site, member, first, start, named⟩ := toward
      -- Names in front of a class are the names of its first steps.
      refine .inr ⟨site, member, ?_⟩
      rw [← filterMap_name named]
      exact start.filterMap _
  | register before r admitted ih =>
    obtain ⟨kept, left⟩ := before.leaves well.contained well.rooted
    have inside := admitted.inside kept (Nat.lt_of_lt_of_le well.rooted left.grown.size)
    rw [NamespaceTree.Leads, Scope.register, NamespaceTree.descendTo?_bind r.node inside] at leads
    exact ih leads

theorem Leaves.leads_site (leaves : Leaves policy 0 s made later) {r : Registration}
    (member : r ∈ made) : later.tree.Leads r.site.names r.node := by
  obtain ⟨before, after, split⟩ := List.append_of_mem member
  obtain ⟨names, named, leads⟩ := (leaves.admitted before r after split).placed
  rw [ClassSite.names, filterMap_name named]
  exact leads

theorem Run.leads_iff (run : Run policy 0 sites s made later) (well : s.tree.WellFormed)
    (all : made.map Registration.site = sites) (names : List String) :
    (∃ node, later.tree.Leads names node) ↔
      (∃ node, s.tree.Leads names node) ∨ ∃ site ∈ sites, names <+: site.names := by
  obtain ⟨_, leaves⟩ := run.leaves well.contained well.rooted
  constructor
  · rintro ⟨node, leads⟩
    exact (run.path_of_leads well leads).imp_left fun old => ⟨node, old⟩
  · rintro (⟨node, old⟩ | ⟨site, member, more, path⟩)
    · exact ⟨node, leaves.grown.descends old⟩
    · rw [← all] at member
      obtain ⟨r, registered, rfl⟩ := List.mem_map.mp member
      have down := leaves.leads_site registered
      rw [← path, NamespaceTree.Leads, NamespaceTree.descendTo?_append] at down
      obtain ⟨node, leads, _⟩ := Option.bind_eq_some_iff.mp down
      exact ⟨node, leads⟩

theorem Admits.className_eq {origin : Nat} {r : Registration}
    (admitted : s.Admits policy origin r) :
    r.model.className = r.site.className := by
  have built := admitted.built
  rw [modelAt, Compilation.buildModel_eq] at built
  obtain ⟨className, valid, _, _, _, same⟩ := (modelIn_eq_ok_iff ..).mp built
  obtain ⟨_, trimmed, _⟩ := (Definition.validClassName_eq_ok_iff ..).mp valid
  rw [← same]
  exact trimmed

theorem Leaves.className_eq (leaves : Leaves policy 0 s made later) {r : Registration}
    (member : r ∈ made) : r.model.className = r.site.className := by
  obtain ⟨before, after, split⟩ := List.append_of_mem member
  exact (leaves.admitted before r after split).className_eq

theorem Run.bound_iff (run : Run policy 0 sites s made later) (well : s.tree.WellFormed)
    (all : made.map Registration.site = sites) {names : List String} {node : Nat}
    (leads : later.tree.Leads names node) (className : String) :
    ((later.tree.get node).bindings.get? className).isSome ↔
      ((s.tree.get node).bindings.get? className).isSome ∨
        ∃ site ∈ sites, site.names = names ∧ site.className = className := by
  obtain ⟨_, leaves⟩ := run.leaves well.contained well.rooted
  rw [leaves.bindings, Registration.isSome_bindingsAfter, ← all]
  refine or_congr_right ⟨?_, ?_⟩
  · -- Two paths to one node are the same.
    rintro ⟨r, member, rfl, rfl⟩
    refine ⟨r.site, List.mem_map_of_mem member, ?_, (leaves.className_eq member).symm⟩
    exact (leaves.leads_site member).unique (run.wellFormed well well.rooted) leads
  · rintro ⟨site, member, rfl, rfl⟩
    obtain ⟨r, registered, rfl⟩ := List.mem_map.mp member
    have here := leaves.leads_site registered
    exact ⟨r, registered, Option.some.inj (here.symm.trans leads), leaves.className_eq registered⟩

/-- Two runs from the bare tree over all classes of lists with the same members leave the same
namespaces. -/
theorem Run.sameByPath {context otherContext : TypeContext} {others : List ClassSite}
    {otherMade : List Registration} {otherLater : Scope}
    (run : Run policy 0 sites ⟨.empty, context⟩ made later)
    (otherRun : Run policy 0 others ⟨.empty, otherContext⟩ otherMade otherLater)
    (all : made.map Registration.site = sites) (otherAll : otherMade.map Registration.site = others)
    (same : ∀ site, site ∈ sites ↔ site ∈ others) : later.tree.SameByPath otherLater.tree := by
  have well : NamespaceTree.empty.WellFormed := NamespaceTree.wellFormed_empty
  have paths (names : List String) : (∃ node, later.tree.Leads names node) ↔
      ∃ node, otherLater.tree.Leads names node := by
    rw [run.leads_iff well all, otherRun.leads_iff well otherAll]
    simp only [same]
  refine ⟨paths, ?_, ?_⟩
  · intro names node otherNode leads otherLeads
    exact NamespaceTree.children_eq_of_paths paths leads otherLeads
  · intro names node otherNode leads otherLeads
    have unbound (i : Nat) : (NamespaceTree.empty.get i).bindings = .empty := by
      rw [NamespaceTree.get_empty]
      rfl
    have bare (context : TypeContext) : Qualified ⟨.empty, context⟩ := by
      intro i name key bound
      simp [unbound] at bound
    have keyed := run.qualified well.contained well.rooted (bare context)
    have otherKeyed := otherRun.qualified well.contained well.rooted (bare otherContext)
    apply KeyMap.ext_get?
    intro className
    -- The same class names are bound, and a bound name has the key that the path gives it.
    have names : ((later.tree.get node).bindings.get? className).isSome ↔
        ((otherLater.tree.get otherNode).bindings.get? className).isSome := by
      rw [run.bound_iff well all leads, otherRun.bound_iff well otherAll otherLeads]
      simp only [same, unbound]
    cases bound : (later.tree.get node).bindings.get? className with
    | none =>
      rw [bound] at names
      exact (Option.not_isSome_iff_eq_none.mp (mt names.mpr (by simp))).symm
    | some key =>
      obtain ⟨otherKey, otherBound⟩ := Option.isSome_iff_exists.mp (names.mp (by simp [bound]))
      rw [otherBound, keyed node className key bound, otherKeyed otherNode className _ otherBound,
        leads.qualifiedName (run.wellFormed well well.rooted),
        otherLeads.qualifiedName (otherRun.wellFormed well well.rooted)]

end Scope

end RecordSchema
