import RecordSchema.Proofs.Namespace.Calls

set_option autoImplicit false

/-!
Names given again as texts. A name made of letters and numbers becomes itself, so the names on the
way to a node lead to it again. A capital that is written with marks is kept in a name and refused
in a text, so a path with such a name cannot be gone again; nothing is created in either case.
-/

namespace RecordSchema.NamespaceTree

/-- The texts that a call makes names of, as long as none is refused. -/
def Call.texts : Call → List String
  | .namespaceFor _ segments => segments.filterMap Text.nonBlank?
  | .bind _ _ _ => []

def Call.Names (call : Call) (name : String) : Prop :=
  ∃ text ∈ call.texts, Namespace.ident text = .ok name

variable {t : NamespaceTree}

section Origin

variable {i k : Nat} {name : String}

theorem link_of_perform {call : Call} (contained : t.Contained) (inside : call.node < t.size)
    (known : ((t.perform call).get i).children.get? name = some k) :
    (t.get i).children.get? name = some k ∨ call.Names name := by
  cases call with
  | bind node own key =>
    rw [perform, children_bind node inside] at known
    exact .inl known
  | namespaceFor node segments =>
    rw [perform, namespaceFor_eq_walk] at known
    -- Each link of the tree under way is an old one or is named by the call.
    let origin (a : NamespaceTree) : Prop := ∀ i name k,
      (a.get i).children.get? name = some k → (t.get i).children.get? name = some k ∨
        (Call.namespaceFor node segments).Names name
    have kept : origin (t.walk node (segmentSteps segments)).1 := by
      refine walk_preserve origin contained inside ?_ fun _ _ _ old => .inl old
      intro a parent other below listed before i name k known
      rcases link_of_findOrCreate below known with old | ⟨_, rfl, _⟩
      · exact before i name k old
      · obtain ⟨step, member, own⟩ := listed
        obtain ⟨text, filled, rfl⟩ := List.mem_map.mp member
        exact .inr ⟨text, filled, own⟩
    exact kept i name k known

theorem link_of_performAll (well : t.WellFormed) (closed : t.Closed) {calls : List Call}
    (hosts : t.Hosts calls) (known : ((t.performAll calls).get i).children.get? name = some k) :
    (t.get i).children.get? name = some k ∨ ∃ call ∈ calls, call.Names name := by
  induction calls generalizing t with
  | nil => exact .inl known
  | cons call rest ih =>
    obtain ⟨inside, others⟩ := hosts
    obtain ⟨well', closed'⟩ := kept_perform well closed inside
    rcases ih well' closed' others known with before | ⟨later, listed, own⟩
    · rcases link_of_perform well.contained inside before with old | own
      · exact .inl old
      · exact .inr ⟨call, List.mem_cons_self, own⟩
    · exact .inr ⟨later, List.mem_cons_of_mem _ listed, own⟩

end Origin

/-- Names that lead to a node are texts that lead to it, or one of them is refused. -/
theorem namespaceFor_of_leads {start node : Nat} {names : List String}
    (leads : t.descendTo? start names = some node)
    (named : ∀ name ∈ names, ∃ text, Namespace.ident text = .ok name) :
    (t.namespaceFor start names).1 = t ∧ ((t.namespaceFor start names).2 = .ok node ↔
      ∀ name ∈ names, ∀ c ∈ name.toList, Text.isAlphanumeric c = true) := by
  induction names generalizing start with
  | nil =>
    cases leads
    simp [namespaceFor]
  | cons name rest ih =>
    obtain ⟨child, known, below⟩ := Option.bind_eq_some_iff.mp leads
    obtain ⟨⟨text, own⟩, others⟩ := List.forall_mem_cons.mp named
    -- A name is refused or becomes itself, so the walk stops here or follows the old link.
    have again := Namespace.ident_again_iff own
    rw [namespaceFor, Namespace.nonBlank?_name own]
    dsimp only
    cases renamed : Namespace.ident name with
    | error fault =>
      have refused : ¬ ∀ c ∈ name.toList, Text.isAlphanumeric c = true := by
        intro letters
        rw [(again name).mpr ⟨letters, rfl⟩] at renamed
        cases renamed
      refine ⟨rfl, iff_of_false (by simp) fun letters => ?_⟩
      exact refused (letters name List.mem_cons_self)
    | ok other =>
      obtain ⟨letters, rfl⟩ := (again other).mp renamed
      dsimp only
      rw [findOrCreate_of_some known, List.forall_mem_cons, and_iff_right letters]
      exact ih below others

theorem names_lead_again_iff (segment name : String) (calls : List Call)
    (accepted : Namespace.ident segment = .ok name) (hosts : empty.Hosts calls) :
    (name.toList.head?.any Text.isAlphabetic = true ∧
      (∀ c ∈ name.toList, Text.isWordChar c = true) ∧
      ((∀ c ∈ name.toList, Text.isAlphanumeric c = true) ↔
        ∀ c ∈ Namespace.initials segment.toList, c.toNat ∉ Text.markedCapitals) ∧
      ∀ again, Namespace.ident name = .ok again ↔
        (∀ c ∈ name.toList, Text.isAlphanumeric c = true) ∧ again = name) ∧
    let t := empty.performAll calls
    ∀ node < t.size, (∃ names, t.Leads names node) ∧ ∀ names, t.Leads names node →
      (∀ name ∈ names, ∃ call ∈ calls, call.Names name) ∧
      (t.namespaceFor 0 names).1 = t ∧
      ((t.namespaceFor 0 names).2 = .ok node ↔
        ∀ name ∈ names, ∀ c ∈ name.toList, Text.isAlphanumeric c = true) := by
  constructor
  · obtain ⟨named, start⟩ := Namespace.ident_eq_ok_iff.mp accepted
    exact ⟨start, Namespace.isWordChar_of_named named, Namespace.isAlphanumeric_named_iff named,
      Namespace.ident_again_iff accepted⟩
  · intro t node inside
    obtain ⟨well, _, _⟩ := kept_performAll wellFormed_empty closed_empty calls hosts
    refine ⟨exists_leads well node inside, fun names leads => ?_⟩
    have given : ∀ name ∈ names, ∃ call ∈ calls, call.Names name := by
      intro name member
      obtain ⟨parent, child, known⟩ := leads.child name member
      rcases link_of_performAll wellFormed_empty closed_empty hosts known with old | own
      · rw [get_empty] at old
        cases old
      · exact own
    refine ⟨given, namespaceFor_of_leads leads fun name member => ?_⟩
    obtain ⟨_, _, text, _, own⟩ := given name member
    exact ⟨text, own⟩

/-- A small iota with two marks, for which there is one code, and its capital, for which there is
none. -/
def markedIota : String := "\u0390"

def markedCapitalIota : String := "\u0399\u0308\u0301"

/-- A name of letters, and below it one with marks. -/
def coastCalls : List Call := [.namespaceFor 0 ["north sea", markedIota]]

theorem names_lead_again_iff_coast :
    Namespace.ident "north sea" = .ok "NorthSea" ∧
      Namespace.ident "NorthSea" = .ok "NorthSea" ∧
      empty.Hosts coastCalls ∧
      let t := empty.performAll coastCalls
      t.Leads ["NorthSea"] 1 ∧ (t.namespaceFor 0 ["NorthSea"]).2 = .ok 1 ∧
        t.Leads ["NorthSea", markedCapitalIota] 2 ∧
        (t.namespaceFor 0 ["NorthSea", markedCapitalIota]).2 ≠ .ok 2 := by
  have named : Namespace.ident "north sea" = .ok "NorthSea" := by decide +kernel
  have hosts : empty.Hosts coastCalls := ⟨by decide, trivial⟩
  have letters : ∀ c ∈ "NorthSea".toList, Text.isAlphanumeric c = true :=
    List.all_eq_true.mp (by decide +kernel)
  obtain ⟨⟨_, _, _, again⟩, paths⟩ :=
    names_lead_again_iff "north sea" "NorthSea" coastCalls named hosts
  have upper : (empty.performAll coastCalls).Leads ["NorthSea"] 1 := by decide +kernel
  have lower : (empty.performAll coastCalls).Leads ["NorthSea", markedCapitalIota] 2 := by
    decide +kernel
  obtain ⟨_, _, upperAgain⟩ := (paths 1 (by decide +kernel)).2 _ upper
  obtain ⟨_, _, lowerAgain⟩ := (paths 2 (by decide +kernel)).2 _ lower
  refine ⟨named, (again "NorthSea").mpr ⟨letters, rfl⟩, hosts, upper,
    upperAgain.mpr (List.forall_mem_singleton.mpr letters), lower, fun reached => ?_⟩
  have mark := lowerAgain.mp reached markedCapitalIota (by simp) '\u0308' (by decide +kernel)
  exact absurd mark (by decide +kernel)

theorem marked_capital_refused :
    Namespace.ident markedIota = .ok markedCapitalIota ∧
      Text.isAlphanumeric '\u0308' = false ∧
      Namespace.ident markedCapitalIota =
        .error (.segmentCharacter markedCapitalIota '\u0308') ∧
      let t := (empty.namespaceFor 0 [markedIota]).1
      t.Leads [markedCapitalIota] 1 ∧ t.namespaceFor 0 [markedCapitalIota] =
        (t, .error (.segmentCharacter markedCapitalIota '\u0308')) := by
  have named : Namespace.ident markedIota = .ok markedCapitalIota := by decide +kernel
  have leads : (empty.namespaceFor 0 [markedIota]).1.Leads [markedCapitalIota] 1 := by
    decide +kernel
  have unchanged := namespaceFor_of_leads leads fun name member =>
    ⟨markedIota, List.mem_singleton.mp member ▸ named⟩
  exact ⟨named, by decide +kernel, by decide +kernel, leads,
    Prod.ext unchanged.1 (by decide +kernel)⟩

end RecordSchema.NamespaceTree
