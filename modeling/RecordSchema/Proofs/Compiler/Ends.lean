import RecordSchema.Proofs.Compiler.Run

set_option autoImplicit false

/-!
Every compilation is a run that ends: it has registered all classes of its list, or those before
the first that is refused, and then fails for that reason.
-/

namespace RecordSchema

namespace Compilation

variable {policy : ArrayNilPolicy} {origin : Nat} {sites : List ClassSite}

theorem enter_eq_walk (c : Compilation) (segments : List String) :
    (c.enter segments).1.scope = ⟨(c.tree.walk 0 (segmentSteps segments)).1, c.context⟩ ∧
      (c.enter segments).2 =
        (c.tree.walk 0 (segmentSteps segments)).2.mapError .invalidDefinition := by
  rw [← NamespaceTree.namespaceFor_eq_walk]
  exact ⟨rfl, rfl⟩

theorem descend_eq_walk (c : Compilation) (node : Nat) (d : Definition) :
    (c.descend node d).1.scope = ⟨(c.tree.walk node d.steps).1, c.context⟩ ∧
      (c.descend node d).2 = (c.tree.walk node d.steps).2.mapError .invalidDefinition := by
  unfold descend Definition.steps
  cases d.schemaName.bind Text.nonBlank? with
  | none =>
    unfold enterVersion
    cases d.version.bind Text.nonBlank? <;> exact ⟨rfl, rfl⟩
  | some schema =>
    simp only [Option.toList_some, List.map_cons, List.map_nil, List.cons_append, List.nil_append]
    cases named : Namespace.ident schema with
    | error fault =>
      have refused : (NamespaceStep.segment schema).name = .error fault := named
      rw [NamespaceTree.walk_of_refused refused]
      exact ⟨rfl, rfl⟩
    | ok name =>
      have own : (NamespaceStep.segment schema).name = .ok name := named
      rw [NamespaceTree.walk_of_named own]
      unfold enterVersion
      cases d.version.bind Text.nonBlank? <;> exact ⟨rfl, rfl⟩

theorem compile_eq (policy : ArrayNilPolicy) (c : Compilation) (node : Nat) (d : Definition) :
    compile policy c node d =
      match c.descend node d with
      | (c, .error e) => (c, .error e)
      | (c, .ok node) =>
          match compileAll policy c node d.nested with
          | (c, some e) => (c, .error e)
          | (c, none) =>
              match c.buildModel policy node d with
              | .error e => (c, .error e)
              | .ok m => (c.register node m, .ok m) := by
  cases d
  exact compile.eq_def ..

end Compilation

section Walking

variable (policy : ArrayNilPolicy) {origin : Nat} {sites : List ClassSite} {t : NamespaceTree}

theorem Scope.walk_run (context : TypeContext) {site : ClassSite} (listed : site ∈ sites)
    (contained : t.Contained) (inside : origin < t.size) {passed : List NamespaceStep}
    {names : List String} {node : Nat} (named : Named passed names)
    (leads : t.descendTo? origin names = some node) (steps : List NamespaceStep)
    (toward : passed ++ steps <+: site.steps) :
    Scope.Run policy origin sites ⟨t, context⟩ [] ⟨(t.walk node steps).1, context⟩ := by
  induction steps generalizing t passed names node with
  | nil => exact .refl
  | cons step rest ih =>
    cases own : step.name with
    | error fault =>
      rw [NamespaceTree.walk_of_refused own]
      exact .refl
    | ok name =>
      rw [NamespaceTree.walk_of_named own]
      have below := contained.inside inside leads
      have namedStep : Named (passed ++ [step]) (names ++ [name]) :=
        named_append named (.cons own .nil)
      have prefixes : (passed ++ [step]) ++ rest <+: site.steps := by simpa using toward
      have first : Scope.Run policy origin sites ⟨t, context⟩ []
          ⟨(t.findOrCreate node name).1, context⟩ :=
        .enter .refl names node name leads
          ⟨site, listed, passed ++ [step], (List.prefix_append ..).trans prefixes, namedStep⟩
      have grown : t.size ≤ (t.findOrCreate node name).1.size :=
        (NamespaceTree.extends_findOrCreate below).size
      exact first.trans (ih (NamespaceTree.contained_findOrCreate contained below)
        (Nat.lt_of_lt_of_le inside grown) namedStep
        (NamespaceTree.descendTo?_findOrCreate below leads name) prefixes)

end Walking

namespace Compilation

def failure? : Except ModelError Model → Option ModelError
  | .ok _ => none
  | .error e => some e

variable (policy : ArrayNilPolicy) {origin : Nat}

theorem buildModel_ends (c : Compilation) {node : Nat} {steps : List NamespaceStep}
    {names : List String} (d : Definition) (named : Named steps names)
    (leads : c.tree.descendTo? origin names = some node) :
    (∀ m, c.buildModel policy node d = .ok m → Scope.Ends policy origin [⟨steps, d⟩] c.scope
      (c.register node m).scope [⟨⟨steps, d⟩, node, m⟩] none) ∧
    ∀ e, c.buildModel policy node d = .error e →
      Scope.Ends policy origin [⟨steps, d⟩] c.scope c.scope [] (some e) := by
  constructor
  · intro m built
    have run : Scope.Run policy origin [⟨steps, d⟩] c.scope [⟨⟨steps, d⟩, node, m⟩]
        (c.scope.register ⟨⟨steps, d⟩, node, m⟩) :=
      .register .refl _ ⟨⟨names, named, leads⟩, built⟩
    exact .finished run rfl
  · intro e refused
    exact .stopped .refl ⟨steps, d⟩ [] rfl e (.unbuilt names node e named leads refused)

-- The induction is on the definition. The origin stays where the whole compilation began, and each
-- class is found from there by its own steps in whatever the tree has grown to.
mutual

theorem compile_ends (c : Compilation) (contained : c.tree.Contained)
    (inside : origin < c.tree.size) {above : List NamespaceStep} {names : List String} {node : Nat}
    (named : Named above names) (leads : c.tree.descendTo? origin names = some node) :
    ∀ d : Definition, ∃ made, Scope.Ends policy origin (d.classes above) c.scope
      (compile policy c node d).1.scope made (failure? (compile policy c node d).2)
  | ⟨schemaName, version, nested, className, properties⟩ => by
    let d : Definition := ⟨schemaName, version, nested, className, properties⟩
    have own : (⟨above ++ d.steps, d⟩ : ClassSite) ∈ d.classes above := by
      rw [Definition.classes_eq]
      simp
    have entering := Scope.walk_run policy c.context own contained inside named leads d.steps
      (List.prefix_refl _)
    obtain ⟨scope, result⟩ := descend_eq_walk c node d
    rw [← scope] at entering
    rw [compile_eq]
    split
    next c' e failed =>
      rw [failed] at entering result
      obtain ⟨fault, refused, rfl⟩ := (mapError_eq_error_iff ..).mp result.symm
      obtain ⟨step, member, bad⟩ := NamespaceTree.refused_of_walk refused
      exact ⟨[], .of_unnamed entering (List.mem_append_right above member) bad⟩
    next c' last entered =>
      rw [entered] at entering result scope
      have tree : c'.tree = (c.tree.walk node d.steps).1 := congrArg Scope.tree scope
      obtain ⟨contained', grown, _, more, fresh, further⟩ :=
        NamespaceTree.entered_of_walk contained (contained.inside inside leads)
          ((mapError_eq_ok_iff ..).mp result.symm) tree
      have down : c'.tree.descendTo? origin (names ++ more) = some last := by
        rw [NamespaceTree.descendTo?_append, grown.descends leads]
        exact further
      have namedBelow := named_append named fresh
      have inside' := Nat.lt_of_lt_of_le inside grown.size
      obtain ⟨made, others⟩ := compileAll_ends c' contained' inside' namedBelow down nested
      rw [Definition.classes_eq] at entering ⊢
      split
      next c'' e failed =>
        rw [failed] at others
        exact ⟨made, (others.stopped_append _).after_entering entering⟩
      next c'' done =>
        rw [done] at others
        obtain ⟨_, kept⟩ := others.run.leaves contained' inside'
        obtain ⟨builds, refuses⟩ :=
          buildModel_ends policy c'' d namedBelow (kept.grown.descends down)
        split
        next e refused =>
          exact ⟨_, (others.append (refuses e refused)).after_entering entering⟩
        next m built =>
          exact ⟨_, (others.append (builds m built)).after_entering entering⟩

theorem compileAll_ends (c : Compilation) (contained : c.tree.Contained)
    (inside : origin < c.tree.size) {above : List NamespaceStep} {names : List String} {node : Nat}
    (named : Named above names) (leads : c.tree.descendTo? origin names = some node) :
    ∀ ds : List Definition, ∃ made, Scope.Ends policy origin (Definition.allClasses above ds)
      c.scope (compileAll policy c node ds).1.scope made (compileAll policy c node ds).2
  | [] => ⟨[], .finished .refl rfl⟩
  | d :: rest => by
    obtain ⟨made, first⟩ := compile_ends c contained inside named leads d
    obtain ⟨contained', left⟩ := first.run.leaves contained inside
    rw [compileAll, Definition.allClasses]
    split
    next c' e failed =>
      rw [failed] at first
      exact ⟨made, first.stopped_append _⟩
    next c' m compiled =>
      rw [compiled] at first contained' left
      obtain ⟨more, others⟩ := compileAll_ends c' contained'
        (Nat.lt_of_lt_of_le inside left.grown.size) named (left.grown.descends leads) rest
      exact ⟨made ++ more, first.append others⟩

end

theorem compileAt_ends (c : Compilation) (contained : c.tree.Contained) (inside : 0 < c.tree.size)
    (segments : List String) (d : Definition) :
    ∃ made, Scope.Ends policy 0 (d.classes (segmentSteps segments)) c.scope
      (c.compileAt policy segments d).1.scope made (failure? (c.compileAt policy segments d).2) := by
  have own : (⟨segmentSteps segments ++ d.steps, d⟩ : ClassSite) ∈
      d.classes (segmentSteps segments) := by
    rw [Definition.classes_eq]
    simp
  have entering := Scope.walk_run policy c.context own contained inside .nil rfl
    (segmentSteps segments) (List.prefix_append ..)
  obtain ⟨scope, result⟩ := enter_eq_walk c segments
  rw [← scope] at entering
  unfold compileAt
  split
  next c' e failed =>
    rw [failed] at entering result
    obtain ⟨fault, refused, rfl⟩ := (mapError_eq_error_iff ..).mp result.symm
    obtain ⟨step, member, bad⟩ := NamespaceTree.refused_of_walk refused
    exact ⟨[], .of_unnamed entering (List.mem_append_left d.steps member) bad⟩
  next c' node entered =>
    rw [entered] at entering result scope
    obtain ⟨contained', grown, _, names, named, down⟩ :=
      NamespaceTree.entered_of_walk contained inside ((mapError_eq_ok_iff ..).mp result.symm)
        (congrArg Scope.tree scope)
    obtain ⟨made, ends⟩ := compile_ends policy c' contained'
      (Nat.lt_of_lt_of_le inside grown.size) named down d
    exact ⟨made, ends.after_entering entering⟩

end Compilation

section Steps

variable {allowed : String → Prop}

def NamespaceStep.Within (allowed : String → Prop) : NamespaceStep → Prop
  | segment _ => True
  | version text => ∃ version, allowed version ∧ Text.isBlankText version = false ∧
      text = Text.trim version

theorem NamespaceStep.Within.namedBy {step : NamespaceStep} (within : step.Within allowed)
    {name : String} (named : step.name = .ok name) : NamedBy allowed name := by
  cases step with
  | segment text => exact .inl ⟨text, named⟩
  | version text =>
    obtain ⟨version, fits, filled, same⟩ := within
    have own : name = Namespace.versionSegment text := (Except.ok.inj named).symm
    exact .inr ⟨version, fits, filled, own.trans (congrArg Namespace.versionSegment same)⟩

theorem Definition.steps_within (d : Definition) (fits : ∀ version ∈ d.version, allowed version) :
    ∀ step ∈ d.steps, step.Within allowed := by
  intro step member
  rw [Definition.steps, List.mem_append, List.mem_map, List.mem_map] at member
  rcases member with ⟨schema, _, rfl⟩ | ⟨text, given, rfl⟩
  · exact trivial
  · obtain ⟨version, written, trimmed⟩ := Option.bind_eq_some_iff.mp (Option.mem_toList.mp given)
    refine ⟨version, fits version written, ?_, Text.eq_trim_of_nonBlank? trimmed⟩
    unfold Text.nonBlank? at trimmed
    split at trimmed
    next => cases trimmed
    next blank => simpa using blank

mutual

theorem Definition.classes_within {above : List NamespaceStep}
    (outer : ∀ step ∈ above, step.Within allowed) :
    ∀ d : Definition, (∀ version ∈ d.versions, allowed version) →
      ∀ site ∈ d.classes above, ∀ step ∈ site.steps, step.Within allowed
  | ⟨schemaName, version, nested, className, properties⟩, fits, site, member => by
    have own : ∀ v ∈ version, allowed v := fun v given =>
      fits v (by simp [Definition.versions, Option.mem_toList.mpr given])
    have below := List.forall_mem_append.mpr ⟨outer,
      Definition.steps_within ⟨schemaName, version, nested, className, properties⟩ own⟩
    rw [Definition.classes_eq] at member
    rcases List.mem_append.mp member with inner | last
    · exact Definition.allClasses_within below nested
        (fun v given => fits v (by simp [Definition.versions, given])) site inner
    · rw [List.mem_singleton.mp last]
      exact below

theorem Definition.allClasses_within {above : List NamespaceStep}
    (outer : ∀ step ∈ above, step.Within allowed) :
    ∀ ds : List Definition, (∀ version ∈ Definition.allVersions ds, allowed version) →
      ∀ site ∈ Definition.allClasses above ds, ∀ step ∈ site.steps, step.Within allowed
  | [], _, site, member => by simp [Definition.allClasses] at member
  | d :: rest, fits, site, member => by
    rw [Definition.allClasses] at member
    rcases List.mem_append.mp member with first | later
    · exact Definition.classes_within outer d
        (fun v given => fits v (by simp [Definition.allVersions, given])) site first
    · exact Definition.allClasses_within outer rest
        (fun v given => fits v (by simp [Definition.allVersions, given])) site later

end

theorem Scope.Run.steps {policy : ArrayNilPolicy} {origin : Nat} {sites : List ClassSite}
    {s later : Scope} {made : List Registration} (run : Scope.Run policy origin sites s made later)
    (contained : s.tree.Contained) (inside : origin < s.tree.size)
    (within : ∀ site ∈ sites, ∀ step ∈ site.steps, step.Within allowed) :
    Scope.Steps allowed s later := by
  apply run.preserve (Scope.Steps allowed s) ?_ ?_ contained inside .refl
  · rintro a node name below ⟨site, member, step, listed, named⟩ steps
    exact steps.tail (.enter a node name below ((within site member step listed).namedBy named))
  · intro a r below built steps
    exact steps.tail (.register a policy r.node r.site.definition r.model below built)

theorem Compilation.compileAt_steps (allowed : String → Prop) (policy : ArrayNilPolicy)
    (c : Compilation) (well : c.tree.WellFormed) (segments : List String) (d : Definition)
    (fits : ∀ version ∈ d.versions, allowed version) :
    Scope.Steps allowed c.scope (c.compileAt policy segments d).1.scope := by
  obtain ⟨made, ends⟩ := compileAt_ends policy c well.contained well.rooted segments d
  refine ends.run.steps well.contained well.rooted (Definition.classes_within ?_ d fits)
  intro step member
  obtain ⟨text, _, rfl⟩ := List.mem_map.mp member
  exact trivial

end Steps

end RecordSchema
