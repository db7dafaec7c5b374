import RecordSchema.Proofs.Compiler.Coherence

set_option autoImplicit false

/-!
Keys as names of classes. Keys are joined texts, and of the texts that are joined only versions are
taken as they are. Keys tell classes apart in every run exactly when no version holds a separator or
ends with its first half.
-/

namespace RecordSchema

namespace Compilation

structure Call where
  policy : ArrayNilPolicy
  segments : List String
  definition : Definition

/-- Calls of the compiler one after the other; those that fail leave what they have done. -/
def run (c : Compilation) (calls : List Call) : Compilation :=
  calls.foldl (fun c call => (c.compileAt call.policy call.segments call.definition).1) c

def Call.Within (allowed : String → Prop) (call : Call) : Prop :=
  ∀ version ∈ call.definition.versions, allowed version

/-- No two bindings share a key, and every model is found by its namespace. -/
structure KeysIdentify (c : Compilation) : Prop where
  bindings : ∀ node name other otherName key, (c.tree.get node).bindings.get? name = some key →
    (c.tree.get other).bindings.get? otherName = some key → node = other ∧ name = otherName
  found : ∀ key m, c.context.get? key = some (.model m) → m.qualifiedName = key ∧
    ∃ node, c.tree.find? m.namespaceName = some node ∧
      (c.tree.get node).bindings.get? m.className = some key

end Compilation

namespace Scope

structure Keyed (s : Scope) : Prop where
  closed : ∀ parent name child, (s.tree.get parent).children.get? name = some child →
    Terminable name.toList
  bound : ∀ node name key, (s.tree.get node).bindings.get? name = some key →
    hasSeparator name.toList = false ∧ key = qualify (s.tree.get node).qualifiedName name
  held : ∀ key m, s.context.get? key = some (.model m) → m.qualifiedName = key ∧
    ∃ node, m.namespaceName = (s.tree.get node).qualifiedName ∧
      (s.tree.get node).bindings.get? m.className = some key

variable {allowed : String → Prop} {s later : Scope}

theorem Keyed.qualified (keyed : s.Keyed) : s.Qualified :=
  fun node name key bound => (keyed.bound node name key bound).2

theorem Keyed.enter (keyed : s.Keyed) (node : Nat) (name : String) (inside : node < s.tree.size)
    (closed : Terminable name.toList) : (s.enter node name).Keyed := by
  refine ⟨?_, ?_, Homed.enter keyed.held inside name⟩
  · exact NamespaceTree.Closed.findOrCreate keyed.closed inside closed
  · intro other className key bound
    have old := bound
    rw [Scope.enter, NamespaceTree.bindings_findOrCreate inside] at old
    exact ⟨(keyed.bound other className key old).1,
      keyed.qualified.enter inside name other className key bound⟩

theorem Keyed.register (keyed : s.Keyed) {policy : ArrayNilPolicy} {r : Registration}
    (inside : r.node < s.tree.size)
    (built : s.modelAt policy r.node r.site.definition = .ok r.model) : (s.register r).Keyed := by
  obtain ⟨whole, _⟩ := modelAt_names built
  refine ⟨?_, ?_, Homed.register keyed.held keyed.qualified inside built⟩
  · exact NamespaceTree.Closed.bind keyed.closed r.node inside _ _
  · intro other name key bound
    refine ⟨?_, keyed.qualified.register inside built other name key bound⟩
    rw [Scope.register, NamespaceTree.binding_bind r.node inside] at bound
    split at bound
    next here =>
      rw [here.2, ← Bool.not_eq_true, hasSeparator_iff]
      exact whole
    next => exact (keyed.bound other name key bound).1

theorem Keyed.step (closed : ∀ name, NamedBy allowed name → Terminable name.toList)
    (step : Scope.Step allowed s later) (keyed : s.Keyed) : later.Keyed := by
  cases step with
  | enter node name inside named => exact keyed.enter node name inside (closed name named)
  | register policy node d m inside built =>
    exact Keyed.register (r := ⟨⟨[], d⟩, node, m⟩) keyed inside built

theorem Keyed.names_of_bound (well : s.tree.WellFormed) (keyed : s.Keyed) {node : Nat}
    {name key : String} (bound : (s.tree.get node).bindings.get? name = some key) :
    ∃ names, s.tree.Leads names node ∧ (∀ name ∈ names, Terminable name.toList) ∧
      hasSeparator name.toList = false ∧ key = joined (names ++ [name]) := by
  obtain ⟨names, leads⟩ := NamespaceTree.exists_leads well node (s.tree.inside_of_bound bound)
  obtain ⟨whole, qualified⟩ := keyed.bound node name key bound
  refine ⟨names, leads, NamespaceTree.Closed.names keyed.closed leads, whole, ?_⟩
  rw [qualified, leads.qualifiedName well, joined_concat names name (leads.filled well)]

theorem Keyed.identify (well : s.tree.WellFormed) (keyed : s.Keyed) {node other : Nat}
    {name otherName key : String} (bound : (s.tree.get node).bindings.get? name = some key)
    (otherBound : (s.tree.get other).bindings.get? otherName = some key) :
    node = other ∧ name = otherName := by
  obtain ⟨names, leads, closed, whole, own⟩ := keyed.names_of_bound well bound
  obtain ⟨others, otherLeads, otherClosed, otherWhole, otherOwn⟩ :=
    keyed.names_of_bound well otherBound
  obtain ⟨rfl, same⟩ := eq_of_joined_eq names others name otherName closed otherClosed whole
    otherWhole (own.symm.trans otherOwn)
  exact ⟨Option.some.inj (leads.symm.trans otherLeads), same⟩

theorem Keyed.find (well : s.tree.WellFormed) (keyed : s.Keyed) {key : String} {m : Model}
    (known : s.context.get? key = some (.model m)) :
    ∃ node, s.tree.find? m.namespaceName = some node ∧
      (s.tree.get node).bindings.get? m.className = some key := by
  obtain ⟨_, node, place, bound⟩ := keyed.held key m known
  refine ⟨node, ?_, bound⟩
  rw [place]
  exact NamespaceTree.Closed.find? keyed.closed well (s.tree.inside_of_bound bound)

theorem Keyed.same_class (well : s.tree.WellFormed) (keyed : s.Keyed)
    (laterWell : later.tree.WellFormed) (laterKeyed : later.Keyed) {key : String}
    {m other : Model} (known : s.context.get? key = some (.model m))
    (otherKnown : later.context.get? key = some (.model other)) :
    other.className = m.className ∧ other.namespaceName = m.namespaceName := by
  obtain ⟨_, node, place, bound⟩ := keyed.held key m known
  obtain ⟨_, home, homePlace, homeBound⟩ := laterKeyed.held key other otherKnown
  obtain ⟨names, leads, closed, whole, own⟩ := keyed.names_of_bound well bound
  obtain ⟨others, otherLeads, otherClosed, otherWhole, otherOwn⟩ :=
    laterKeyed.names_of_bound laterWell homeBound
  obtain ⟨rfl, same⟩ := eq_of_joined_eq names others m.className other.className closed
    otherClosed whole otherWhole (own.symm.trans otherOwn)
  rw [place, homePlace, leads.qualifiedName well, otherLeads.qualifiedName laterWell]
  exact ⟨same.symm, rfl⟩

end Scope

/-- Only the names of versions are not ruled out by their characters. -/
theorem NamedBy.terminable {allowed : String → Prop} {name : String}
    (named : NamedBy allowed name)
    (closed : ∀ version, allowed version → Terminable (Text.trim version).toList) :
    Terminable name.toList := by
  rcases named with ⟨segment, accepted⟩ | ⟨version, fits, _, rfl⟩
  · exact Namespace.terminable_ident accepted
  · exact (Namespace.terminable_versionSegment version).mpr (closed version fits)

namespace Compilation

variable {allowed : String → Prop}

theorem run_steps (c : Compilation) (well : c.tree.WellFormed) (calls : List Call)
    (fits : ∀ call ∈ calls, call.Within allowed) :
    Scope.Steps allowed c.scope (c.run calls).scope := by
  induction calls generalizing c with
  | nil => exact .refl
  | cons call rest ih =>
      have first := compileAt_steps allowed call.policy c well call.segments call.definition
        (fits call (by simp))
      have others := ih _ (first.grows well).1 fun other member => fits other (by simp [member])
      exact first.trans others

theorem keyed_start (r : TypeRegistry) : (start r.seedContext).scope.Keyed := by
  refine ⟨?_, ?_, (coherent_start r).homed⟩
  · intro parent name child known
    simp [scope, start, NamespaceTree.get_empty, Namespace.root] at known
  · intro node name key bound
    simp [scope, start, NamespaceTree.get_empty, Namespace.root] at bound

theorem keyed_run (r : TypeRegistry) (calls : List Call)
    (fits : ∀ call ∈ calls, call.Within allowed)
    (closed : ∀ version, allowed version → Terminable (Text.trim version).toList) :
    ((start r.seedContext).run calls).tree.WellFormed ∧
      ((start r.seedContext).run calls).scope.Keyed := by
  have well : (start r.seedContext).tree.WellFormed := NamespaceTree.wellFormed_empty
  have steps := run_steps (start r.seedContext) well calls fits
  refine ⟨(steps.grows well).1, steps.preserve Scope.Keyed ?_ well (keyed_start r)⟩
  intro a b _ step keyed
  exact keyed.step (fun name named => named.terminable closed) step

section Versioned

/-- A class in a schema of a version. -/
def versioned (version : String) : Definition :=
  ⟨none, some version, [⟨some "Geo", none, [], "Place", []⟩], "World", []⟩

def noTypes : TypeRegistry := ⟨.empty, .empty, ⟨0, .builtIn .date⟩⟩

variable {version trimmed : String}

theorem descend_versioned (filled : Text.nonBlank? version = some trimmed) :
    ∃ log, (start noTypes.seedContext).descend 0 (versioned version) =
      (⟨(NamespaceTree.empty.findOrCreate 0 (Namespace.versionSegment trimmed)).1,
        noTypes.seedContext, log⟩, .ok 1) := by
  refine ⟨[] ++ NamespaceTree.empty.creationLog
    (NamespaceTree.empty.findOrCreate 0 (Namespace.versionSegment trimmed)).1, ?_⟩
  simp only [descend, versioned, Option.bind_none, enterVersion, Option.bind_some, filled]
  rfl

theorem compileAll_versioned (version name : String) (log : List Event) :
    ∃ c, compileAll .wrapNil
        ⟨(NamespaceTree.empty.findOrCreate 0 name).1, noTypes.seedContext, log⟩ 1
        (versioned version).nested = (c, none) ∧
      c.tree.size = 3 ∧ (c.tree.get 0).children = KeyMap.empty.insert name 1 ∧
      (c.tree.get 1).qualifiedName = name ∧
      ∃ m, c.context.get? (qualify (qualify name "Geo") "Place") = some (.model m) ∧
        m.namespaceName = qualify name "Geo" :=
  ⟨_, rfl, rfl, rfl, rfl, _, (KeyMap.get?_insert ..).trans (if_pos rfl), rfl⟩

theorem qualify_inner_ne {name : String} (filled : name ≠ "") {className : String}
    (whole : ¬ separator.toList <:+: className.toList) :
    qualify (qualify name "Geo") "Place" ≠ qualify name className := by
  have inner : qualify name "Geo" ≠ "" := by
    intro blank
    have nothing := congrArg String.toList blank
    rw [toList_qualify filled] at nothing
    simp [separator] at nothing
  intro same
  have texts := congrArg String.toList same
  rw [toList_qualify inner, toList_qualify filled, toList_qualify filled, List.append_assoc,
    List.append_assoc] at texts
  have rest := List.append_cancel_left (List.append_cancel_left texts)
  rw [← rest] at whole
  exact whole ⟨"Geo".toList, "Place".toList, by rw [List.append_assoc]⟩

theorem run_versioned (filled : Text.nonBlank? version = some trimmed) :
    let c := (start noTypes.seedContext).run [⟨.wrapNil, [], versioned version⟩]
    (∀ name child, (c.tree.get 0).children.get? name = some child →
      name = Namespace.versionSegment trimmed) ∧
    ∃ key m, c.context.get? key = some (.model m) ∧
      m.namespaceName = qualify (Namespace.versionSegment trimmed) "Geo" := by
  intro c
  obtain ⟨log, descended⟩ := descend_versioned filled
  obtain ⟨inner, compiled, size, children, place, m, known, home⟩ :=
    compileAll_versioned version (Namespace.versionSegment trimmed) log
  have root : ∀ name child, (inner.tree.get 0).children.get? name = some child →
      name = Namespace.versionSegment trimmed := by
    intro name child found
    by_contra other
    simp [children, other] at found
  have whole := compile_eq .wrapNil (start noTypes.seedContext) 0 (versioned version)
  rw [descended] at whole
  simp only [compiled] at whole
  cases built : inner.buildModel .wrapNil 1 (versioned version) with
  | error e =>
      rw [built] at whole
      have result : c = inner := congrArg Prod.fst whole
      rw [result]
      exact ⟨root, _, m, known, home⟩
  | ok own =>
      rw [built] at whole
      have result : c = inner.register 1 own := congrArg Prod.fst whole
      rw [buildModel_eq, place] at built
      obtain ⟨single, _, qualified⟩ := modelIn_names built
      have inside : 1 < inner.tree.size := by omega
      have other := qualify_inner_ne (Namespace.versionSegment_filled trimmed) single
      rw [result]
      refine ⟨?_, qualify (qualify (Namespace.versionSegment trimmed) "Geo") "Place", m, ?_, home⟩
      · intro name child found
        exact root name child (by rwa [register, NamespaceTree.children_bind 1 inside] at found)
      · rw [register, TypeContext.get?_register, qualified, Function.update_of_ne other]
        exact known

end Versioned

theorem terminable_of_identify {version : String}
    (identify : ((start noTypes.seedContext).run
      [⟨.wrapNil, [], versioned version⟩]).KeysIdentify) :
    Terminable (Text.trim version).toList := by
  by_cases blank : Text.isBlankText version = true
  · rw [Text.trim_of_blank blank]
    rfl
  · have filled : Text.nonBlank? version = some (Text.trim version) := by
      simp [Text.nonBlank?, blank]
    obtain ⟨root, key, m, known, home⟩ := run_versioned filled
    obtain ⟨_, node, found, _⟩ := identify.found key m known
    by_contra unclosed
    have outer := toList_qualify (Namespace.versionSegment_filled (Text.trim version)) "Geo"
    rw [home] at found
    have split : hasSeparator
        (qualify (Namespace.versionSegment (Text.trim version)) "Geo").toList = true := by
      rw [hasSeparator_iff, outer, ← List.append_assoc]
      exact List.infix_append ..
    have start : (qualify (Namespace.versionSegment (Text.trim version)) "Geo").toList.head? ≠
        some ':' := by
      rw [outer]
      simp [Namespace.versionSegment]
    -- The lookup begins with what stands before the first separator of the text, and the only
    -- child of the root is the whole version.
    obtain ⟨name, child, closed, below⟩ := NamespaceTree.child_of_find? found split start
    rw [root name child below, Namespace.terminable_versionSegment] at closed
    exact unclosed closed

theorem keys_identify_iff (allowed : String → Prop) :
    (∀ (r : TypeRegistry) (calls more : List Call),
      (∀ call ∈ calls ++ more, call.Within allowed) →
      ((start r.seedContext).run calls).KeysIdentify ∧
        ∀ key m other, ((start r.seedContext).run calls).context.get? key = some (.model m) →
          ((start r.seedContext).run (calls ++ more)).context.get? key = some (.model other) →
          other.className = m.className ∧ other.namespaceName = m.namespaceName) ↔
      ∀ version, allowed version → ¬ separator.toList <:+: (Text.trim version).toList ∧
        (Text.trim version).toList.getLast? ≠ some ':' := by
  have plain (version : String) : Terminable (Text.trim version).toList ↔
      ¬ separator.toList <:+: (Text.trim version).toList ∧
        (Text.trim version).toList.getLast? ≠ some ':' := by
    rw [terminable_iff, ← Bool.not_eq_true, hasSeparator_iff]
  simp only [← plain]
  constructor
  · intro always version fits
    have within : ∀ call ∈ [(⟨.wrapNil, [], versioned version⟩ : Call)] ++ [],
        call.Within allowed := by
      intro call member other used
      obtain rfl : call = ⟨.wrapNil, [], versioned version⟩ := by simpa using member
      obtain rfl : other = version := by
        simpa [versioned, Definition.versions, Definition.allVersions] using used
      exact fits
    exact terminable_of_identify (always noTypes _ [] within).1
  · intro closed r calls more fits
    obtain ⟨well, keyed⟩ := keyed_run r calls (fun call member => fits call (by simp [member])) closed
    obtain ⟨laterWell, laterKeyed⟩ := keyed_run r (calls ++ more) fits closed
    refine ⟨⟨?_, ?_⟩, ?_⟩
    · intro node name other otherName key bound otherBound
      exact keyed.identify well bound otherBound
    · intro key m known
      exact ⟨(keyed.held key m known).1, keyed.find well known⟩
    · intro key m other known otherKnown
      exact keyed.same_class well laterWell laterKeyed known otherKnown

/-- A class of a schema within a version, and one of a version that holds a separator. -/
def schemaInVersion : Call :=
  ⟨.wrapNil, [], ⟨none, some "1", [⟨some "X", none, [], "A", [.named "p" ["p"]]⟩], "B", []⟩⟩

def separatorInVersion : Call :=
  ⟨.wrapNil, [], ⟨none, some "1::X", [], "A", [.named "q" ["q"]]⟩⟩

theorem class_replaced_from_other_namespace :
    ¬ ((start noTypes.seedContext).run [schemaInVersion, separatorInVersion]).KeysIdentify ∧
      ∃ m other,
        ((start noTypes.seedContext).run [schemaInVersion]).context.get? "V_1::X::A" =
          some (.model m) ∧
        ((start noTypes.seedContext).run [schemaInVersion, separatorInVersion]).context.get?
          "V_1::X::A" = some (.model other) ∧
        m.properties = ["p"] ∧ other.properties = ["q"] := by
  constructor
  · intro identify
    have same := identify.bindings 2 "A" 3 "A" "V_1::X::A" rfl rfl
    exact absurd same.1 (by decide)
  · exact ⟨_, _, rfl, rfl, rfl, rfl⟩

end Compilation

end RecordSchema
