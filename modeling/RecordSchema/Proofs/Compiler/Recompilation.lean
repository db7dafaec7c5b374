import RecordSchema.Proofs.Compiler.Coherence

set_option autoImplicit false

/-!
Compiling again. The classes of a successful compilation stay in place whatever is compiled later:
their namespaces and names are kept, and more types are known by then, of which none has become a
scalar. So the same request finds nothing to add and is not refused.
-/

namespace RecordSchema

structure Model.Resembles (m other : Model) : Prop where
  className : other.className = m.className
  namespaceName : other.namespaceName = m.namespaceName
  qualifiedName : other.qualifiedName = m.qualifiedName
  attributes : other.attributes.map (fun a => (a.name, a.path, a.isArray)) =
    m.attributes.map fun a => (a.name, a.path, a.isArray)

section ModelIn

variable {policy : ArrayNilPolicy} {context later : TypeContext} {namespaceName : String}
  {d : Definition} {m : Model}

theorem modelIn_attributes (built : modelIn policy context namespaceName d = .ok m) :
    m.attributes.map (fun a => (a.name, a.path, a.isArray)) =
      d.properties.map fun p => (p.name, p.path, p.isArray) := by
  obtain ⟨_, _, _, attributes, all, rfl⟩ := (modelIn_eq_ok_iff ..).mp built
  obtain ⟨_, _, _, rfl⟩ := (buildAttributes_eq_ok_iff ..).mp all
  rw [Model.attributes, List.map_map]
  rfl

theorem modelIn_resembles {other : Model} (built : modelIn policy context namespaceName d = .ok m)
    (again : modelIn policy later namespaceName d = .ok other) : m.Resembles other := by
  obtain ⟨className, valid, _, _, _, rfl⟩ := (modelIn_eq_ok_iff ..).mp built
  obtain ⟨otherName, otherValid, _, _, _, rfl⟩ := (modelIn_eq_ok_iff ..).mp again
  obtain rfl : className = otherName := Except.ok.inj (valid.symm.trans otherValid)
  exact ⟨rfl, rfl, rfl, (modelIn_attributes again).trans (modelIn_attributes built).symm⟩

theorem modelIn_register (built : modelIn policy context namespaceName d = .ok m) (key : String)
    (added : Model) :
    ∃ again, modelIn policy (context.register key (.model added)) namespaceName d = .ok again := by
  obtain ⟨className, valid, free, attributes, all, rfl⟩ := (modelIn_eq_ok_iff ..).mp built
  obtain ⟨sound, distinct, fresh, _⟩ := (buildAttributes_eq_ok_iff ..).mp all
  refine ⟨_, (modelIn_eq_ok_iff ..).mpr ⟨className, valid, ?_, _,
    (buildAttributes_eq_ok_iff ..).mpr ⟨?_, distinct, fresh, rfl⟩, rfl⟩⟩
  · -- No name has come to mean a scalar.
    rw [TypeContext.get?_register, Function.update_apply]
    split
    next => simp [TypeRef.isScalar]
    next => exact free
  · intro p member
    obtain ⟨filled, path, known⟩ := sound p member
    refine ⟨filled, path, fun name given => ?_⟩
    -- A name may now be found alone and not in the namespace, but it is found.
    have kept (text : String) (was : (context.get? text).isSome) :
        ((context.register key (.model added)).get? text).isSome := by
      rw [TypeContext.get?_register, Function.update_apply]
      split
      next => rfl
      next => exact was
    exact (resolved_isSome ..).mpr
      (((resolved_isSome ..).mp (known name given)).imp (kept _) (kept _))

end ModelIn

theorem TypeContext.keys_register_of_known {context : TypeContext} {key : String}
    (known : (context.get? key).isSome) (type : TypeRef) :
    (context.register key type).keys = context.keys := by
  refine KeyMap.keys_eq_of_isSome fun name => ?_
  rw [TypeContext.register, KeyMap.get?_insert]
  split
  next own =>
    rw [own]
    exact known.symm
  next => rfl

namespace Scope

variable {policy : ArrayNilPolicy} {origin : Nat} {sites : List ClassSite}
  {s later : Scope} {made : List Registration}

/-- A class is bound in its namespace to a key of the context, and its model can still be built. -/
structure Settles (s : Scope) (policy : ArrayNilPolicy) (origin : Nat) (r : Registration) :
    Prop where
  admitted : s.Admits policy origin r
  bound : (s.tree.get r.node).bindings.get? r.model.className = some r.model.qualifiedName
  known : (s.context.get? r.model.qualifiedName).isSome

def Settled (s : Scope) (policy : ArrayNilPolicy) (origin : Nat) (site : ClassSite) : Prop :=
  ∃ r : Registration, r.site = site ∧ s.Settles policy origin r

theorem Admits.same_node {r other : Registration} (admitted : s.Admits policy origin r)
    (also : s.Admits policy origin other) (same : r.site = other.site) : r.node = other.node := by
  obtain ⟨⟨names, named, leads⟩, _⟩ := admitted
  obtain ⟨⟨others, otherNamed, otherLeads⟩, _⟩ := also
  rw [same] at named
  rw [filterMap_name_eq named otherNamed, otherLeads] at leads
  exact (Option.some.inj leads).symm

theorem Admits.same_model {r other : Registration} (admitted : s.Admits policy origin r)
    (also : s.Admits policy origin other) (same : r.site = other.site) : r.model = other.model := by
  have built := admitted.built
  rw [admitted.same_node also same, same, also.built] at built
  exact (Except.ok.inj built).symm

theorem Admits.register {entry r : Registration} (admitted : s.Admits policy origin entry)
    (contained : s.tree.Contained) (begin : origin < s.tree.size) (inside : r.node < s.tree.size) :
    ∃ again, entry.model.Resembles again ∧
      (s.register r).Admits policy origin { entry with model := again } := by
  have moved := admitted.of_extends contained begin
    (NamespaceTree.extends_bind r.node inside r.model.className r.model.qualifiedName)
  obtain ⟨again, built⟩ := modelIn_register moved.built r.model.qualifiedName r.model
  exact ⟨again, modelIn_resembles moved.built built, moved.placed, built⟩

theorem Settled.enter {site : ClassSite} (settled : s.Settled policy origin site)
    (contained : s.tree.Contained) (begin : origin < s.tree.size) {node : Nat}
    (inside : node < s.tree.size) (name : String) :
    (s.enter node name).Settled policy origin site := by
  obtain ⟨r, rfl, admitted, bound, known⟩ := settled
  refine ⟨r, rfl, admitted.of_extends contained begin (NamespaceTree.extends_findOrCreate inside),
    ?_, known⟩
  rw [Scope.enter, NamespaceTree.bindings_findOrCreate inside]
  exact bound

theorem Settled.register {site : ClassSite} (settled : s.Settled policy origin site)
    (contained : s.tree.Contained) (begin : origin < s.tree.size) {r : Registration}
    {other : ArrayNilPolicy} (inside : r.node < s.tree.size)
    (built : s.modelAt other r.node r.site.definition = .ok r.model) :
    (s.register r).Settled policy origin site := by
  obtain ⟨entry, rfl, admitted, bound, known⟩ := settled
  obtain ⟨again, like, kept⟩ := admitted.register contained begin inside
  refine ⟨{ entry with model := again }, rfl, kept, ?_, ?_⟩
  · obtain ⟨_, _, own⟩ := modelAt_names admitted.built
    rw [like.className, like.qualifiedName]
    exact bound_register inside built bound own
  · rw [like.qualifiedName, Scope.register, TypeContext.get?_register, Function.update_apply]
    split
    next => rfl
    next => exact known

theorem Admits.settled {r : Registration} (admitted : s.Admits policy origin r)
    (contained : s.tree.Contained) (begin : origin < s.tree.size) :
    (s.register r).Settled policy origin r.site := by
  have inside := admitted.inside contained begin
  obtain ⟨again, like, kept⟩ := admitted.register contained begin inside
  refine ⟨{ r with model := again }, rfl, kept, ?_, ?_⟩
  · rw [like.className, like.qualifiedName, Scope.register,
      NamespaceTree.binding_bind r.node inside]
    exact if_pos ⟨rfl, rfl⟩
  · rw [like.qualifiedName, Scope.register, TypeContext.get?_register, Function.update_self]
    rfl

theorem Run.settled (run : Run policy origin sites s made later) (contained : s.tree.Contained)
    (begin : origin < s.tree.size) :
    ∀ r ∈ made, later.Settled policy origin r.site := by
  induction run with
  | refl => simp
  | enter before above node name leads _ ih =>
    obtain ⟨kept, left⟩ := before.leaves contained begin
    have within := Nat.lt_of_lt_of_le begin left.grown.size
    intro r member
    exact (ih r member).enter kept within (kept.inside within leads) name
  | register before r admitted ih =>
    obtain ⟨kept, left⟩ := before.leaves contained begin
    have within := Nat.lt_of_lt_of_le begin left.grown.size
    rw [List.forall_mem_append]
    constructor
    · intro entry member
      exact (ih entry member).register kept within (admitted.inside kept within) admitted.built
    · simpa using admitted.settled kept within

theorem Steps.settled {allowed : String → Prop} (steps : Steps allowed s later)
    (well : s.tree.WellFormed) (begin : origin < s.tree.size) {site : ClassSite}
    (settled : s.Settled policy origin site) : later.Settled policy origin site := by
  have both := steps.preserve
    (fun a => origin < a.tree.size ∧ a.Settled policy origin site) ?_ well ⟨begin, settled⟩
  · exact both.2
  · rintro a b well' step ⟨within, kept⟩
    refine ⟨Nat.lt_of_lt_of_le within (step.grows well').2.size, ?_⟩
    cases step with
    | enter node name inside named => exact kept.enter well'.contained within inside name
    | register other node d m inside built =>
      exact kept.register (r := ⟨⟨[], d⟩, node, m⟩) well'.contained within inside built

theorem Settled.child {site : ClassSite} (settled : s.Settled policy origin site)
    {above : List String} {node : Nat} {name : String}
    (leads : s.tree.descendTo? origin above = some node) {first : List NamespaceStep}
    (begins : first <+: site.steps) (named : Named first (above ++ [name])) :
    ∃ child, (s.tree.get node).children.get? name = some child := by
  obtain ⟨r, rfl, ⟨⟨names, all, down⟩, _⟩, _⟩ := settled
  obtain ⟨rest, split⟩ := begins
  have onWay : names = above ++ [name] ++ rest.filterMap fun step => step.name.toOption := by
    rw [← filterMap_name all, ← split, List.filterMap_append, filterMap_name named]
  rw [onWay, NamespaceTree.descendTo?_append] at down
  obtain ⟨child, reached, _⟩ := Option.bind_eq_some_iff.mp down
  obtain ⟨parent, above', known⟩ :=
    (NamespaceTree.descendTo?_concat _ origin above name child).mp reached
  obtain rfl : node = parent := Option.some.inj (leads.symm.trans above')
  exact ⟨child, known⟩

theorem Run.unchanged (run : Run policy origin sites s made later) (contained : s.tree.Contained)
    (begin : origin < s.tree.size) (settled : ∀ site ∈ sites, s.Settled policy origin site)
    (listed : ∀ r ∈ made, r.site ∈ sites) :
    later.tree = s.tree ∧ later.context.keys = s.context.keys ∧
      ∀ site ∈ sites, later.Settled policy origin site := by
  -- Types may change along the run, so that the classes stay settled is part of the induction.
  induction run with
  | refl => exact ⟨rfl, rfl, settled⟩
  | @enter made later before above node name leads toward ih =>
    obtain ⟨tree, keys, still⟩ := ih listed
    obtain ⟨site, member, first, begins, named⟩ := toward
    obtain ⟨child, known⟩ := (still site member).child leads begins named
    have same : later.enter node name = later := by
      rw [Scope.enter, NamespaceTree.findOrCreate_of_some known]
    rw [same]
    exact ⟨tree, keys, still⟩
  | @register made later before r admitted ih =>
    obtain ⟨tree, keys, still⟩ := ih fun entry member => listed entry (by simp [member])
    obtain ⟨entry, own, placed, bound, known⟩ := still r.site (listed r (by simp))
    rw [placed.same_node admitted own, placed.same_model admitted own] at bound
    rw [placed.same_model admitted own] at known
    have within : origin < later.tree.size := by rwa [tree]
    have kept : later.tree.Contained := by rwa [tree]
    refine ⟨?_, ?_, ?_⟩
    · rw [← tree]
      exact NamespaceTree.bind_of_bound r.node bound
    · rw [← keys]
      exact TypeContext.keys_register_of_known known _
    · intro site member
      exact (still site member).register kept within (admitted.inside kept within) admitted.built

theorem Settled.not_refuses {site : ClassSite} (settled : s.Settled policy origin site)
    {e : ModelError} : ¬ s.Refuses policy origin site e := by
  obtain ⟨r, rfl, ⟨⟨names, named, leads⟩, built⟩, _⟩ := settled
  rintro (⟨step, fault, member, refused⟩ | ⟨others, node, _, otherNamed, otherLeads, refused⟩)
  · exact not_named member refused ⟨names, named⟩
  · rw [filterMap_name_eq otherNamed named, leads] at otherLeads
    cases otherLeads
    rw [built] at refused
    cases refused

theorem Ends.unchanged {failure? : Option ModelError}
    (ends : Ends policy origin sites s later made failure?) (contained : s.tree.Contained)
    (begin : origin < s.tree.size) (settled : ∀ site ∈ sites, s.Settled policy origin site) :
    failure? = none ∧ later.tree = s.tree ∧ later.context.keys = s.context.keys := by
  cases ends with
  | finished run all =>
    have listed : ∀ r ∈ made, r.site ∈ sites := fun r member => all ▸ List.mem_map_of_mem member
    obtain ⟨tree, keys, _⟩ := run.unchanged contained begin settled listed
    exact ⟨rfl, tree, keys⟩
  | stopped run site rest split e refused =>
    have listed : ∀ r ∈ made, r.site ∈ sites := by
      intro r member
      rw [split]
      exact List.mem_append_left _ (List.mem_map_of_mem member)
    obtain ⟨_, _, still⟩ := run.unchanged contained begin settled listed
    exact absurd refused (still site (by simp [split])).not_refuses

end Scope

namespace Compilation

theorem compile_built (policy : ArrayNilPolicy) (c : Compilation) (contained : c.tree.Contained)
    {node : Nat} (inside : node < c.tree.size) (d : Definition) {m : Model} :
    (compile policy c node d).2 = .ok m → ∃ names last context, Named d.steps names ∧
      (compile policy c node d).1.tree.descendTo? node names = some last ∧
      modelIn policy context ((compile policy c node d).1.tree.get last).qualifiedName d =
        .ok m := by
  obtain ⟨scope, result⟩ := descend_eq_walk c node d
  rw [compile_eq]
  split
  next c' e failed =>
    intro impossible
    cases impossible
  next c' last entered =>
    rw [entered] at scope result
    obtain ⟨contained', _, below, names, named, leads⟩ :=
      NamespaceTree.entered_of_walk contained inside ((mapError_eq_ok_iff ..).mp result.symm)
        (congrArg Scope.tree scope)
    obtain ⟨made, others⟩ := compileAll_ends policy c' contained' below .nil rfl d.nested
    split
    next c'' e failed =>
      intro impossible
      cases impossible
    next c'' done =>
      rw [done] at others
      obtain ⟨_, left⟩ := others.run.leaves contained' below
      have there := Nat.lt_of_lt_of_le below left.grown.size
      split
      next e refused =>
        intro impossible
        cases impossible
      next m' built =>
        rintro ⟨⟩
        have bound : c''.tree.Extends (c''.tree.bind last m.className m.qualifiedName) :=
          NamespaceTree.extends_bind last there _ _
        refine ⟨names, last, c''.context, named,
          bound.descends (left.grown.descends leads), ?_⟩
        rw [buildModel_eq, ← bound.qualifiedName last there] at built
        exact built

theorem compileAt_built (policy : ArrayNilPolicy) (c : Compilation) (contained : c.tree.Contained)
    (inside : 0 < c.tree.size) (segments : List String) (d : Definition) {m : Model} :
    (c.compileAt policy segments d).2 = .ok m → ∃ names last context,
      Named (segmentSteps segments ++ d.steps) names ∧
      (c.compileAt policy segments d).1.tree.descendTo? 0 names = some last ∧
      modelIn policy context ((c.compileAt policy segments d).1.tree.get last).qualifiedName d =
        .ok m := by
  obtain ⟨scope, result⟩ := enter_eq_walk c segments
  unfold compileAt
  split
  next c' e failed =>
    intro impossible
    cases impossible
  next c' node entered =>
    intro compiled
    rw [entered] at scope result
    obtain ⟨contained', _, below, above, aboveNamed, down⟩ :=
      NamespaceTree.entered_of_walk contained inside ((mapError_eq_ok_iff ..).mp result.symm)
        (congrArg Scope.tree scope)
    obtain ⟨made, ends⟩ := compile_ends policy c' contained' below .nil rfl d
    have later : c'.tree.Extends (compile policy c' node d).1.tree :=
      (ends.run.leaves contained' below).2.grown
    obtain ⟨names, last, context, named, leads, built⟩ :=
      compile_built policy c' contained' below d compiled
    refine ⟨above ++ names, last, context, named_append aboveNamed named, ?_, built⟩
    rw [NamespaceTree.descendTo?_append, later.descends down]
    exact leads

theorem perform_built (c : Compilation) (contained : c.tree.Contained) (q : Request)
    (inside : q.origin < c.tree.size) {m : Model} (compiled : (c.perform q).2 = .ok m) :
    ∃ names last context, Named (q.above ++ q.definition.steps) names ∧
      (c.perform q).1.tree.descendTo? q.origin names = some last ∧
      modelIn q.policy context ((c.perform q).1.tree.get last).qualifiedName q.definition =
        .ok m := by
  cases q with
  | atPath policy segments d => exact compileAt_built policy c contained inside segments d compiled
  | atNode policy node d => exact compile_built policy c contained inside d compiled

theorem perform_again (c : Compilation) (well : c.tree.WellFormed) (q : Request)
    (inside : q.origin < c.tree.size) {m : Model} (compiled : (c.perform q).2 = .ok m)
    (more : List Request) (hosts : (c.perform q).1.Hosts more) :
    let later := (c.perform q).1.performAll more
    ∃ again, (later.perform q).2 = .ok again ∧ m.Resembles again ∧
      (later.perform q).1.tree = later.tree ∧
      (later.perform q).1.context.keys = later.context.keys := by
  intro later
  obtain ⟨made, ends⟩ := perform_ends c well.contained q inside
  obtain ⟨well', grown⟩ := (ends.run.steps well.contained inside q.classes_within).grows well
  have inside' := Nat.lt_of_lt_of_le inside grown.size
  have steps := performAll_steps (c.perform q).1 well' more hosts
  obtain ⟨wellLater, grownLater⟩ := steps.grows well'
  have insideLater := Nat.lt_of_lt_of_le inside' grownLater.size
  rw [compiled] at ends
  have settled : ∀ site ∈ q.classes, later.scope.Settled q.policy q.origin site := by
    cases ends with
    | finished run all =>
      rw [← all, List.forall_mem_map]
      intro entry member
      exact steps.settled well' inside' (run.settled well.contained inside entry member)
  obtain ⟨_, endsAgain⟩ := perform_ends later wellLater.contained q insideLater
  obtain ⟨succeeded, tree, keys⟩ := endsAgain.unchanged wellLater.contained insideLater settled
  cases repeated : (later.perform q).2 with
  | error e =>
    rw [repeated] at succeeded
    cases succeeded
  | ok again =>
    refine ⟨again, rfl, ?_, tree, keys⟩
    obtain ⟨names, last, _, named, leads, built⟩ :=
      perform_built c well.contained q inside compiled
    obtain ⟨others, node, _, namedAgain, down, builtAgain⟩ :=
      perform_built later wellLater.contained q insideLater repeated
    -- Both models are built in the node that the same names lead to.
    have kept : later.tree.descendTo? q.origin names = some last := grownLater.descends leads
    have same : (later.perform q).1.tree = later.tree := tree
    rw [same, filterMap_name_eq namedAgain named, kept] at down
    obtain rfl : last = node := Option.some.inj down
    have place : (later.tree.get last).qualifiedName =
        ((c.perform q).1.tree.get last).qualifiedName :=
      grownLater.qualifiedName last (well'.contained.inside inside' leads)
    rw [same, place] at builtAgain
    exact modelIn_resembles built builtAgain

theorem recompiled_unchanged (r : TypeRegistry) (before : List Request) (q : Request)
    (more : List Request) (hosts : (start r.seedContext).Hosts (before ++ q :: more)) {m : Model}
    (compiled : (((start r.seedContext).performAll before).perform q).2 = .ok m) :
    let c := (start r.seedContext).performAll (before ++ q :: more)
    ∃ again, (c.perform q).2 = .ok again ∧ m.Resembles again ∧
      (c.perform q).1.tree = c.tree ∧ (c.perform q).1.context.keys = c.context.keys := by
  obtain ⟨earlier, inside, later⟩ := (hosts_append _ before (q :: more)).mp hosts
  have steps := performAll_steps _ NamespaceTree.wellFormed_empty before earlier
  have all : (start r.seedContext).performAll (before ++ q :: more) =
      (((start r.seedContext).performAll before).perform q).1.performAll more := by
    simp [performAll]
  rw [all]
  exact perform_again _ (steps.grows NamespaceTree.wellFormed_empty).1 q inside compiled more later

/-- A class whose property means a class nested in it, until a class of that name at the root is
compiled: then the bare name comes first. -/
def capitalRequest : Request :=
  .atPath .wrapNil ["atlas"] ⟨none, some "1", [⟨none, none, [], "City", []⟩], "Country",
    [⟨"capital", ["seat"], some "City", false⟩]⟩

def cityRequest : Request := .atPath .wrapNil [] ⟨none, none, [], "City", []⟩

theorem recompiled_unchanged_capital :
    (start (TypeRegistry.create .empty).1.seedContext).Hosts [capitalRequest, cityRequest] ∧
      ∃ m again,
        ((start (TypeRegistry.create .empty).1.seedContext).perform capitalRequest).2 = .ok m ∧
        (((start (TypeRegistry.create .empty).1.seedContext).performAll
          [capitalRequest, cityRequest]).perform capitalRequest).2 = .ok again ∧
        m.Resembles again := by
  have hosts : (start (TypeRegistry.create .empty).1.seedContext).Hosts
      [capitalRequest, cityRequest] := ⟨by decide, by decide +kernel, trivial⟩
  obtain ⟨m, compiled⟩ := exists_of_isOk (by decide +kernel :
    ((start (TypeRegistry.create .empty).1.seedContext).perform capitalRequest).2.isOk = true)
  obtain ⟨again, repeated, like, _⟩ := recompiled_unchanged (TypeRegistry.create .empty).1
    [] capitalRequest [cityRequest] hosts compiled
  exact ⟨hosts, m, again, compiled, repeated, like⟩

end Compilation

end RecordSchema
