import RecordSchema.Proofs.Compiler.Requests
import RecordSchema.Proofs.Compiler.Pass

set_option autoImplicit false

/-!
The scalar types of a registry keep their names in every compilation, and a type text that is such
a name means that scalar whatever classes are around.
-/

namespace RecordSchema

/-- The attribute that a property becomes has the scalar that the property names, if it names one. -/
def TypeRegistry.Types (r : TypeRegistry) (p : Property) (a : Attribute) : Prop :=
  a.name = p.name ∧ ∀ text scalar, p.typeName = some text → Text.isBlankText text = false →
    r.get? (Text.trim text) = some scalar → a.type? = some (.scalar scalar)

def TypeContext.Holds (context : TypeContext) (r : TypeRegistry) : Prop :=
  ∀ name scalar, r.get? name = some scalar → context.get? name = some (.scalar scalar)

variable {r : TypeRegistry} {context : TypeContext}

theorem TypeContext.Holds.attribute (holds : context.Holds r) (p : Property)
    (namespaceName : String) : r.Types p (p.attribute context.get? namespaceName) := by
  refine ⟨rfl, ?_⟩
  intro text scalar given filled registered
  have named : p.typeName.bind Text.nonBlank? = some (Text.trim text) := by
    simp [given, Text.nonBlank?, filled]
  -- The bare name is looked up before the name within the namespace.
  have found : resolved context.get? namespaceName (Text.trim text) = some (.scalar scalar) := by
    rw [resolved, holds _ scalar registered, Option.some_or]
  rw [Property.attribute, named]
  exact found

theorem TypeContext.Holds.register (holds : context.Holds r) {policy : ArrayNilPolicy}
    {namespaceName : String} {d : Definition} {m : Model}
    (built : modelIn policy context namespaceName d = .ok m) :
    (context.register m.qualifiedName (.model m)).Holds r ∧
      List.Forall₂ r.Types d.properties m.attributes := by
  obtain ⟨className, _, free, attributes, all, rfl⟩ := (modelIn_eq_ok_iff ..).mp built
  obtain ⟨_, _, _, rfl⟩ := (buildAttributes_eq_ok_iff ..).mp all
  constructor
  · intro name scalar registered
    have known := holds name scalar registered
    rw [get?_register, Function.update_apply]
    -- A class under the name of a scalar is not built.
    by_cases taken : name = qualify namespaceName className
    · rw [taken] at known
      simp [known, TypeRef.isScalar] at free
    · exact (if_neg taken).trans known
  · rw [Model.attributes, List.forall₂_map_right_iff]
    exact List.forall₂_same.mpr fun p _ => holds.attribute p namespaceName

theorem Scope.Run.holds {policy : ArrayNilPolicy} {origin : Nat} {sites : List ClassSite}
    {s later : Scope} {made : List Registration} (run : Scope.Run policy origin sites s made later)
    (holds : s.context.Holds r) :
    later.context.Holds r ∧
      ∀ entry ∈ made, List.Forall₂ r.Types entry.site.definition.properties
        entry.model.attributes := by
  induction run with
  | refl => exact ⟨holds, by simp⟩
  | enter _ _ _ _ _ _ ih => exact ih
  | register _ entry admitted ih =>
    obtain ⟨kept, typed⟩ := ih
    have built := admitted.built
    rw [modelAt, Compilation.buildModel_eq] at built
    obtain ⟨still, own⟩ := kept.register built
    refine ⟨still, ?_⟩
    rw [List.forall_mem_append]
    exact ⟨typed, by simpa using own⟩

namespace Compilation

theorem performAll_holds (c : Compilation) (contained : c.tree.Contained)
    (holds : c.context.Holds r) (qs : List Request) (hosts : c.Hosts qs) :
    (c.performAll qs).tree.Contained ∧ (c.performAll qs).context.Holds r := by
  induction qs generalizing c with
  | nil => exact ⟨contained, holds⟩
  | cons q rest ih =>
    obtain ⟨inside, others⟩ := hosts
    obtain ⟨made, ends⟩ := c.perform_ends contained q inside
    exact ih _ (ends.run.leaves contained inside).1 (ends.run.holds holds).1 others

theorem scalar_names_kept (r : TypeRegistry) (c : Compilation) (contained : c.tree.Contained)
    (seeded : c.context = r.seedContext) (qs : List Request) (hosts : c.Hosts qs) :
    (∀ name scalar, r.get? name = some scalar →
      (c.performAll qs).context.get? name = some (.scalar scalar)) ∧
    ∀ before q after, qs = before ++ q :: after →
      let middle := c.performAll before
      ∃ made, Scope.Ends q.policy q.origin q.classes middle.scope (middle.perform q).1.scope made
          (failure? (middle.perform q).2) ∧
        ∀ entry ∈ made,
          List.Forall₂ r.Types entry.site.definition.properties entry.model.attributes := by
  have start : c.context.Holds r := by
    intro name scalar registered
    rw [seeded, r.get?_seedContext, registered]
    rfl
  refine ⟨(performAll_holds c contained start qs hosts).2, ?_⟩
  rintro before q after rfl
  obtain ⟨first, inside, _⟩ := (hosts_append c before (q :: after)).mp hosts
  obtain ⟨kept, holds⟩ := performAll_holds c contained start before first
  obtain ⟨made, ends⟩ := perform_ends _ kept q inside
  exact ⟨made, ends, (ends.run.holds holds).2⟩

/-- A property with the name of a scalar beside a class of that name. -/
def datedWorld : Request :=
  .atPath .wrapNil ["atlas"] ⟨none, none, [⟨none, none, [], "date", []⟩], "World",
    [⟨"founded", ["founded"], some " date ", false⟩]⟩

/-- After it a class at the root that would replace the scalar. -/
def datedRequests : List Request :=
  [datedWorld, .atPath .wrapNil [] ⟨none, none, [], "date", []⟩]

theorem scalar_names_kept_dated :
    let fresh := start (TypeRegistry.create .empty).1.seedContext
    fresh.Hosts datedRequests ∧
      ∃ date, (TypeRegistry.create .empty).1.get? "date" = some date ∧
        (fresh.performAll datedRequests).context.get? "date" = some (.scalar date) ∧
        ∃ made, Scope.Ends .wrapNil 0 datedWorld.classes fresh.scope
            (fresh.perform datedWorld).1.scope made none ∧
          ∃ world ∈ made, world.site.definition.className = "World" ∧
            ∃ founded, world.model.attributes = [founded] ∧ founded.name = "founded" ∧
              founded.type? = some (.scalar date) := by
  intro fresh
  have hosts : fresh.Hosts datedRequests := ⟨by decide, by decide +kernel, trivial⟩
  obtain ⟨date, registered⟩ := Option.isSome_iff_exists.mp
    (by decide +kernel : ((TypeRegistry.create .empty).1.get? "date").isSome = true)
  obtain ⟨kept, each⟩ := scalar_names_kept (TypeRegistry.create .empty).1 fresh
    NamespaceTree.wellFormed_empty.contained rfl datedRequests hosts
  obtain ⟨made, ends, typed⟩ := each [] datedWorld _ rfl
  have succeeds : failure? (fresh.perform datedWorld).2 = none := by decide +kernel
  have ends : Scope.Ends .wrapNil 0 datedWorld.classes fresh.scope
      (fresh.perform datedWorld).1.scope made none := succeeds ▸ ends
  refine ⟨hosts, date, registered, kept "date" date registered, made, ends, ?_⟩
  cases ends with
  | finished _ all =>
    -- The class itself is the last of its list, after the nested one.
    have last : (⟨segmentSteps ["atlas"], datedWorld.definition⟩ : ClassSite) ∈
        made.map Registration.site := by
      rw [all]
      exact List.mem_cons_of_mem _ List.mem_cons_self
    obtain ⟨world, member, site⟩ := List.mem_map.mp last
    have attributes := typed world member
    rw [site] at attributes
    obtain ⟨founded, rest, ⟨name, type⟩, none, single⟩ := List.forall₂_cons_left_iff.mp attributes
    rw [List.forall₂_nil_left_iff.mp none] at single
    refine ⟨world, member, by rw [site]; rfl, founded, single, name, ?_⟩
    have trimmed : Text.trim " date " = "date" := by decide
    exact type " date " date rfl (by decide) (by rw [trimmed, registered])

/-- A blank text is no type, also when a scalar is registered under the empty name that is left of
the text once it is trimmed. -/
theorem blank_type_is_no_type :
    let r := (TypeRegistry.create .empty).1.register "" ⟨7, .builtIn .string⟩
    let note : Definition := ⟨none, none, [], "Note", [⟨"text", ["text"], some " ", false⟩]⟩
    r.get? (Text.trim " ") = some ⟨7, .builtIn .string⟩ ∧
      ((compileAt .wrapNil (start r.seedContext) [] note).2.toOption.map fun m =>
        m.attributes.map fun a => (a.name, a.type?.isNone)) = some [("text", true)] := by
  intro r note
  have trimmed : Text.trim " " = "" := by decide
  constructor
  · rw [trimmed]
    simp [r, TypeRegistry.get?, TypeRegistry.register]
  · decide +kernel

end Compilation

end RecordSchema
