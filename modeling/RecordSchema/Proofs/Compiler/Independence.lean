import RecordSchema.Proofs.Compiler.Pass

set_option autoImplicit false

/-!
Classes that do not look each other up, under their own names or within their namespaces, can be
registered in any order.
-/

namespace RecordSchema

namespace ClassSite

/-- The names that are looked up for the types of the properties. -/
def uses (site : ClassSite) : List String :=
  (site.definition.properties.filterMap fun p => p.typeName.bind Text.nonBlank?).flatMap
    fun name => [name, qualify site.namespaceName name]

structure Apart (a b : ClassSite) : Prop where
  keys : a.key ≠ b.key
  unused : a.key ∉ b.uses
  unusing : b.key ∉ a.uses

instance (a b : ClassSite) : Decidable (a.Apart b) :=
  decidable_of_iff (a.key ≠ b.key ∧ a.key ∉ b.uses ∧ b.key ∉ a.uses)
    ⟨fun ⟨keys, unused, unusing⟩ => ⟨keys, unused, unusing⟩,
      fun apart => ⟨apart.keys, apart.unused, apart.unusing⟩⟩

theorem Apart.symm {a b : ClassSite} (apart : a.Apart b) : b.Apart a :=
  ⟨apart.keys.symm, apart.unusing, apart.unused⟩

variable {site : ClassSite} {known other : String → Option TypeRef}

theorem mem_uses {p : Property} (member : p ∈ site.definition.properties) {name : String}
    (given : p.typeName.bind Text.nonBlank? = some name) :
    name ∈ site.uses ∧ qualify site.namespaceName name ∈ site.uses := by
  have named : name ∈ site.definition.properties.filterMap
      fun p => p.typeName.bind Text.nonBlank? := List.mem_filterMap.mpr ⟨p, member, given⟩
  exact ⟨List.mem_flatMap.mpr ⟨name, named, by simp⟩, List.mem_flatMap.mpr ⟨name, named, by simp⟩⟩

theorem model_congr (policy : ArrayNilPolicy) (same : ∀ name ∈ site.uses, known name = other name) :
    site.model policy known = site.model policy other := by
  have attributes : ∀ p ∈ site.definition.properties,
      p.attribute known site.namespaceName = p.attribute other site.namespaceName := by
    intro p member
    unfold Property.attribute
    cases given : p.typeName.bind Text.nonBlank? with
    | none => rfl
    | some name =>
      obtain ⟨bare, within⟩ := mem_uses member given
      simp only [Option.bind_some, resolved, same _ bare, same _ within]
  unfold ClassSite.model
  rw [List.map_congr_left attributes]

theorem Admissible.congr {Scalar OtherScalar Known OtherKnown : String → Prop}
    (fine : site.Admissible Scalar Known) (own : OtherScalar site.key → Scalar site.key)
    (same : ∀ name ∈ site.uses, Known name → OtherKnown name) :
    site.Admissible OtherScalar OtherKnown where
  named := fine.named
  whole := fine.whole
  notScalar scalar := fine.notScalar (own scalar)
  properties := fine.properties
  distinct := fine.distinct
  types p member name given := by
    obtain ⟨bare, within⟩ := mem_uses member given
    exact (fine.types p member name given).imp (same _ bare) (same _ within)

end ClassSite

theorem TypeContext.register_comm (context : TypeContext) {key other : String} (apart : key ≠ other)
    (type otherType : TypeRef) :
    (context.register key type).register other otherType =
      (context.register other otherType).register key type := by
  have entries : ((context.register key type).register other otherType).entries =
      ((context.register other otherType).register key type).entries := by
    apply KeyMap.ext_get?
    intro name
    simp only [TypeContext.register, KeyMap.get?_insert]
    by_cases first : name = key
    · simp [first, apart]
    · simp [first]
  cases context
  exact congrArg TypeContext.mk entries

namespace Registers

variable {policy : ArrayNilPolicy} {context later : TypeContext} {rest : List ClassSite}

theorem swap {a b : ClassSite} (apart : a.Apart b)
    (all : Registers policy context (a :: b :: rest) later) :
    Registers policy context (b :: a :: rest) later := by
  obtain ⟨namedA, fineA, others⟩ := cons_iff.mp all
  obtain ⟨namedB, fineB, others⟩ := cons_iff.mp others
  -- What one class looks up is the same with the other registered and without it.
  have before (name : String) (member : name ∈ b.uses) :
      (context.register a.key (.model (a.model policy context.get?))).get? name =
        context.get? name := by
    rw [TypeContext.get?_register, Function.update_of_ne]
    rintro rfl
    exact apart.unused member
  have after (name : String) (member : name ∈ a.uses) :
      (context.register b.key (.model (b.model policy context.get?))).get? name =
        context.get? name := by
    rw [TypeContext.get?_register, Function.update_of_ne]
    rintro rfl
    exact apart.unusing member
  rw [ClassSite.model_congr policy before, TypeContext.register_comm _ apart.keys,
    ← ClassSite.model_congr policy after] at others
  refine cons_iff.mpr ⟨namedB, fineB.congr ?_ ?_, cons_iff.mpr ⟨namedA, fineA.congr ?_ ?_, others⟩⟩
  · rw [TypeContext.get?_register, Function.update_of_ne apart.keys.symm]
    exact id
  · intro name member known
    rwa [before name member] at known
  · rw [TypeContext.get?_register, Function.update_of_ne apart.keys]
    exact id
  · intro name member known
    rwa [after name member]

theorem move_first {sites : List ClassSite} {b : ClassSite} (apart : ∀ a ∈ sites, a.Apart b)
    (all : Registers policy context (sites ++ b :: rest) later) :
    Registers policy context (b :: sites ++ rest) later := by
  -- Moved before the rest of the list first, the class then has one more to pass.
  induction sites generalizing context with
  | nil => exact all
  | cons a sites ih =>
    obtain ⟨named, fine, others⟩ := cons_iff.mp all
    have moved := ih (fun other member => apart other (by simp [member])) others
    exact swap (apart a (by simp)) (cons_iff.mpr ⟨named, fine, moved⟩)

theorem swap_blocks {first second : List ClassSite} (apart : ∀ a ∈ first, ∀ b ∈ second, a.Apart b)
    (all : Registers policy context (first ++ (second ++ rest)) later) :
    Registers policy context (second ++ (first ++ rest)) later := by
  induction second generalizing context with
  | nil => exact all
  | cons b second ih =>
    have moved := move_first (fun a member => apart a member b (by simp)) all
    obtain ⟨named, fine, others⟩ := cons_iff.mp moved
    exact cons_iff.mpr ⟨named, fine,
      ih (fun a member c listed => apart a member c (by simp [listed])) others⟩

/-- Lists of classes that are pairwise apart can be registered in any order of the lists. -/
theorem of_perm {blocks others : List (List ClassSite)} (perm : blocks.Perm others)
    (apart : blocks.Pairwise fun first second => ∀ a ∈ first, ∀ b ∈ second, a.Apart b)
    (all : Registers policy context blocks.flatten later) :
    Registers policy context others.flatten later := by
  induction perm generalizing context with
  | nil => exact all
  | cons block _ ih =>
    obtain ⟨middle, first, others⟩ := all.of_append
    exact first.append (ih (List.pairwise_cons.mp apart).2 others)
  | swap second first blocks =>
    obtain ⟨one, _⟩ := List.pairwise_cons.mp apart
    exact swap_blocks (one second (by simp)) all
  | trans one _ ih ih' =>
    -- To be apart is symmetric, so lists in any order are pairwise apart.
    have still := one.pairwise apart fun apart a member b listed => (apart b listed a member).symm
    exact ih' still (ih apart all)

end Registers

end RecordSchema
