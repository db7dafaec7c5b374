import RecordSchema.Proofs.Compiler.Pass
import RecordSchema.Proofs.KeyMap
import RecordSchema.Proofs.Registry

set_option autoImplicit false

/-!
What aliases mean over a run of changes to a registry. An alias follows the registrations of its
target. What a target means also changes when the target is made an alias itself, or is an alias of
a name that is registered anew; this the alias misses. So aliases mean what their targets mean in
every run exactly when no alias in use is of an alias of a third name.
-/

namespace RecordSchema.TypeRegistry

/-- A change that a caller asks for. -/
inductive Call where
  | register (name : String) (s : Scalar)
  | addAlias (name target : String)

/-- The name that a call gives a meaning. -/
def Call.name : Call → String
  | register name _ => name
  | addAlias name _ => name

def Call.Within (allowed : String → String → Prop) : Call → Prop
  | register _ _ => True
  | addAlias name target => allowed name target

def perform (r : TypeRegistry) : Call → TypeRegistry
  | .register name s => r.register name s
  | .addAlias name target => (r.alias? name target).getD r

def run (r : TypeRegistry) (calls : List Call) : TypeRegistry := calls.foldl perform r

/-- An alias call has returned true and no later call was for that name. The first such call is made
by the registry itself. -/
def Stands (σ : Store) (calls : List Call) (name target : String) : Prop :=
  (∃ before after, calls = before ++ .addAlias name target :: after ∧
      (((create σ).1.run before).alias? name target).isSome = true ∧
      ∀ call ∈ after, call.name ≠ name) ∨
    name = "positive_integer" ∧ target = "PositiveInteger" ∧ ∀ call ∈ calls, call.name ≠ name

/-- Two names of one type, here and in every context seeded from here. -/
def Synonyms (r : TypeRegistry) (name other : String) : Prop :=
  ∃ s, r.get? name = some s ∧ r.get? other = some s ∧ ∀ namespaceName,
    r.seedContext.lookup name namespaceName = .ok (.scalar s) ∧
      r.seedContext.lookup other namespaceName = .ok (.scalar s)

section Calls

variable (r : TypeRegistry)

theorem get?_repoint (name : String) (s : Scalar) (aliases : List (String × String))
    (descriptors : KeyMap Scalar) (key : String) :
    (repoint name s aliases descriptors).get? key =
      if (key, name) ∈ aliases then some s else descriptors.get? key := by
  unfold repoint
  induction aliases generalizing descriptors with
  | nil => simp
  | cons e rest ih =>
    obtain ⟨entry, target⟩ := e
    rw [List.foldl_cons, ih]
    by_cases later : (key, name) ∈ rest
    · simp [later]
    · by_cases same : target = name
      · subst same
        by_cases own : key = entry <;> simp [later, own]
      · simp [later, same, Ne.symm same]

theorem get?_register (name : String) (s : Scalar) (key : String) :
    (r.register name s).get? key =
      if key = name ∨ r.aliases.get? key = some name then some s else r.get? key := by
  simp only [get?, register, KeyMap.get?_insert, get?_repoint, KeyMap.mem_toList_iff,
    KeyMap.get?_erase]
  by_cases own : key = name <;> simp [own]

theorem aliases_register (name : String) (s : Scalar) (key : String) :
    (r.register name s).aliases.get? key = if key = name then none else r.aliases.get? key :=
  r.aliases.get?_erase name key

variable {r}

theorem perform_addAlias {target : String} {s : Scalar} (found : r.get? target = some s)
    (name : String) :
    (∀ key, (r.perform (.addAlias name target)).get? key =
      if key = name then some s else r.get? key) ∧
    ∀ key, (r.perform (.addAlias name target)).aliases.get? key =
      if key = name then some target else r.aliases.get? key := by
  rw [perform, alias?, found]
  simp [get?]

theorem perform_addAlias_of_none {target : String} (missing : r.get? target = none)
    (name : String) : r.perform (.addAlias name target) = r := by
  simp [perform, alias?, missing]

variable (r)

theorem isSome_alias? (name target : String) :
    (r.alias? name target).isSome = (r.get? target).isSome :=
  Option.isSome_map

theorem aliases_perform_of_ne (call : Call) {name : String} (other : call.name ≠ name) :
    (r.perform call).aliases.get? name = r.aliases.get? name := by
  cases call with
  | register key s => exact (r.aliases_register key s name).trans (if_neg (Ne.symm other))
  | addAlias key target =>
    cases found : r.get? target with
    | none => rw [perform_addAlias_of_none found]
    | some s => exact ((perform_addAlias found key).2 name).trans (if_neg (Ne.symm other))

theorem aliases_run_of_ne (calls : List Call) {name : String}
    (others : ∀ call ∈ calls, call.name ≠ name) :
    (r.run calls).aliases.get? name = r.aliases.get? name := by
  induction calls generalizing r with
  | nil => rfl
  | cons call rest ih =>
    have first := r.aliases_perform_of_ne call (others call (by simp))
    exact (ih (r.perform call) fun later member => others later (by simp [member])).trans first

theorem isSome_perform (call : Call) {key : String} (known : (r.get? key).isSome = true) :
    ((r.perform call).get? key).isSome = true := by
  cases call with
  | register name s =>
    rw [perform, get?_register]
    split
    · rfl
    · exact known
  | addAlias name target =>
    cases found : r.get? target with
    | none => rwa [perform_addAlias_of_none found]
    | some s =>
      rw [(perform_addAlias found name).1]
      split
      · rfl
      · exact known

theorem isSome_run (calls : List Call) {key : String} (known : (r.get? key).isSome = true) :
    ((r.run calls).get? key).isSome = true := by
  induction calls generalizing r with
  | nil => exact known
  | cons call rest ih => exact ih (r.perform call) (r.isSome_perform call known)

theorem run_append (calls more : List Call) : r.run (calls ++ more) = (r.run calls).run more :=
  List.foldl_append

theorem synonyms_iff (name other : String) :
    r.Synonyms name other ↔ ∃ s, r.get? name = some s ∧ r.get? other = some s := by
  have seeded {key : String} {s : Scalar} (found : r.get? key = some s) (namespaceName : String) :
      r.seedContext.lookup key namespaceName = .ok (.scalar s) := by
    simp [TypeContext.lookup, get?_seedContext, found]
  constructor
  · rintro ⟨s, own, target, _⟩
    exact ⟨s, own, target⟩
  · rintro ⟨s, own, target⟩
    exact ⟨s, own, target, fun namespaceName =>
      ⟨seeded own namespaceName, seeded target namespaceName⟩⟩

end Calls

/-- No alias is of an alias of a third name. -/
def Unchained (linked : String → String → Prop) : Prop :=
  ∀ name target last, linked name target → linked target last →
    name = target ∨ target = last ∨ last = name

/-- The aliases of a registry are of the given pairs and mean what their targets mean. -/
def Follows (linked : String → String → Prop) (r : TypeRegistry) : Prop :=
  ∀ name target, r.aliases.get? name = some target →
    linked name target ∧ ∃ s, r.get? name = some s ∧ r.get? target = some s

section Follows

variable {linked : String → String → Prop} {r : TypeRegistry}

theorem Follows.register (follows : r.Follows linked) (unchained : Unchained linked) (key : String)
    (s : Scalar) : (r.register key s).Follows linked := by
  intro name target known
  rw [aliases_register] at known
  split at known
  next => cases known
  next other =>
    obtain ⟨pair, t, own, same⟩ := follows name target known
    refine ⟨pair, ?_⟩
    simp only [get?_register, other, false_or]
    by_cases direct : target = key
    next => exact ⟨s, by simp [known, direct], by simp [direct]⟩
    next =>
      have apart : r.aliases.get? name ≠ some key := by simp [known, direct]
      refine ⟨t, by simp [apart, own], ?_⟩
      -- The target itself is an alias of the key only if it is the name.
      by_cases deep : r.aliases.get? target = some key
      next =>
        rcases unchained name target key pair (follows target key deep).1 with self | reached | back
        · exact absurd (self ▸ deep) apart
        · exact absurd reached direct
        · exact absurd back.symm other
      next => simp [direct, deep, same]

theorem Follows.addAlias (follows : r.Follows linked) (unchained : Unchained linked)
    {key last : String} (given : linked key last) : (r.perform (.addAlias key last)).Follows linked := by
  cases found : r.get? last with
  | none => rwa [perform_addAlias_of_none found]
  | some s =>
    obtain ⟨types, aliases⟩ := perform_addAlias found key
    intro name target known
    simp only [types]
    rw [aliases] at known
    split at known
    next new =>
      cases known
      subst new
      refine ⟨given, s, if_pos rfl, ?_⟩
      split
      · rfl
      · exact found
    next old =>
      obtain ⟨pair, t, own, same⟩ := follows name target known
      refine ⟨pair, t, by simp [old, own], ?_⟩
      by_cases moved : target = key
      next =>
        subst moved
        rcases unchained name target last pair given with self | reached | back
        · exact absurd self old
        · rw [← reached, same] at found
          simpa using found.symm
        · rw [back, own] at found
          simpa using found.symm
      next => simp [moved, same]

theorem Follows.perform (follows : r.Follows linked) (unchained : Unchained linked) {call : Call}
    (within : call.Within linked) : (r.perform call).Follows linked := by
  cases call with
  | register name s => exact follows.register unchained name s
  | addAlias name target => exact follows.addAlias unchained within

theorem Follows.run (follows : r.Follows linked) (unchained : Unchained linked) {calls : List Call}
    (within : ∀ call ∈ calls, call.Within linked) : (r.run calls).Follows linked := by
  induction calls generalizing r with
  | nil => exact follows
  | cons call rest ih =>
    exact ih (follows.perform unchained (within call (by simp)))
      fun later member => within later (by simp [member])

end Follows

section Create

variable (σ : Store)

theorem follows_create {linked : String → String → Prop} (unchained : Unchained linked)
    (own : linked "positive_integer" "PositiveInteger") : (create σ).1.Follows linked := by
  refine create_induction σ ?_ ?_ ?_
  · intro date _ name target known
    cases known
  · intro r name b id _ follows
    exact follows.register unchained name _
  · intro r follows
    exact follows.addAlias unchained own

theorem create_alias :
    (create σ).1.aliases.get? "positive_integer" = some "PositiveInteger" ∧
      ((create σ).1.get? "positive_integer").isSome = true := by
  simp only [create, alias?, get?_register, aliases_register]
  simp [get?]

end Create

section Stands

variable {σ : Store} {calls : List Call} {name target : String}

theorem Stands.append (stands : Stands σ calls name target) (more : List Call)
    (others : ∀ call ∈ more, call.name ≠ name) : Stands σ (calls ++ more) name target := by
  rcases stands with ⟨before, after, rfl, made, untouched⟩ | ⟨own, known, untouched⟩
  · refine .inl ⟨before, after ++ more, by simp, made, ?_⟩
    simpa [or_imp, forall_and] using ⟨untouched, others⟩
  · refine .inr ⟨own, known, ?_⟩
    simpa [or_imp, forall_and] using ⟨untouched, others⟩

theorem Stands.aliases (stands : Stands σ calls name target) :
    ((create σ).1.run calls).aliases.get? name = some target := by
  rcases stands with ⟨before, after, rfl, made, untouched⟩ | ⟨rfl, rfl, untouched⟩
  · rw [isSome_alias?, Option.isSome_iff_exists] at made
    obtain ⟨s, found⟩ := made
    rw [run_append]
    refine (aliases_run_of_ne _ after untouched).trans ?_
    rw [(perform_addAlias found name).2, if_pos rfl]
  · rw [aliases_run_of_ne _ calls untouched]
    exact (create_alias σ).1

theorem Stands.isSome (stands : Stands σ calls name target) :
    (((create σ).1.run calls).get? name).isSome = true := by
  rcases stands with ⟨before, after, rfl, made, _⟩ | ⟨rfl, _, _⟩
  · rw [isSome_alias?, Option.isSome_iff_exists] at made
    obtain ⟨s, found⟩ := made
    rw [run_append]
    apply isSome_run (perform _ _) after
    rw [(perform_addAlias found name).1, if_pos rfl]
    rfl
  · exact isSome_run _ calls (create_alias σ).2

end Stands

/-- The pairs that alias calls may make, and the one that is there from the start. -/
def Linked (allowed : String → String → Prop) (name target : String) : Prop :=
  allowed name target ∨ name = "positive_integer" ∧ target = "PositiveInteger"

section Chain

variable {allowed : String → String → Prop} {name target last : String}

theorem exists_stands (linked : Linked allowed name target) (σ : Store) (calls : List Call)
    (others : ∀ call ∈ calls, call.name ≠ name)
    (known : (((create σ).1.run calls).get? target).isSome = true) :
    ∃ more, (∀ call ∈ more, call.Within allowed ∧ call.name = name) ∧
      Stands σ (calls ++ more) name target := by
  rcases linked with given | ⟨own, builtIn⟩
  · refine ⟨[.addAlias name target], ?_, .inl ⟨calls, [], rfl, ?_, by simp⟩⟩
    · simpa [Call.name, Call.Within] using given
    · rwa [isSome_alias?]
  · refine ⟨[], by simp, .inr ⟨own, builtIn, ?_⟩⟩
    simpa using others

/-- The last name of a chain gets a new type. Its alias follows, but not the alias of that alias. -/
theorem exists_lagging (r : TypeRegistry) (first : r.aliases.get? name = some target)
    (second : r.aliases.get? target = some last) (apart : target ≠ last) (back : last ≠ name) :
    ∃ s, ¬ (r.register last s).Synonyms name target := by
  obtain ⟨s, other⟩ : ∃ s, r.get? name ≠ some s := by
    cases r.get? name with
    | none => exact ⟨⟨0, .builtIn .string⟩, by simp⟩
    | some s =>
      refine ⟨⟨s.id + 1, s.kind⟩, fun same => ?_⟩
      simpa using congrArg Scalar.id (Option.some.inj same)
  refine ⟨s, ?_⟩
  rw [synonyms_iff]
  rintro ⟨t, own, same⟩
  rw [get?_register, if_pos (.inr second)] at same
  rw [get?_register, if_neg (by simp [first, apart, Ne.symm back])] at own
  exact other (own.trans same.symm)

/-- A run over a chain of three names after which the first two differ. -/
theorem exists_run_of_chain (first : Linked allowed name target)
    (second : Linked allowed target last) (apart : name ≠ target) (further : target ≠ last)
    (back : last ≠ name) : ∃ σ calls, (∀ call ∈ calls, call.Within allowed) ∧
      Stands σ calls name target ∧ ¬ ((create σ).1.run calls).Synonyms name target := by
  let types : List Call := [.register last ⟨0, .builtIn .string⟩]
  have registered : (((create .empty).1.run types).get? last).isSome = true := by
    simp [types, run, perform, get?_register]
  obtain ⟨made, withinMade, deep⟩ :=
    exists_stands second .empty types (by simp [types, Call.name, Ne.symm further]) registered
  have untouched : ∀ call ∈ types ++ made, call.name ≠ name := by
    intro call member
    rcases List.mem_append.mp member with early | late
    · rw [List.mem_singleton.mp early]
      exact back
    · rw [(withinMade call late).2]
      exact Ne.symm apart
  obtain ⟨again, withinAgain, stands⟩ := exists_stands first .empty _ untouched deep.isSome
  have deeper := deep.append again fun call member => (withinAgain call member).2 ▸ apart
  obtain ⟨s, differ⟩ := exists_lagging _ stands.aliases deeper.aliases further back
  refine ⟨.empty, types ++ made ++ again ++ [.register last s], ?_, ?_, ?_⟩
  · simp only [List.mem_append, List.mem_singleton, types]
    rintro call (((rfl | member) | member) | rfl)
    · trivial
    · exact (withinMade call member).1
    · exact (withinAgain call member).1
    · trivial
  · exact stands.append _ (by simpa [Call.name] using back)
  · rw [run_append]
    exact differ

end Chain

theorem aliases_mean_targets_iff (allowed : String → String → Prop) :
    (∀ σ calls, (∀ call ∈ calls, call.Within allowed) → ∀ name target,
      Stands σ calls name target → ((create σ).1.run calls).Synonyms name target) ↔
    ∀ name target last, Linked allowed name target → Linked allowed target last →
      name = target ∨ target = last ∨ last = name := by
  constructor
  · intro always name target last first second
    by_contra chain
    simp only [not_or] at chain
    obtain ⟨apart, further, back⟩ := chain
    obtain ⟨σ, calls, within, stands, differ⟩ :=
      exists_run_of_chain first second apart further back
    exact differ (always σ calls within name target stands)
  · intro unchained σ calls within name target stands
    have start := follows_create σ unchained (.inr ⟨rfl, rfl⟩)
    have widened : ∀ call ∈ calls, call.Within (Linked allowed) := by
      intro call member
      cases call with
      | register key s => trivial
      | addAlias key last => exact .inl (within _ member)
    obtain ⟨_, same⟩ := start.run unchained widened name target stands.aliases
    exact (synonyms_iff _ name target).mpr same

/-- A registration two steps away from an alias. -/
def registeredBeyond : List Call :=
  [.addAlias "count" "positive_integer", .register "PositiveInteger" ⟨7, .builtIn .string⟩]

/-- A name that becomes an alias after it got one. -/
def aliasedAfter : List Call := [.addAlias "number" "integer", .addAlias "integer" "string"]

theorem alias_lags_behind_target :
    (Stands .empty registeredBeyond "count" "positive_integer" ∧
      ¬ ((create .empty).1.run registeredBeyond).Synonyms "count" "positive_integer") ∧
    Stands .empty aliasedAfter "number" "integer" ∧
      ¬ ((create .empty).1.run aliasedAfter).Synonyms "number" "integer" := by
  have differ {r : TypeRegistry} {name other : String} {s t : Scalar} (own : r.get? name = some s)
      (target : r.get? other = some t) (apart : s.id ≠ t.id) : ¬ r.Synonyms name other := by
    rw [synonyms_iff, own, target]
    rintro ⟨u, first, second⟩
    rw [Option.some.inj first, Option.some.inj second] at apart
    exact apart rfl
  refine ⟨⟨.inl ⟨[], _, rfl, rfl, ?_⟩, ?_⟩, .inl ⟨[], _, rfl, rfl, ?_⟩, ?_⟩
  · simp [Call.name]
  · exact differ rfl rfl (by decide)
  · simp [Call.name]
  · exact differ rfl rfl (by decide)

end RecordSchema.TypeRegistry
