import RecordSchema.Namespace.Tree
import RecordSchema.Proofs.KeyMap
import RecordSchema.Proofs.Namespace.Names

set_option autoImplicit false

/-!
How a tree of namespaces grows. Nodes are only added, with the names and links that they keep, and
names are bound in them.
-/

namespace RecordSchema.NamespaceTree

structure IsChild (t : NamespaceTree) (parent : Nat) (name : String) (child : Nat) : Prop where
  later : parent < child
  inside : child < t.size
  filled : name ≠ ""
  named : (t.get child).name = name
  parentOf : (t.get child).parent = some parent
  qualified : (t.get child).qualifiedName = qualify (t.get parent).qualifiedName name

structure WellFormed (t : NamespaceTree) : Prop where
  rooted : 0 < t.size
  rootName : (t.get 0).name = ""
  rootQualified : (t.get 0).qualifiedName = ""
  rootParent : (t.get 0).parent = none
  isChild : ∀ parent name child,
    (t.get parent).children.get? name = some child → t.IsChild parent name child
  linked : ∀ node, 0 < node → node < t.size →
    ∃ parent name, (t.get parent).children.get? name = some node

/-- What earlier nodes were stays, except for the names bound in them. -/
structure Extends (t later : NamespaceTree) : Prop where
  size : t.size ≤ later.size
  name : ∀ i < t.size, (later.get i).name = (t.get i).name
  qualifiedName : ∀ i < t.size, (later.get i).qualifiedName = (t.get i).qualifiedName
  parent : ∀ i < t.size, (later.get i).parent = (t.get i).parent
  child : ∀ i segment k, (t.get i).children.get? segment = some k →
    (later.get i).children.get? segment = some k

theorem Extends.refl (t : NamespaceTree) : t.Extends t :=
  ⟨Nat.le_refl _, fun _ _ => rfl, fun _ _ => rfl, fun _ _ => rfl, fun _ _ _ h => h⟩

theorem Extends.trans {t u v : NamespaceTree} (first : t.Extends u) (second : u.Extends v) :
    t.Extends v where
  size := Nat.le_trans first.size second.size
  name i inside := (second.name i (by have := first.size; omega)).trans (first.name i inside)
  qualifiedName i inside :=
    (second.qualifiedName i (by have := first.size; omega)).trans (first.qualifiedName i inside)
  parent i inside := (second.parent i (by have := first.size; omega)).trans (first.parent i inside)
  child i segment k h := second.child i segment k (first.child i segment k h)

theorem get_empty (i : Nat) : empty.get i = Namespace.root := by
  cases i <;> rfl

theorem wellFormed_empty : empty.WellFormed where
  rooted := by decide
  rootName := rfl
  rootQualified := rfl
  rootParent := rfl
  isChild parent name child h := by simp [get_empty, Namespace.root] at h
  linked node positive inside := by
    have one : empty.size = 1 := rfl
    omega

theorem get_of_size_le (t : NamespaceTree) (i : Nat) (outside : t.size ≤ i) :
    t.get i = Namespace.root := by
  simp [get, List.getD_eq_getElem?_getD, List.getElem?_eq_none (show t.nodes.length ≤ i from outside)]

theorem inside_of_bound (t : NamespaceTree) {i : Nat} {name key : String}
    (bound : (t.get i).bindings.get? name = some key) : i < t.size := by
  by_contra outside
  rw [get_of_size_le t i (by omega)] at bound
  simp [Namespace.root] at bound

theorem inside_of_child (t : NamespaceTree) {i : Nat} {name : String} {k : Nat}
    (known : (t.get i).children.get? name = some k) : i < t.size := by
  by_contra outside
  rw [get_of_size_le t i (by omega)] at known
  simp [Namespace.root] at known

variable {t : NamespaceTree} {parent : Nat} {segment : String}

theorem findOrCreate_of_some {child : Nat}
    (known : (t.get parent).children.get? segment = some child) :
    t.findOrCreate parent segment = (t, child) := by
  simp [findOrCreate, known]

/-- The tree with a new last node below a node. -/
def attach (t : NamespaceTree) (parent : Nat) (segment : String) : NamespaceTree :=
  ⟨(t.nodes.modify parent fun p => { p with children := p.children.insert segment t.size }) ++
    [⟨segment, qualify (t.get parent).qualifiedName segment, some parent, .empty, .empty⟩]⟩

theorem findOrCreate_of_none (missing : (t.get parent).children.get? segment = none) :
    t.findOrCreate parent segment = (t.attach parent segment, t.size) := by
  simp [findOrCreate, missing, attach]

@[simp] theorem size_attach : (t.attach parent segment).size = t.size + 1 := by
  simp [attach, size]

theorem get_attach_new :
    (t.attach parent segment).get t.size =
      ⟨segment, qualify (t.get parent).qualifiedName segment, some parent, .empty, .empty⟩ := by
  simp [attach, get, size, List.getD_eq_getElem?_getD]

theorem get_attach_of_ne (i : Nat) (old : i ≠ t.size) (other : i ≠ parent) :
    (t.attach parent segment).get i = t.get i := by
  simp only [attach, get, size, List.getD_eq_getElem?_getD] at old ⊢
  by_cases before : i < t.nodes.length
  · rw [List.getElem?_append_left (by simpa using before)]
    simp [Ne.symm other]
  · rw [List.getElem?_eq_none (by simp; omega), List.getElem?_eq_none (by omega)]

theorem get_attach_parent (inside : parent < t.size) :
    (t.attach parent segment).get parent =
      { t.get parent with children := (t.get parent).children.insert segment t.size } := by
  simp only [attach, get, size, List.getD_eq_getElem?_getD] at inside ⊢
  rw [List.getElem?_append_left (by simpa using inside)]
  simp [inside]

theorem extends_attach (inside : parent < t.size)
    (missing : (t.get parent).children.get? segment = none) :
    t.Extends (t.attach parent segment) := by
  have kept (i : Nat) (old : i < t.size) :
      (t.attach parent segment).get i = t.get i ∨
        (t.attach parent segment).get i =
          { t.get i with children := (t.get i).children.insert segment t.size } ∧ i = parent := by
    by_cases same : i = parent
    · subst same
      exact .inr ⟨get_attach_parent inside, rfl⟩
    · exact .inl (get_attach_of_ne i (by omega) same)
  refine ⟨by simp, ?_, ?_, ?_, ?_⟩
  iterate 3
    · intro i old
      rcases kept i old with same | ⟨same, _⟩ <;> rw [same]
  · intro i name k known
    have old := t.inside_of_child known
    rcases kept i old with same | ⟨same, rfl⟩
    · rw [same]
      exact known
    · have other : name ≠ segment := by
        rintro rfl
        simp [missing] at known
      simpa [same, other] using known

theorem extends_findOrCreate (inside : parent < t.size) :
    t.Extends (t.findOrCreate parent segment).1 := by
  cases found : (t.get parent).children.get? segment with
  | some child =>
      rw [findOrCreate_of_some found]
      exact .refl t
  | none =>
      rw [findOrCreate_of_none found]
      exact extends_attach inside found

theorem child_findOrCreate (inside : parent < t.size) :
    ((t.findOrCreate parent segment).1.get parent).children.get? segment =
      some (t.findOrCreate parent segment).2 := by
  cases found : (t.get parent).children.get? segment with
  | some child => rw [findOrCreate_of_some found, found]
  | none =>
      rw [findOrCreate_of_none found, get_attach_parent inside]
      simp

theorem bindings_findOrCreate (inside : parent < t.size) (i : Nat) :
    ((t.findOrCreate parent segment).1.get i).bindings = (t.get i).bindings := by
  cases found : (t.get parent).children.get? segment with
  | some child => rw [findOrCreate_of_some found]
  | none =>
      rw [findOrCreate_of_none found]
      by_cases new : i = t.size
      · rw [new, get_attach_new, get_of_size_le t t.size (Nat.le_refl _)]
        rfl
      · by_cases same : i = parent
        · rw [same, get_attach_parent inside]
        · rw [get_attach_of_ne i new same]

theorem child_of_attach (inside : parent < t.size) {i : Nat} {name : String} {k : Nat}
    (known : ((t.attach parent segment).get i).children.get? name = some k) :
    (t.get i).children.get? name = some k ∨ (i = parent ∧ name = segment ∧ k = t.size) := by
  by_cases new : i = t.size
  · rw [new, get_attach_new] at known
    simp at known
  · by_cases same : i = parent
    · subst same
      rw [get_attach_parent inside] at known
      by_cases own : name = segment
      · exact .inr ⟨rfl, own, by simpa [own] using known.symm⟩
      · exact .inl (by simpa [own] using known)
    · rw [get_attach_of_ne i new same] at known
      exact .inl known

theorem link_of_findOrCreate (inside : parent < t.size) {i : Nat} {name : String} {k : Nat}
    (known : ((t.findOrCreate parent segment).1.get i).children.get? name = some k) :
    (t.get i).children.get? name = some k ∨
      (i = parent ∧ name = segment ∧ k = t.size ∧
        (t.findOrCreate parent segment).1.size = t.size + 1) := by
  cases found : (t.get parent).children.get? segment with
  | some child =>
    rw [findOrCreate_of_some found] at known
    exact .inl known
  | none =>
    rw [findOrCreate_of_none found] at known ⊢
    rcases child_of_attach inside known with old | ⟨here, named, new⟩
    · exact .inl old
    · exact .inr ⟨here, named, new, size_attach⟩

theorem wellFormed_attach (well : t.WellFormed) (inside : parent < t.size)
    (missing : (t.get parent).children.get? segment = none) (filled : segment ≠ "") :
    (t.attach parent segment).WellFormed := by
  have more := extends_attach inside missing
  have root := well.rooted
  refine ⟨by simp, (more.name 0 root).trans well.rootName,
    (more.qualifiedName 0 root).trans well.rootQualified,
    (more.parent 0 root).trans well.rootParent, ?_, ?_⟩
  · intro i name k known
    rcases child_of_attach inside known with old | ⟨rfl, rfl, rfl⟩
    · have child := well.isChild i name k old
      have before : i < t.size := Nat.lt_trans child.later child.inside
      exact ⟨child.later, by have := child.inside; simp; omega, child.filled,
        (more.name k child.inside).trans child.named,
        (more.parent k child.inside).trans child.parentOf,
        by rw [more.qualifiedName k child.inside, more.qualifiedName i before, child.qualified]⟩
    · exact ⟨inside, by simp, filled, by rw [get_attach_new], by rw [get_attach_new],
        by rw [get_attach_new, more.qualifiedName i inside]⟩
  · intro node positive below
    by_cases new : node = t.size
    · exact ⟨parent, segment, by rw [get_attach_parent inside, new]; simp⟩
    · obtain ⟨i, name, known⟩ := well.linked node positive (by rw [size_attach] at below; omega)
      exact ⟨i, name, more.child i name node known⟩

theorem wellFormed_findOrCreate (well : t.WellFormed) (inside : parent < t.size)
    (filled : segment ≠ "") : (t.findOrCreate parent segment).1.WellFormed := by
  cases found : (t.get parent).children.get? segment with
  | some child =>
      rw [findOrCreate_of_some found]
      exact well
  | none =>
      rw [findOrCreate_of_none found]
      exact wellFormed_attach well inside found filled

section Bind

theorem get_bind (id : Nat) (inside : id < t.size) (name key : String) (i : Nat) :
    (t.bind id name key).get i =
      { t.get i with
        bindings := if i = id then (t.get i).bindings.insert name key else (t.get i).bindings } := by
  simp only [bind, get, size, List.getD_eq_getElem?_getD, List.getElem?_modify] at inside ⊢
  by_cases same : i = id
  · subst same
    simp [inside]
  · simp [same, Ne.symm same]

theorem children_bind (id : Nat) (inside : id < t.size) (name key : String) (i : Nat) :
    ((t.bind id name key).get i).children = (t.get i).children := by
  rw [get_bind id inside]

theorem qualifiedName_bind (id : Nat) (inside : id < t.size) (name key : String) (i : Nat) :
    ((t.bind id name key).get i).qualifiedName = (t.get i).qualifiedName := by
  rw [get_bind id inside]

theorem binding_bind (id : Nat) (inside : id < t.size) (name key : String) (i : Nat)
    (other : String) :
    ((t.bind id name key).get i).bindings.get? other =
      if i = id ∧ other = name then some key else (t.get i).bindings.get? other := by
  rw [get_bind id inside]
  by_cases here : i = id <;> simp [here]

@[simp] theorem size_bind (id : Nat) (name key : String) : (t.bind id name key).size = t.size := by
  simp [bind, size]

theorem extends_bind (id : Nat) (inside : id < t.size) (name key : String) :
    t.Extends (t.bind id name key) := by
  refine ⟨by simp, ?_, ?_, ?_, ?_⟩ <;> intros <;> simp_all [get_bind]

theorem ext_get {u : NamespaceTree} (size : t.size = u.size) (same : ∀ i, t.get i = u.get i) :
    t = u := by
  have nodes : t.nodes = u.nodes := by
    refine List.ext_getElem size fun i inside otherInside => ?_
    simpa [get, List.getD_eq_getElem?_getD, inside, otherInside] using same i
  rwa [NamespaceTree.mk.injEq]

theorem bind_of_bound (id : Nat) {name key : String}
    (bound : (t.get id).bindings.get? name = some key) : t.bind id name key = t := by
  have inside := t.inside_of_bound bound
  refine ext_get (size_bind id name key) fun i => ?_
  rw [get_bind id inside]
  by_cases here : i = id
  · rw [if_pos here, here, KeyMap.insert_of_get? bound]
  · rw [if_neg here]

theorem wellFormed_bind (well : t.WellFormed) (id : Nat) (inside : id < t.size)
    (name key : String) : (t.bind id name key).WellFormed := by
  obtain ⟨rooted, rootName, rootQualified, rootParent, isChild, linked⟩ := well
  refine ⟨by simpa using rooted, by simpa [get_bind _ inside] using rootName,
    by simpa [get_bind _ inside] using rootQualified,
    by simpa [get_bind _ inside] using rootParent, ?_, ?_⟩
  · intro parent segment child known
    obtain ⟨later, within, filled, named, parentOf, qualified⟩ :=
      isChild parent segment child (by simpa [get_bind _ inside] using known)
    exact ⟨later, by simpa using within, filled, by simpa [get_bind _ inside] using named,
      by simpa [get_bind _ inside] using parentOf, by simpa [get_bind _ inside] using qualified⟩
  · intro node positive below
    obtain ⟨parent, segment, known⟩ := linked node positive (by simpa using below)
    exact ⟨parent, segment, by simpa [get_bind _ inside] using known⟩

end Bind

end RecordSchema.NamespaceTree
