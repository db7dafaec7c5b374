set_option autoImplicit false

/-!
Finite maps from texts, kept as a list in increasing order of keys. Main statement: two maps with
the same look-ups are equal.
-/

namespace RecordSchema

/-- Puts a key into an ordered list of entries; an entry under the same key is replaced. -/
def insertEntry {α : Type} (key : String) (value : α) : List (String × α) → List (String × α)
  | [] => [(key, value)]
  | (k, v) :: rest =>
      if key < k then (key, value) :: (k, v) :: rest
      else if key = k then (key, value) :: rest
      else (k, v) :: insertEntry key value rest

theorem mem_insertEntry {α : Type} {key : String} {value : α} {entries : List (String × α)}
    {e : String × α} (h : e ∈ insertEntry key value entries) :
    e = (key, value) ∨ e ∈ entries := by
  induction entries with
  | nil => simpa [insertEntry] using h
  | cons head rest ih =>
      obtain ⟨k, v⟩ := head
      simp only [insertEntry] at h
      split at h
      · simpa using h
      · split at h
        · simp only [List.mem_cons] at h ⊢
          rcases h with h | h
          · exact .inl h
          · exact .inr (.inr h)
        · simp only [List.mem_cons] at h ⊢
          rcases h with h | h
          · exact .inr (.inl h)
          · rcases ih h with h | h
            · exact .inl h
            · exact .inr (.inr h)

abbrev Ordered {α : Type} (entries : List (String × α)) : Prop :=
  entries.Pairwise fun a b => a.1 < b.1

theorem ordered_insertEntry {α : Type} {key : String} {value : α} {entries : List (String × α)}
    (h : Ordered entries) : Ordered (insertEntry key value entries) := by
  induction entries with
  | nil => simp [insertEntry]
  | cons head rest ih =>
      obtain ⟨k, v⟩ := head
      rw [Ordered, List.pairwise_cons] at h
      simp only [insertEntry]
      split
      · rename_i lt
        refine List.Pairwise.cons ?_ (List.Pairwise.cons h.1 h.2)
        intro e he
        rcases List.mem_cons.mp he with rfl | he
        · exact lt
        · exact String.lt_trans lt (h.1 e he)
      · split
        · rename_i eq
          subst eq
          exact List.Pairwise.cons h.1 h.2
        · rename_i notLt ne
          refine List.Pairwise.cons ?_ (ih h.2)
          intro e he
          rcases mem_insertEntry he with rfl | he
          · exact Std.lt_of_le_of_ne (String.not_lt.mp notLt) (Ne.symm ne)
          · exact h.1 e he

structure KeyMap (α : Type) where
  entries : List (String × α)
  ordered : Ordered entries

namespace KeyMap

variable {α β : Type}

def empty : KeyMap α := ⟨[], .nil⟩

instance : EmptyCollection (KeyMap α) := ⟨empty⟩

instance : Inhabited (KeyMap α) := ⟨empty⟩

def get? (m : KeyMap α) (key : String) : Option α := m.entries.lookup key

def contains (m : KeyMap α) (key : String) : Bool := (m.get? key).isSome

def insert (m : KeyMap α) (key : String) (value : α) : KeyMap α :=
  ⟨insertEntry key value m.entries, ordered_insertEntry m.ordered⟩

def erase (m : KeyMap α) (key : String) : KeyMap α :=
  ⟨m.entries.filter fun e => e.1 != key, m.ordered.filter _⟩

def keys (m : KeyMap α) : List String := m.entries.map (·.1)

def size (m : KeyMap α) : Nat := m.entries.length

def isEmpty (m : KeyMap α) : Bool := m.entries.isEmpty

def toList (m : KeyMap α) : List (String × α) := m.entries

/-- Later entries win. -/
def ofList (entries : List (String × α)) : KeyMap α :=
  entries.foldl (fun m e => m.insert e.1 e.2) empty

def map (f : String → α → β) (m : KeyMap α) : KeyMap β :=
  ⟨m.entries.map fun e => (e.1, f e.1 e.2), by
    have h := m.ordered
    rw [Ordered, List.pairwise_map]
    exact h⟩

theorem lookup_insertEntry (key k : String) (value : α) (entries : List (String × α)) :
    (insertEntry key value entries).lookup k =
      if k = key then some value else entries.lookup k := by
  induction entries with
  | nil => by_cases h : k = key <;> simp [insertEntry, List.lookup_cons, h, beq_eq_false_iff_ne.mpr]
  | cons head rest ih =>
      obtain ⟨k', v⟩ := head
      simp only [insertEntry]
      by_cases h : k = key
      · subst h
        split
        · simp
        · split
          · simp
          · rename_i ne
            have hb : (k == k') = false := beq_eq_false_iff_ne.mpr ne
            simp [List.lookup_cons, hb, ih]
      · have hb : (k == key) = false := beq_eq_false_iff_ne.mpr h
        split
        · simp [List.lookup_cons, hb]
        · split
          · rename_i eq
            subst eq
            simp [List.lookup_cons, hb]
          · simp only [List.lookup_cons, ih, h, if_false]

@[simp] theorem get?_insert (m : KeyMap α) (key k : String) (value : α) :
    (m.insert key value).get? k = if k = key then some value else m.get? k :=
  lookup_insertEntry key k value m.entries

@[simp] theorem get?_empty (k : String) : (empty : KeyMap α).get? k = none := rfl

theorem lookup_map (f : String → α → β) (entries : List (String × α)) (k : String) :
    (entries.map fun e => (e.1, f e.1 e.2)).lookup k = (entries.lookup k).map (f k) := by
  induction entries with
  | nil => rfl
  | cons head rest ih =>
      obtain ⟨k', v⟩ := head
      simp only [List.map_cons, List.lookup_cons, ih]
      cases same : k == k' with
      | true => simp [eq_of_beq same]
      | false => rfl

@[simp] theorem get?_map (f : String → α → β) (m : KeyMap α) (k : String) :
    (m.map f).get? k = (m.get? k).map (f k) :=
  lookup_map f m.entries k

theorem lookup_eq_none_of_lt {k : String} {entries : List (String × α)}
    (h : ∀ e ∈ entries, k < e.1) : entries.lookup k = none := by
  induction entries with
  | nil => rfl
  | cons head rest ih =>
      obtain ⟨k', v⟩ := head
      have lt : k < k' := h (k', v) (by simp)
      have hb : (k == k') = false :=
        beq_eq_false_iff_ne.mpr fun eq => String.lt_irrefl k (eq ▸ lt)
      simp only [List.lookup_cons, hb]
      exact ih fun e he => h e (by simp [he])

theorem eq_of_lookup_eq {a b : List (String × α)} (ha : Ordered a) (hb : Ordered b)
    (h : ∀ k, a.lookup k = b.lookup k) : a = b := by
  induction a generalizing b with
  | nil =>
      cases b with
      | nil => rfl
      | cons head rest =>
          obtain ⟨k, v⟩ := head
          simpa [List.lookup_cons] using h k
  | cons x xs ih =>
      cases b with
      | nil =>
          obtain ⟨k, v⟩ := x
          simpa [List.lookup_cons] using h k
      | cons y ys =>
          obtain ⟨k, v⟩ := x
          obtain ⟨k', v'⟩ := y
          rw [Ordered, List.pairwise_cons] at ha hb
          have hx := h k
          have hy := h k'
          simp only [List.lookup_cons, BEq.rfl] at hx hy
          have key : k = k' := by
            by_cases eq : k = k'
            · exact eq
            · rcases String.le_total k k' with le | le
              · have lt := Std.lt_of_le_of_ne le eq
                rw [beq_eq_false_iff_ne.mpr eq] at hx
                rw [lookup_eq_none_of_lt fun e he => String.lt_trans lt (hb.1 e he)] at hx
                simp at hx
              · have lt := Std.lt_of_le_of_ne le (Ne.symm eq)
                rw [beq_eq_false_iff_ne.mpr (Ne.symm eq)] at hy
                rw [lookup_eq_none_of_lt fun e he => String.lt_trans lt (ha.1 e he)] at hy
                simp at hy
          subst key
          have value : v = v' := by simpa using hx
          subst value
          refine congrArg _ (ih ha.2 hb.2 fun j => ?_)
          by_cases eq : j = k
          · subst eq
            rw [lookup_eq_none_of_lt ha.1, lookup_eq_none_of_lt hb.1]
          · have := h j
            simpa [List.lookup_cons, beq_eq_false_iff_ne.mpr eq] using this

theorem ext_get? {a b : KeyMap α} (h : ∀ k, a.get? k = b.get? k) : a = b := by
  obtain ⟨as, ha⟩ := a
  obtain ⟨bs, hb⟩ := b
  have := eq_of_lookup_eq ha hb h
  subst this
  rfl

theorem keys_eq_of_isSome {a : KeyMap α} {b : KeyMap β}
    (same : ∀ k, (a.get? k).isSome = (b.get? k).isSome) : a.keys = b.keys := by
  have marked : a.map (fun _ _ => ()) = b.map fun _ _ => () := by
    apply ext_get?
    intro k
    have here := same k
    rw [get?_map, get?_map]
    cases first : a.get? k <;> cases second : b.get? k <;> simp_all
  have keys := congrArg KeyMap.keys marked
  simpa [KeyMap.keys, KeyMap.map, Function.comp_def] using keys

end KeyMap

end RecordSchema
