import RecordSchema.KeyMap
import Mathlib.Data.List.Nodup

set_option autoImplicit false

/-!
Look-ups in lists of entries under distinct keys, and in finite maps.
-/

namespace RecordSchema

variable {α : Type}

theorem lookup_of_mem {fields : List (String × α)} {name : String} {value : α}
    (distinct : (fields.map Prod.fst).Nodup) (member : (name, value) ∈ fields) :
    fields.lookup name = some value := by
  induction fields with
  | nil => cases member
  | cons head rest ih =>
    rw [List.map_cons, List.nodup_cons] at distinct
    rcases List.mem_cons.mp member with rfl | later
    · simp
    · have other : (name == head.1) = false := by
        rw [beq_eq_false_iff_ne]
        rintro rfl
        exact distinct.1 (List.mem_map.mpr ⟨_, later, rfl⟩)
      rw [List.lookup_cons, other]
      exact ih distinct.2 later

theorem mem_iff_lookup {fields : List (String × α)} (distinct : (fields.map Prod.fst).Nodup)
    (name : String) (value : α) :
    (name, value) ∈ fields ↔ fields.lookup name = some value := by
  constructor
  · exact lookup_of_mem distinct
  · intro found
    obtain ⟨before, after, rfl, _⟩ := List.lookup_eq_some_iff.mp found
    simp

theorem lookup_eq_none_of_not_mem {fields : List (String × α)} {name : String}
    (absent : name ∉ fields.map Prod.fst) : fields.lookup name = none := by
  rw [List.lookup_eq_none_iff]
  intro e member
  rw [bne_iff_ne]
  rintro rfl
  exact absent (List.mem_map.mpr ⟨e, member, rfl⟩)

theorem lookup_foldl_insertEntry (fields entries : List (String × α))
    (distinct : (fields.map Prod.fst).Nodup) (key : String) :
    (fields.foldl (fun entries e => insertEntry e.1 e.2 entries) entries).lookup key =
      (fields.lookup key).or (entries.lookup key) := by
  induction fields generalizing entries with
  | nil => simp
  | cons head rest ih =>
    rw [List.map_cons, List.nodup_cons] at distinct
    rw [List.foldl_cons, ih _ distinct.2, KeyMap.lookup_insertEntry, List.lookup_cons]
    by_cases same : key = head.1
    next =>
      subst same
      -- No later field is put in the place of this one.
      simp [lookup_eq_none_of_not_mem distinct.1]
    next =>
      simp [same, beq_eq_false_iff_ne.mpr same]

theorem Ordered.distinct {entries : List (String × α)} (ordered : Ordered entries) :
    (entries.map Prod.fst).Nodup := by
  rw [List.Nodup, List.pairwise_map]
  refine List.Pairwise.imp ?_ ordered
  rintro a b less same
  exact String.lt_irrefl b.1 (same ▸ less)

namespace KeyMap

theorem mem_toList_iff (m : KeyMap α) (key : String) (value : α) :
    (key, value) ∈ m.toList ↔ m.get? key = some value :=
  mem_iff_lookup m.ordered.distinct key value

theorem mem_keys_iff (m : KeyMap α) (key : String) :
    key ∈ m.keys ↔ ∃ value, m.get? key = some value := by
  simp [keys, ← mem_toList_iff, toList]

theorem get?_ofList {fields : List (String × α)} (distinct : (fields.map Prod.fst).Nodup)
    (key : String) : (ofList fields).get? key = fields.lookup key := by
  have entries (m : KeyMap α) : (fields.foldl (fun m e => m.insert e.1 e.2) m).entries =
      fields.foldl (fun entries e => insertEntry e.1 e.2 entries) m.entries := by
    induction fields generalizing m with
    | nil => rfl
    | cons head rest ih => exact ih (List.nodup_cons.mp distinct).2 (m.insert head.1 head.2)
  rw [get?, ofList, entries, lookup_foldl_insertEntry fields _ distinct]
  exact Option.or_none

theorem insert_of_get? {m : KeyMap α} {key : String} {value : α}
    (known : m.get? key = some value) : m.insert key value = m := by
  refine ext_get? fun other => ?_
  rw [get?_insert]
  split
  next own => rw [own, known]
  next => rfl

theorem get?_erase (m : KeyMap α) (key other : String) :
    (m.erase key).get? other = if other = key then none else m.get? other := by
  obtain ⟨entries, ordered⟩ := m
  simp only [get?, erase]
  induction entries with
  | nil => simp
  | cons head rest ih =>
    obtain ⟨k, value⟩ := head
    have below := ih (List.pairwise_cons.mp ordered).2
    by_cases gone : k = key
    next =>
      rw [List.filter_cons_of_neg (by simp [gone]), below]
      by_cases same : other = key <;> simp [List.lookup_cons, gone, same, beq_eq_false_iff_ne.mpr]
    next =>
      rw [List.filter_cons_of_pos (by simp [gone])]
      by_cases same : other = k
      · simp [same, gone]
      · simp [List.lookup_cons, below, same, beq_eq_false_iff_ne.mpr]

end KeyMap

end RecordSchema
