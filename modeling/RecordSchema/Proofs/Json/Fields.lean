import RecordSchema.Json.Basic
import RecordSchema.Proofs.KeyMap

set_option autoImplicit false

/-!
Objects made of fields under distinct keys. However an object lists its fields, it has the same data
under the same keys.
-/

namespace RecordSchema.Json

theorem field?_nil (key : String) : field? key [] = none := rfl

theorem field?_cons (key name : String) (data : Json) (rest : List (String × Json)) :
    field? key ((name, data) :: rest) = if name = key then some data else field? key rest := by
  by_cases same : name = key
  · simp [field?, same]
  · simp [field?, List.lookup_cons, same, beq_eq_false_iff_ne.mpr (Ne.symm same)]

/-- A way to make objects that lists each field once, in any order. -/
def ListsFields (object : List (String × Json) → Json) : Prop :=
  ∀ fields : List (String × Json), (fields.map Prod.fst).Nodup →
    ∃ listed, object fields = .obj listed ∧ (listed.map Prod.fst).Nodup ∧
      ∀ key, field? key listed = field? key fields

theorem listsFields_obj : ListsFields .obj :=
  fun fields distinct => ⟨fields, rfl, distinct, fun _ => rfl⟩

theorem ordered_foldl_insertEntry {α : Type} (fields : List (String × α))
    {entries : List (String × α)} (ordered : Ordered entries) :
    Ordered (fields.foldl (fun entries e => insertEntry e.1 e.2 entries) entries) := by
  induction fields generalizing entries with
  | nil => exact ordered
  | cons head rest ih => exact ih (ordered_insertEntry ordered)

theorem listsFields_mkObj : ListsFields mkObj := by
  intro fields distinct
  refine ⟨_, rfl, (ordered_foldl_insertEntry fields .nil).distinct, ?_⟩
  intro key
  rw [field?, lookup_foldl_insertEntry fields [] distinct key]
  simp

end RecordSchema.Json
