import RecordSchema.Files.Tree
import RecordSchema.Proofs.KeyMap

set_option autoImplicit false

/-!
What a walk through a tree of files finds. Every file is met once, under the names that lead to it,
and going down by name makes these lists of names increase. The order in which directories list
their entries plays no part.
-/

namespace RecordSchema.FileTree

/-- A file of a tree and the names that lead to it. -/
inductive Holds : FileTree → List String → FileContent → Prop where
  | here (content : FileContent) : Holds (file content) [] content
  | under {entries : List (String × FileTree)} {name : String} {t : FileTree}
      {names : List String} {content : FileContent} (entry : entries.lookup name = some t)
      (held : t.Holds names content) : Holds (directory entries) (name :: names) content

/-- Trees that differ in nothing but the order in which directories list their entries. -/
inductive Relisted : FileTree → FileTree → Prop where
  | refl (t : FileTree) : Relisted t t
  | trans {t between u : FileTree} : Relisted t between → Relisted between u → Relisted t u
  | reorder {entries others : List (String × FileTree)} (distinct : (entries.map Prod.fst).Nodup)
      (moved : entries.Perm others) : Relisted (directory entries) (directory others)
  | inside {t u : FileTree} (before : List (String × FileTree)) (name : String)
      (after : List (String × FileTree)) (deeper : Relisted t u) :
      Relisted (directory (before ++ (name, t) :: after))
        (directory (before ++ (name, u) :: after))

section Entries

variable (entries : List (String × FileTree))

theorem ordered_filesByName : Ordered (filesByName entries) := by
  induction entries with
  | nil => exact .nil
  | cons e rest ih =>
    rw [filesByName]
    exact ordered_insertEntry ih

theorem lookup_filesByName (name : String) :
    (filesByName entries).lookup name = (entries.lookup name).map files := by
  induction entries with
  | nil => rfl
  | cons e rest ih =>
    obtain ⟨first, t⟩ := e
    rw [filesByName, KeyMap.lookup_insertEntry, ih, List.lookup_cons]
    by_cases same : name = first <;> simp [same, beq_eq_false_iff_ne.mpr]

theorem mem_filesByName_iff (name : String) (found : List (List String × FileContent)) :
    (name, found) ∈ filesByName entries ↔ ∃ t, entries.lookup name = some t ∧ t.files = found := by
  rw [mem_iff_lookup (ordered_filesByName entries).distinct, lookup_filesByName,
    Option.map_eq_some_iff]

theorem areListable_eq_all : areListable entries = entries.all fun e => e.2.isListable := by
  induction entries with
  | nil => rfl
  | cons e rest ih => rw [areListable, ih, List.all_cons]

end Entries

theorem mem_files_iff (t : FileTree) (names : List String) (content : FileContent) :
    (names, content) ∈ t.files ↔ t.Holds names content := by
  -- A walk goes down by the same names that a file is held under.
  induction names generalizing t with
  | nil =>
    constructor
    · intro found
      cases t with
      | file held =>
        rw [files, List.mem_singleton] at found
        rw [(Prod.mk.inj found).2]
        exact .here held
      | directory entries => simp [files] at found
      | closed | other => simp [files] at found
    · intro held
      cases held
      simp [files]
  | cons name rest ih =>
    cases t with
    | directory entries =>
      have split : (name :: rest, content) ∈ (directory entries).files ↔
          ∃ found, (name, found) ∈ filesByName entries ∧ (rest, content) ∈ found := by
        simp [files]
      rw [split]
      constructor
      · intro ⟨found, listed, member⟩
        obtain ⟨child, entry, rfl⟩ := (mem_filesByName_iff entries name found).mp listed
        exact .under entry ((ih child).mp member)
      · intro held
        cases held with
        | under entry held =>
          exact ⟨_, (mem_filesByName_iff entries name _).mpr ⟨_, entry, rfl⟩, (ih _).mpr held⟩
    | file _ | closed | other =>
      constructor
      · intro found
        simp [files] at found
      · intro held
        cases held

mutual

theorem pairwise_files : ∀ t : FileTree, t.files.Pairwise fun f g => f.1 < g.1
  | file _ => List.pairwise_singleton _ _
  | closed | other => .nil
  | directory entries => by
      rw [files, List.pairwise_flatMap]
      constructor
      · intro e member
        rw [List.pairwise_map]
        refine (pairwise_filesByName entries e member).imp ?_
        intro f g less
        exact List.cons_lt_cons_iff.mpr (.inr ⟨rfl, less⟩)
      · -- All files of one entry come before those of a later one, however deep they are.
        refine (ordered_filesByName entries).imp ?_
        intro d e less f first g second
        obtain ⟨_, _, rfl⟩ := List.mem_map.mp first
        obtain ⟨_, _, rfl⟩ := List.mem_map.mp second
        exact List.cons_lt_cons_iff.mpr (.inl less)

theorem pairwise_filesByName : ∀ entries : List (String × FileTree),
    ∀ e ∈ filesByName entries, e.2.Pairwise fun f g => f.1 < g.1
  | [], _, member => by cases member
  | (name, t) :: rest, e, member => by
      rw [filesByName] at member
      rcases mem_insertEntry member with rfl | later
      · exact pairwise_files t
      · exact pairwise_filesByName rest e later

end

theorem files_directory_congr {entries others : List (String × FileTree)}
    (same : ∀ name, (entries.lookup name).map files = (others.lookup name).map files) :
    (directory entries).files = (directory others).files := by
  have byName : filesByName entries = filesByName others := by
    apply KeyMap.eq_of_lookup_eq (ordered_filesByName entries) (ordered_filesByName others)
    intro name
    rw [lookup_filesByName, lookup_filesByName, same]
  rw [files, files, byName]

theorem Relisted.walk {t u : FileTree} (relisted : t.Relisted u) :
    t.files = u.files ∧ t.isListable = u.isListable := by
  induction relisted with
  | refl t => exact ⟨rfl, rfl⟩
  | trans _ _ first second =>
    exact ⟨first.1.trans second.1, first.2.trans second.2⟩
  | @reorder entries others distinct moved =>
    -- With a name given twice, the order would decide which entry is found.
    have alike (name : String) : entries.lookup name = others.lookup name := by
      apply Option.ext
      intro t
      rw [← mem_iff_lookup distinct, ← mem_iff_lookup ((moved.map _).nodup_iff.mp distinct)]
      exact moved.mem_iff
    constructor
    · apply files_directory_congr
      intro name
      rw [alike]
    · rw [isListable, isListable, areListable_eq_all, areListable_eq_all]
      exact moved.all_eq
  | inside before name after _ ih =>
    constructor
    · apply files_directory_congr
      intro other
      simp only [List.lookup_append, List.lookup_cons, Option.map_or]
      cases other == name with
      | true => simp only [Option.map_some, ih.1]
      | false => rfl
    · simp only [isListable, areListable_eq_all, List.all_append, List.all_cons, ih.2]

end RecordSchema.FileTree
