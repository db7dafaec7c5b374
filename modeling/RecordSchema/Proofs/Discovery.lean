import RecordSchema.Discovery
import RecordSchema.Proofs.Files.Walk
import RecordSchema.Proofs.Success

set_option autoImplicit false

/-!
Which files of a directory make up a batch, and in what order. The order is that of the names on the
way to a file, one by one; it decides which file a batch fails at.
-/

namespace RecordSchema

/-- Why a file gives no definition. -/
inductive FoundFile.Rejected (f : FoundFile) : ModelError → Prop where
  | unreadable (kept : f.content = .unreadable) : f.Rejected .io
  | notText {bs : List UInt8} {malformed : String.fromUTF8? ⟨bs.toArray⟩ = none}
      (held : f.content = .bytes bs malformed) : f.Rejected .io
  | undecodable {text : String} {e : ModelError} (held : f.content = .text text)
      (failed : Definition.ofYaml text = .error e) : f.Rejected e

namespace SchemaDirectory

variable (d : SchemaDirectory)

/-- What a file adds to a batch. -/
structure Reads (f : FoundFile) (file : SchemaFile) : Prop where
  definition : ∃ text, f.content = .text text ∧ Definition.ofYaml text = .ok file.definition
  segments : file.segments = f.names.dropLast
  origin : file.origin = some (d.path f.names)

section Reading

variable (f : FoundFile)

theorem read_eq_ok_iff (file : SchemaFile) : d.read f = .ok file ↔ d.Reads f file := by
  obtain ⟨names, content⟩ := f
  rw [read]
  cases content with
  | text s =>
    simp only [FileContent.text?]
    rw [map_eq_ok_iff]
    constructor
    · intro ⟨definition, decoded, made⟩
      subst made
      exact ⟨⟨s, rfl, decoded⟩, rfl, rfl⟩
    · intro ⟨⟨text, held, decoded⟩, segments, origin⟩
      cases held
      refine ⟨file.definition, decoded, ?_⟩
      rw [← segments, ← origin]
  | bytes _ _ | unreadable =>
    constructor
    · nofun
    · intro reads
      obtain ⟨_, held, _⟩ := reads.definition
      cases held

theorem read_eq_error_iff (e : ModelError) : d.read f = .error e ↔ f.Rejected e := by
  obtain ⟨names, content⟩ := f
  rw [read]
  cases content with
  | text s =>
    simp only [FileContent.text?]
    rw [map_eq_error_iff]
    constructor
    · exact .undecodable rfl
    · intro rejected
      cases rejected with
      | undecodable held failed =>
        cases held
        exact failed
      | unreadable held => cases held
      | notText held => cases held
  | bytes bs malformed =>
    simp only [FileContent.text?, Except.error.injEq]
    constructor
    · intro same
      subst same
      exact .notText rfl
    · intro rejected
      cases rejected with
      | notText => rfl
      | unreadable held => cases held
      | undecodable held => cases held
  | unreadable =>
    simp only [FileContent.text?, Except.error.injEq]
    constructor
    · intro same
      subst same
      exact .unreadable rfl
    · intro rejected
      cases rejected with
      | unreadable => rfl
      | notText held => cases held
      | undecodable held => cases held

end Reading

section Batch

theorem readAll_eq_ok_iff (found : List FoundFile) (batch : List SchemaFile) :
    (d.readAll found).value = .ok batch ↔ List.Forall₂ d.Reads found batch := by
  induction found generalizing batch with
  | nil =>
    rw [readAll, Logged.value_pure, List.forall₂_nil_left_iff, Except.ok.injEq]
    exact eq_comm
  | cons f rest ih =>
    rw [readAll, List.forall₂_cons_left_iff]
    simp only [← read_eq_ok_iff, ← ih]
    cases result : d.read f with
    | error e => simp
    | ok file =>
      simp only [map_eq_ok_iff]
      constructor
      · intro ⟨files, later, made⟩
        exact ⟨file, files, rfl, later, made.symm⟩
      · intro ⟨first, files, own, later, made⟩
        cases own
        exact ⟨files, later, made.symm⟩

theorem readAll_eq_error_iff (found : List FoundFile) (e : ModelError) :
    (d.readAll found).value = .error e ↔
      ∃ f cause, FirstFailure d.read found f cause ∧ e = .source (d.path f.names) cause := by
  induction found with
  | nil => simp [readAll, Logged.pure, not_firstFailure_nil]
  | cons f rest ih =>
    simp only [firstFailure_cons_iff]
    cases result : d.read f with
    | error cause =>
      simp only [readAll, result]
      constructor
      · intro failed
        exact ⟨f, cause, .inl ⟨rfl, rfl⟩, (Except.error.inj failed).symm⟩
      · intro ⟨g, other, first, named⟩
        rcases first with ⟨own, failed⟩ | ⟨⟨file, passed⟩, _⟩
        · rw [named, own, Except.error.inj failed]
        · cases passed
    | ok file => simp [readAll, map_eq_error_iff, ih, result]

theorem firstFailure_iff_of_ordered {found : List FoundFile}
    (ordered : found.Pairwise fun f g => f.names < g.names) (f : FoundFile) (cause : ModelError) :
    FirstFailure d.read found f cause ↔ f ∈ found ∧ f.Rejected cause ∧
      ∀ g ∈ found, g.names < f.names → ∀ other, ¬ g.Rejected other := by
  constructor
  · intro ⟨before, after, split, passed, failed⟩
    subst split
    refine ⟨by simp, (d.read_eq_error_iff f cause).mp failed, ?_⟩
    intro g member less other rejected
    -- A file with lesser names cannot stand later in the list.
    have early : g ∈ before := by
      rw [List.pairwise_append, List.pairwise_cons] at ordered
      rcases List.mem_append.mp member with early | late
      · exact early
      · rcases List.mem_cons.mp late with rfl | late
        · exact absurd less (List.lt_irrefl _)
        · exact absurd less (List.lt_asymm (ordered.2.1.1 g late))
    obtain ⟨file, own⟩ := passed g early
    rw [(d.read_eq_error_iff g other).mpr rejected] at own
    cases own
  · intro ⟨member, rejected, least⟩
    obtain ⟨before, after, rfl⟩ := List.append_of_mem member
    refine ⟨before, after, rfl, ?_, (d.read_eq_error_iff f cause).mpr rejected⟩
    intro g early
    have less := (List.pairwise_append.mp ordered).2.2 g early f (by simp)
    cases result : d.read g with
    | ok file => exact ⟨file, rfl⟩
    | error other =>
      exact absurd ((d.read_eq_error_iff g other).mp result) (least g (by simp [early]) less other)

end Batch

theorem mem_matching_iff (t : FileTree) (f : FoundFile) :
    f ∈ d.matching t ↔
      t.Holds f.names f.content ∧ d.pattern.isMatch (relativePath f.names) = true := by
  obtain ⟨names, content⟩ := f
  rw [← FileTree.mem_files_iff]
  simp [matching]

theorem pairwise_matching (t : FileTree) :
    (d.matching t).Pairwise fun f g => f.names < g.names := by
  rw [matching, List.pairwise_map]
  exact t.pairwise_files.filter _

/-- The files of a directory, given what is under its path, and the batch that they make. -/
structure Discovers (fs : FileSystem) (t : FileTree) (files : List FoundFile) : Prop where
  files_eq : d.files fs = .ok files
  mem_iff : ∀ f, f ∈ files ↔
    t.Holds f.names f.content ∧ d.pattern.isMatch (relativePath f.names) = true
  ordered : files.Pairwise fun f g => f.names < g.names
  relisted : ∀ other u, other.find d.root = .ok u → t.Relisted u →
    d.files other = d.files fs ∧ d.load other = d.load fs
  loads_iff : ∀ batch, (d.load fs).value = .ok batch ↔ List.Forall₂ d.Reads files batch
  fails_iff : (∃ e, (d.load fs).value = .error e) ↔ ∃ f ∈ files, ∃ cause, f.Rejected cause
  error_iff : ∀ e, (d.load fs).value = .error e ↔
    ∃ f ∈ files, ∃ cause, f.Rejected cause ∧ e = .source (d.path f.names) cause ∧
      ∀ g ∈ files, g.names < f.names → ∀ other, ¬ g.Rejected other

section Load

variable {d} {fs : FileSystem} {t : FileTree}

theorem files_of_listable (found : fs.find d.root = .ok t) (listable : t.isListable = true) :
    d.files fs = .ok (d.matching t) := by
  rw [files, found]
  exact if_pos listable

theorem value_load_of_listable (found : fs.find d.root = .ok t)
    (listable : t.isListable = true) :
    (d.load fs).value = (d.readAll (d.matching t)).value := by
  rw [load, files_of_listable found listable]

end Load

theorem discovers_files_by_path (fs : FileSystem) (t : FileTree) (found : fs.find d.root = .ok t)
    (listable : t.isListable = true) : d.Discovers fs t (d.matching t) := by
  have files := files_of_listable found listable
  have value := value_load_of_listable found listable
  have failed (e : ModelError) : (d.load fs).value = .error e ↔
      ∃ f cause, FirstFailure d.read (d.matching t) f cause ∧
        e = .source (d.path f.names) cause := by
    rw [value, readAll_eq_error_iff]
  constructor
  case files_eq => exact files
  case mem_iff => exact d.mem_matching_iff t
  case ordered => exact d.pairwise_matching t
  case relisted =>
    intro other u located relisted
    obtain ⟨same, passable⟩ := relisted.walk
    have alike : d.files other = d.files fs := by
      rw [files_of_listable located (passable ▸ listable), files, matching, matching, same]
    refine ⟨alike, ?_⟩
    rw [load, load, alike]
  case loads_iff =>
    intro batch
    rw [value, readAll_eq_ok_iff]
  case fails_iff =>
    constructor
    · intro ⟨e, fails⟩
      obtain ⟨f, cause, first, _⟩ := (failed e).mp fails
      exact ⟨f, first.mem, cause, (d.read_eq_error_iff f cause).mp first.failed⟩
    · intro ⟨f, member, cause, rejected⟩
      obtain ⟨g, other, first⟩ :=
        exists_firstFailure member ((d.read_eq_error_iff f cause).mpr rejected)
      exact ⟨_, (failed _).mpr ⟨g, other, first, rfl⟩⟩
  case error_iff =>
    intro e
    simp only [failed, d.firstFailure_iff_of_ordered (d.pairwise_matching t)]
    constructor
    · intro ⟨f, cause, ⟨member, rejected, least⟩, named⟩
      exact ⟨f, member, cause, rejected, named, least⟩
    · intro ⟨f, member, cause, rejected, named, least⟩
      exact ⟨f, cause, ⟨member, rejected, least⟩, named⟩

/-- A directory next to a file whose name starts with its own. -/
def siblings : FileTree :=
  .directory [("a-b.yml", .file (.text "")), ("link", .other),
    ("a", .directory [("z.yml", .file .unreadable)])]

theorem discovers_files_by_path_siblings :
    let fs : FileSystem := ⟨"/", [("/schemas", siblings)]⟩
    let d : SchemaDirectory := ⟨"/schemas", .empty⟩
    fs.find d.root = .ok siblings ∧ siblings.isListable = true ∧
      ⟨["a", "z.yml"], .unreadable⟩ ∈ d.matching siblings ∧ ∃ e, (d.load fs).value = .error e := by
  intro fs d
  have absolute : fs.absolute d.root = "/schemas" := by decide +kernel
  have given : d.root.isEmpty = false := by decide +kernel
  have mounted : FileSystem.below? "/schemas" "/schemas" = some [] := if_pos (by decide)
  have found : fs.find d.root = .ok siblings := by
    simp only [FileSystem.find, given, absolute, fs, List.findSome?_cons, mounted]
    rfl
  have listable : siblings.isListable = true := by decide
  have discovers := d.discovers_files_by_path fs siblings found listable
  have member : ⟨["a", "z.yml"], .unreadable⟩ ∈ d.matching siblings := by
    rw [discovers.mem_iff]
    exact ⟨.under rfl (.under rfl (.here _)), by decide +kernel⟩
  exact ⟨found, listable, member, discovers.fails_iff.mpr ⟨_, member, .io, .unreadable rfl⟩⟩

end SchemaDirectory

end RecordSchema
