import RecordSchema.Proofs.Catalog.Build
import RecordSchema.Proofs.Definition.Text
import RecordSchema.Proofs.Text.Marks

set_option autoImplicit false

/-!
The checksum of a catalog tells batches apart: what is hashed for a batch that builds can be taken
apart again into the segments and the definitions of its files.
-/

namespace RecordSchema

open Text (marked marked_cons utf8_append utf8_injective)

/-- Two messages are not a collision of the digest. -/
def Sha256.Separates (message message' : List UInt8) : Prop :=
  digest message = digest message' → message = message'

namespace Checksum

/-- The hashed bytes as characters: the marks are control characters. -/
def entryChars (segments : List String) (d : Definition) : List Char :=
  marked '\x1f' (segments.map String.toList) ++ '\x1e' :: d.chars

def batchChars (batch : List (List String × Definition)) : List Char :=
  marked '\x1d' (batch.map fun entry => entryChars entry.1 entry.2)

theorem segmentBytes_eq (segments : List String) :
    segments.flatMap segmentBytes = utf8 (marked '\x1f' (segments.map String.toList)) := by
  induction segments with
  | nil => rfl
  | cons segment rest ih =>
    have mark : [0x1f] = utf8 ['\x1f'] := by decide
    rw [List.flatMap_cons, ih, segmentBytes, mark, List.map_cons, marked_cons, ← utf8_append,
      ← utf8_append, List.append_assoc, List.singleton_append]

theorem entryBytes_eq (segments : List String) (d : Definition) :
    entryBytes segments d = utf8 (entryChars segments d ++ ['\x1d']) := by
  have first : (0x1e : UInt8) :: utf8 d.chars = utf8 ('\x1e' :: d.chars) := rfl
  have last : [0x1d] = utf8 ['\x1d'] := by decide
  rw [entryBytes, segmentBytes_eq, first, last, entryChars, utf8_append, utf8_append]

theorem batchBytes_eq (batch : List (List String × Definition)) :
    batchBytes batch = utf8 (batchChars batch) := by
  induction batch with
  | nil => rfl
  | cons entry rest ih =>
    calc batchBytes (entry :: rest)
        = entryBytes entry.1 entry.2 ++ batchBytes rest := List.flatMap_cons
      _ = utf8 (entryChars entry.1 entry.2 ++ ['\x1d']) ++ utf8 (batchChars rest) := by
          rw [entryBytes_eq, ih]
      _ = utf8 (batchChars (entry :: rest)) := by
          rw [← utf8_append, batchChars, batchChars, List.map_cons, marked_cons,
            List.append_assoc, List.singleton_append]

/-- None of the marks stands in a segment. -/
def Unmarked (segments : List String) : Prop :=
  ∀ segment ∈ segments, ∀ mark ∈ ['\x1d', '\x1e', '\x1f'], mark ∉ segment.toList

theorem not_mem_chars (d : Definition) {mark : Char} (control : mark.toNat < 0x20) :
    mark ∉ d.chars := by
  intro member
  have visible := d.noControl_chars mark member
  omega

theorem not_mem_marked {segments : List String} (unmarked : Unmarked segments) {mark : Char}
    (outer : mark ∈ ['\x1d', '\x1e']) :
    mark ∉ marked '\x1f' (segments.map String.toList) := by
  intro member
  rcases Text.mem_marked member with rfl | ⟨block, listed, inside⟩
  · simp at outer
  · obtain ⟨segment, own, rfl⟩ := List.mem_map.mp listed
    refine unmarked segment own mark ?_ inside
    simp only [List.mem_cons, List.not_mem_nil, or_false] at outer ⊢
    tauto

theorem entryChars_injective {segments segments' : List String} {d d' : Definition}
    (unmarked : Unmarked segments) (unmarked' : Unmarked segments')
    (same : entryChars segments d = entryChars segments' d') : segments = segments' ∧ d = d' := by
  -- The first mark of its kind is the one between the segments and the text of the definition.
  obtain ⟨places, texts⟩ := Text.append_mark_inj (not_mem_marked unmarked (by simp))
    (not_mem_marked unmarked' (by simp)) same
  have free {segments : List String} (unmarked : Unmarked segments) :
      ∀ block ∈ segments.map String.toList, '\x1f' ∉ block := by
    intro block listed
    obtain ⟨segment, own, rfl⟩ := List.mem_map.mp listed
    exact unmarked segment own _ (by simp)
  have blocks := Text.marked_injective (free unmarked) (free unmarked') places
  exact ⟨(List.map_inj_right fun _ _ => String.toList_inj.mp).mp blocks,
    Definition.chars_injective texts⟩

theorem not_mem_entryChars {segments : List String} (unmarked : Unmarked segments)
    (d : Definition) : '\x1d' ∉ entryChars segments d := by
  rw [entryChars, List.mem_append, List.mem_cons]
  rintro (place | middle | text)
  · exact not_mem_marked unmarked (by simp) place
  · simp at middle
  · exact not_mem_chars d (by decide) text

theorem batchBytes_injective {batch batch' : List (List String × Definition)}
    (unmarked : ∀ entry ∈ batch, Unmarked entry.1) (unmarked' : ∀ entry ∈ batch', Unmarked entry.1)
    (same : batchBytes batch = batchBytes batch') : batch = batch' := by
  rw [batchBytes_eq, batchBytes_eq] at same
  have free {batch : List (List String × Definition)}
      (unmarked : ∀ entry ∈ batch, Unmarked entry.1) :
      ∀ block ∈ batch.map fun entry => entryChars entry.1 entry.2, '\x1d' ∉ block := by
    intro block listed
    obtain ⟨entry, own, rfl⟩ := List.mem_map.mp listed
    exact not_mem_entryChars (unmarked entry own) entry.2
  have blocks := Text.marked_injective (free unmarked) (free unmarked') (utf8_injective same)
  clear same
  induction batch generalizing batch' with
  | nil => exact (List.map_eq_nil_iff.mp blocks.symm).symm
  | cons entry rest ih =>
    cases batch' with
    | nil => cases blocks
    | cons entry' rest' =>
      obtain ⟨first, others⟩ := List.cons.inj blocks
      rw [List.forall_mem_cons] at unmarked unmarked'
      obtain ⟨places, definitions⟩ := entryChars_injective unmarked.1 unmarked'.1 first
      rw [Prod.ext places definitions, ih unmarked.2 unmarked'.2 others]

end Checksum

namespace Catalog

/-- What of a batch goes into its checksum. -/
def entries (batch : List SchemaFile) : List (List String × Definition) :=
  batch.map fun f => (f.segments, f.definition)

variable {r : TypeRegistry} {policy : ArrayNilPolicy} {batch : List SchemaFile} {c : Catalog}

theorem checksum_of_build (built : (build r policy batch).value = .ok c) :
    c.checksum = Checksum.ofBatch (entries batch) := by
  unfold build at built
  split at built
  next => cases built
  next =>
    cases built
    rfl

theorem named_of_build (built : (build r policy batch).value = .ok c) {f : SchemaFile}
    (member : f ∈ batch) {segment : String} (listed : segment ∈ f.segments) {text : String}
    (filled : Text.nonBlank? segment = some text) : ∃ name, Namespace.ident text = .ok name := by
  have registered := (build_eq_ok_iff r batch c.types).mp ⟨c, built, rfl⟩
  have named := ((exists_registers_iff r.seedContext _).mp ⟨_, registered⟩).1
  -- The way to a file's own class begins with the segments of the file.
  have site : ⟨segmentSteps f.segments ++ f.definition.steps, f.definition⟩ ∈
      SchemaFile.batchClasses batch := by
    refine List.mem_flatMap.mpr ⟨f, member, ?_⟩
    rw [SchemaFile.classes, Definition.classes_eq]
    simp
  have steps := (exists_named_iff _).mp (named _ site)
  refine steps (.segment text) (List.mem_append_left _ ?_)
  exact List.mem_map.mpr ⟨text, List.mem_filterMap.mpr ⟨segment, listed, filled⟩, rfl⟩

theorem unmarked_of_build (built : (build r policy batch).value = .ok c) :
    ∀ entry ∈ entries batch, Checksum.Unmarked entry.1 := by
  intro entry member segment listed mark given
  obtain ⟨f, own, rfl⟩ := List.mem_map.mp member
  refine Namespace.not_mem_segment (fun _ filled => named_of_build built own listed filled) ?_ ?_ ?_
  all_goals
    simp only [List.mem_cons, List.not_mem_nil, or_false] at given
    rcases given with rfl | rfl | rfl <;> decide +kernel

theorem entries_eq_iff (batch batch' : List SchemaFile) :
    entries batch = entries batch' ↔ batch.length = batch'.length ∧
      ∀ (i : Nat) (inside : i < batch.length) (inside' : i < batch'.length),
        batch[i].segments = batch'[i].segments ∧ batch[i].definition = batch'[i].definition := by
  simp [List.ext_getElem_iff, entries]

theorem checksum_separates (r r' : TypeRegistry) (policy policy' : ArrayNilPolicy)
    (batch batch' : List SchemaFile) (c c' : Catalog) (built : (build r policy batch).value = .ok c)
    (built' : (build r' policy' batch').value = .ok c') :
    (Checksum.batchBytes (entries batch) = Checksum.batchBytes (entries batch') ↔
      batch.length = batch'.length ∧
        ∀ (i : Nat) (inside : i < batch.length) (inside' : i < batch'.length),
          batch[i].segments = batch'[i].segments ∧ batch[i].definition = batch'[i].definition) ∧
    (Sha256.Separates (Checksum.batchBytes (entries batch)) (Checksum.batchBytes (entries batch')) →
      (c.checksum = c'.checksum ↔ entries batch = entries batch')) := by
  have bytes : Checksum.batchBytes (entries batch) = Checksum.batchBytes (entries batch') ↔
      entries batch = entries batch' :=
    ⟨Checksum.batchBytes_injective (unmarked_of_build built) (unmarked_of_build built'),
      congrArg Checksum.batchBytes⟩
  constructor
  · rw [bytes, entries_eq_iff]
  · intro separates
    rw [checksum_of_build built, checksum_of_build built', ← bytes]
    exact ⟨separates, congrArg Sha256.digest⟩

/-- A batch of one class, in the namespace of a segment. -/
def inPlace (segment : String) : List SchemaFile := [⟨[segment], Definition.named "Team", none⟩]

theorem separates_places :
    Sha256.Separates (Checksum.batchBytes (entries (inPlace "north-wing")))
      (Checksum.batchBytes (entries (inPlace "north wing"))) := by
  have digests : Sha256.digest (Checksum.batchBytes (entries (inPlace "north-wing"))) ≠
      Sha256.digest (Checksum.batchBytes (entries (inPlace "north wing"))) := by
    decide +kernel
  intro same
  exact absurd same digests

-- Both segments name the namespace `NorthWing`.
theorem checksum_separates_places : ∃ c c',
    (build (TypeRegistry.create .empty).1 .wrapNil (inPlace "north-wing")).value = .ok c ∧
      (build (TypeRegistry.create .empty).1 .empty (inPlace "north wing")).value = .ok c' ∧
      Checksum.batchBytes (entries (inPlace "north-wing")) ≠
        Checksum.batchBytes (entries (inPlace "north wing")) ∧
      c.checksum ≠ c'.checksum := by
  have hyphen : (build (TypeRegistry.create .empty).1 .wrapNil
      (inPlace "north-wing")).value.isOk := by decide +kernel
  have blank : (build (TypeRegistry.create .empty).1 .empty
      (inPlace "north wing")).value.isOk := by decide +kernel
  obtain ⟨c, built⟩ := exists_of_isOk hyphen
  obtain ⟨c', built'⟩ := exists_of_isOk blank
  obtain ⟨bytes, checksums⟩ := checksum_separates _ _ _ _ _ _ c c' built built'
  refine ⟨c, c', built, built', ?_, ?_⟩
  · intro same
    have segments := ((bytes.mp same).2 0 (by decide) (by decide)).1
    simp [inPlace] at segments
  · intro same
    have pairs := (checksums separates_places).mp same
    simp [entries, inPlace] at pairs

end Catalog

end RecordSchema
