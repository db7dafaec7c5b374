import RecordSchema.Proofs.Catalog.Build
import RecordSchema.Proofs.Compiler.Independence
import RecordSchema.Proofs.Compiler.Places

set_option autoImplicit false

/-!
Files that do not define or look up each other's classes can be loaded in any order.
-/

namespace RecordSchema

namespace SchemaFile

/-- No class of one file has the key of a class of the other, or looks it up. -/
def Independent (f g : SchemaFile) : Prop := ∀ a ∈ f.classes, ∀ b ∈ g.classes, a.Apart b

instance (f g : SchemaFile) : Decidable (f.Independent g) :=
  inferInstanceAs (Decidable (∀ a ∈ f.classes, ∀ b ∈ g.classes, a.Apart b))

theorem classCount_perm {batch other : List SchemaFile} (perm : batch.Perm other) :
    classCount batch = classCount other := by
  induction perm with
  | nil => rfl
  | cons f _ ih => simp only [classCount, ih]
  | swap f g rest =>
    simp only [classCount]
    omega
  | trans _ _ ih ih' => exact ih.trans ih'

end SchemaFile

namespace Catalog

variable {policy : ArrayNilPolicy}

theorem run_of_build {r : TypeRegistry} {batch : List SchemaFile} {c : Catalog}
    (built : (build r policy batch).value = .ok c) :
    c.definitions = SchemaFile.classCount batch ∧
      ∃ made, Scope.Run policy 0 (SchemaFile.batchClasses batch) ⟨.empty, r.seedContext⟩ made
          ⟨c.namespaces, c.types⟩ ∧
        made.map Registration.site = SchemaFile.batchClasses batch := by
  have well : NamespaceTree.empty.WellFormed := NamespaceTree.wellFormed_empty
  obtain ⟨made, failure?, ends, same⟩ :=
    compileBatch_ends policy (.start r.seedContext) well.contained well.rooted batch
  unfold build at built
  split at built
  next => cases built
  next final done =>
    rw [done] at ends same
    obtain rfl := same.mp rfl
    cases built
    cases ends with
    | finished run all => exact ⟨rfl, made, run, all⟩

theorem registers_of_perm {context types : TypeContext} {batch other : List SchemaFile}
    (independent : batch.Pairwise SchemaFile.Independent) (perm : batch.Perm other)
    (all : Registers policy context (SchemaFile.batchClasses batch) types) :
    Registers policy context (SchemaFile.batchClasses other) types := by
  rw [SchemaFile.batchClasses, List.flatMap_def] at all ⊢
  exact Registers.of_perm (perm.map _) (List.pairwise_map.mpr independent) all

theorem independent_files_commute (r : TypeRegistry) (policy : ArrayNilPolicy)
    {batch other : List SchemaFile} (independent : batch.Pairwise SchemaFile.Independent)
    (perm : batch.Perm other) {c : Catalog} (built : (build r policy batch).value = .ok c) :
    ∃ c', (build r policy other).value = .ok c' ∧ c'.types = c.types ∧
      c'.namespaces.SameByPath c.namespaces ∧ c'.definitions = c.definitions ∧
      ∀ σ name raw, c'.parse σ name raw = c.parse σ name raw := by
  have registered := (build_eq_ok_iff r batch c.types).mp ⟨c, built, rfl⟩
  obtain ⟨c', otherBuilt, types⟩ :=
    (build_eq_ok_iff r other c.types).mpr (registers_of_perm independent perm registered)
  obtain ⟨count, made, run, all⟩ := run_of_build built
  obtain ⟨otherCount, otherMade, otherRun, otherAll⟩ := run_of_build otherBuilt
  refine ⟨c', otherBuilt, types, ?_, ?_, ?_⟩
  · -- Which namespaces there are depends on the members of the batch alone.
    apply otherRun.sameByPath run otherAll all
    intro site
    exact (perm.flatMap_right SchemaFile.classes).mem_iff.symm
  · rw [otherCount, count, SchemaFile.classCount_perm perm]
  · intro σ name raw
    simp only [parse, model, types]

/-- Two files of one namespace, in which each class is looked up from its own file only. -/
def berths : SchemaFile :=
  ⟨["ports"], ⟨none, none, [⟨none, none, [], "Berth", [⟨"depth", ["depth"], some "float", false⟩]⟩],
    "Harbour", [⟨"berths", ["berths"], some "Berth", true⟩]⟩, none⟩

def cranes : SchemaFile :=
  ⟨["ports"], ⟨none, some "2", [], "Crane", [⟨"lift", ["lift"], some "integer", false⟩]⟩, none⟩

theorem independent_files_commute_ports :
    [berths, cranes].Pairwise SchemaFile.Independent ∧ [berths, cranes].Perm [cranes, berths] ∧
      ∃ c c', (build (TypeRegistry.create .empty).1 .wrapNil [berths, cranes]).value = .ok c ∧
        (build (TypeRegistry.create .empty).1 .wrapNil [cranes, berths]).value = .ok c' ∧
        c'.types = c.types ∧ c'.namespaces.SameByPath c.namespaces := by
  have independent : [berths, cranes].Pairwise SchemaFile.Independent := by decide +kernel
  have perm : [berths, cranes].Perm [cranes, berths] := .swap ..
  have ok : (build (TypeRegistry.create .empty).1 .wrapNil [berths, cranes]).value.isOk = true := by
    decide +kernel
  obtain ⟨c, built⟩ := exists_of_isOk ok
  obtain ⟨c', otherBuilt, types, places, _⟩ :=
    independent_files_commute (TypeRegistry.create .empty).1 .wrapNil independent perm built
  exact ⟨independent, perm, c, c', built, otherBuilt, types, places⟩

end Catalog

end RecordSchema
