import RecordSchema.Registry

set_option autoImplicit false

/-!
What is kept for scalar types, and changes to it. A change is made in the one place of the type that
it is addressed to, by whichever registry and name that type was found, and so for the types with
which it shares its tokens; a new type changes no other.
-/

namespace RecordSchema

namespace Store

variable {σ : Store} {s : Scalar}

/-- There is a place for the settings of a type. -/
def Holds (σ : Store) (s : Scalar) : Prop := s.place < σ.settings.length

/-- The set that a new type of the kind shares, if it does, is in the store. -/
def Offers (σ : Store) (kind : ScalarKind) : Prop :=
  ∀ place ∈ kind.sharedPlace?, place < σ.settings.length

instance (kind : ScalarKind) : Decidable (σ.Offers kind) :=
  inferInstanceAs (Decidable (∀ place ∈ kind.sharedPlace?, _))

theorem settingsOf_update (held : σ.Holds s) (f : ScalarSettings → ScalarSettings) (t : Scalar) :
    (σ.update s f).settingsOf t = if s.place = t.place then f (σ.settingsOf t) else σ.settingsOf t := by
  simp only [settingsOf, update, List.getD_eq_getElem?_getD, List.getElem?_modify]
  split
  next same =>
    have found : t.place < σ.settings.length := by
      rw [← same]
      exact held
    simp [List.getElem?_eq_getElem found]
  next => simp

theorem length_update (f : ScalarSettings → ScalarSettings) :
    (σ.update s f).settings.length = σ.settings.length := by
  simp [update]

theorem settingsOf_create (kind : ScalarKind) (t : Scalar) :
    (σ.create kind).2.settingsOf t = σ.settingsOf t := by
  simp only [settingsOf, create, List.getD_eq_getElem?_getD]
  by_cases old : t.place < σ.settings.length
  next => rw [List.getElem?_append_left old]
  next =>
    -- The new type starts with the settings of a type that has none.
    rw [Nat.not_lt] at old
    rw [List.getElem?_append_right old, List.getElem?_eq_none old]
    cases t.place - σ.settings.length <;> rfl

theorem length_create (kind : ScalarKind) :
    (σ.create kind).2.settings.length = σ.settings.length + 1 := by
  simp [create]

theorem holds_create {kind : ScalarKind} (offered : σ.Offers kind) :
    (σ.create kind).2.Holds (σ.create kind).1 := by
  rw [Holds, length_create, Scalar.place]
  cases shared : kind.sharedPlace? with
  | none => simp [create, shared]
  | some place =>
    have old := offered place shared
    simp only [create, shared, Option.getD_some]
    exact Nat.lt_succ_of_lt old

end Store

/-- A change to the tokens that a type takes for nil. -/
inductive SentinelEdit where
  | insert (token : String)
  | remove (token : String)
  | clear

/-- A change to what is kept for a type. -/
inductive SettingsEdit where
  | sentinels (edit : SentinelEdit)
  | dateFormat (format : DateFormat)

def SentinelEdit.perform : SentinelEdit → Scalar → Store → Store
  | insert token, s, σ => s.insertSentinel token σ
  | remove token, s, σ => s.removeSentinel token σ
  | clear, s, σ => s.clearSentinels σ

def SettingsEdit.alter : SettingsEdit → ScalarSettings → ScalarSettings
  | sentinels (.insert token), kept => { kept with sentinels := kept.sentinels.insert token () }
  | sentinels (.remove token), kept => { kept with sentinels := kept.sentinels.erase token }
  | sentinels .clear, kept => { kept with sentinels := .empty }
  | dateFormat format, kept => { kept with dateFormats := kept.dateFormats ++ [format] }

theorem SentinelEdit.perform_eq_update (edit : SentinelEdit) (s : Scalar) (σ : Store) :
    edit.perform s σ = σ.update s (SettingsEdit.sentinels edit).alter := by
  cases edit <;> rfl

structure SettingsChange where
  type : Scalar
  edit : SettingsEdit

/-- What is kept for a type once changes are made, each in the place of the type that it is addressed
to. -/
def settingsAfter (changes : List SettingsChange) (s : Scalar) (kept : ScalarSettings) :
    ScalarSettings :=
  changes.foldl (fun kept change => if change.type.place = s.place then change.edit.alter kept else kept)
    kept

theorem settingsAfter_append (first second : List SettingsChange) (s : Scalar)
    (kept : ScalarSettings) :
    settingsAfter (first ++ second) s kept = settingsAfter second s (settingsAfter first s kept) :=
  List.foldl_append

theorem settingsAfter_of_others {changes : List SettingsChange} {s : Scalar}
    (others : ∀ change ∈ changes, change.type.place ≠ s.place) (kept : ScalarSettings) :
    settingsAfter changes s kept = kept := by
  induction changes with
  | nil => rfl
  | cons change rest ih =>
    have own := others change (by simp)
    have later := ih fun other member => others other (by simp [member])
    rw [settingsAfter, List.foldl_cons, if_neg own]
    exact later

theorem TypeRegistry.addDateFormats_single (r : TypeRegistry) (template patternText : String)
    (σ : Store) :
    (r.addDateFormats [(template, patternText)] σ).toOption =
      (DateFormat.ofTexts? template patternText).map fun format =>
        σ.update r.date (SettingsEdit.dateFormat format).alter := by
  unfold addDateFormats
  cases DateFormat.ofTexts? template patternText <;> rfl

end RecordSchema
