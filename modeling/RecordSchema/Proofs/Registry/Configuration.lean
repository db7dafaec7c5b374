import RecordSchema.Settings.Basic
import RecordSchema.Proofs.Engine.Sharing
import RecordSchema.Proofs.KeyMap

set_option autoImplicit false

/-!
The tokens and date formats that the built-in types get from settings. A key gives its tokens to
the type that has its name up to the case of letters: a name that is found as it stands is
preferred, but no two names differ in case alone. So the letter case of keys makes no difference.
-/

namespace RecordSchema

theorem ScalarSettings.ext_sentinels {a b : ScalarSettings}
    (tokens : ∀ token, token ∈ a.sentinels.keys ↔ token ∈ b.sentinels.keys)
    (formats : a.dateFormats = b.dateFormats) : a = b := by
  obtain ⟨first, _⟩ := a
  obtain ⟨second, _⟩ := b
  obtain rfl := formats
  have same : first = second := by
    apply KeyMap.ext_get?
    intro token
    have here := tokens token
    simp only [KeyMap.mem_keys_iff] at here
    cases own : first.get? token <;> cases other : second.get? token <;> simp_all
  rw [same]

theorem Store.ext_settingsOf {σ τ : Store} (size : σ.settings.length = τ.settings.length)
    (same : ∀ s, σ.settingsOf s = τ.settingsOf s) : σ = τ := by
  obtain ⟨first⟩ := σ
  obtain ⟨second⟩ := τ
  have places : first = second := by
    apply List.ext_getElem size
    intro i low high
    -- What a type is plays no part in where its settings are.
    have here := same ⟨i, .builtIn .string⟩
    simpa [settingsOf, List.getD_eq_getElem?_getD, low, high] using here
  rw [places]

/-- A store is changed in nothing but the tokens that the types gain. -/
structure Store.Gains (σ : Store) (gained : Scalar → String → Prop) (τ : Store) : Prop where
  length : τ.settings.length = σ.settings.length
  dateFormats : ∀ t, (τ.settingsOf t).dateFormats = (σ.settingsOf t).dateFormats
  sentinels : ∀ t token, token ∈ t.sentinels τ ↔ token ∈ t.sentinels σ ∨ gained t token

section Gains

variable {σ between τ : Store} {gained more : Scalar → String → Prop} {s : Scalar}

theorem Store.Gains.holds (gains : σ.Gains gained τ) (held : σ.Holds s) : τ.Holds s := by
  rw [Holds, gains.length]
  exact held

theorem Store.Gains.trans (first : σ.Gains gained between) (second : between.Gains more τ) :
    σ.Gains (fun t token => gained t token ∨ more t token) τ where
  length := second.length.trans first.length
  dateFormats t := (second.dateFormats t).trans (first.dateFormats t)
  sentinels t token := by rw [second.sentinels, first.sentinels, or_assoc]

theorem Store.Gains.congr (gains : σ.Gains gained τ)
    (same : ∀ t token, gained t token ↔ more t token) : σ.Gains more τ where
  length := gains.length
  dateFormats := gains.dateFormats
  sentinels t token := by rw [gains.sentinels, same]

theorem Store.Gains.unique (first : σ.Gains gained between) (second : σ.Gains gained τ) :
    between = τ := by
  apply ext_settingsOf (first.length.trans second.length.symm)
  intro t
  apply ScalarSettings.ext_sentinels
  · intro token
    exact (first.sentinels t token).trans (second.sentinels t token).symm
  · exact (first.dateFormats t).trans (second.dateFormats t).symm

theorem Store.Gains.settingsOf_of_none (gains : σ.Gains gained τ) {t : Scalar}
    (none : ∀ token, ¬ gained t token) : τ.settingsOf t = σ.settingsOf t := by
  apply ScalarSettings.ext_sentinels
  · intro token
    exact (gains.sentinels t token).trans (or_iff_left (none token))
  · exact gains.dateFormats t

theorem gains_insertSentinel (held : σ.Holds s) (token : String) :
    σ.Gains (fun t other => s.place = t.place ∧ other = token) (s.insertSentinel token σ) where
  length := Store.length_update _
  dateFormats t := by
    rw [Scalar.insertSentinel, Store.settingsOf_update held]
    split <;> rfl
  sentinels t other := by
    rw [Scalar.sentinels, Scalar.insertSentinel, Store.settingsOf_update held, Scalar.sentinels]
    by_cases own : s.place = t.place
    next =>
      rw [if_pos own, KeyMap.mem_keys_iff, KeyMap.mem_keys_iff]
      simp only [KeyMap.get?_insert]
      by_cases new : other = token <;> simp [own, new]
    next => simp [own]

theorem gains_insertSentinels (held : σ.Holds s) (tokens : List String) :
    σ.Gains (fun t token => s.place = t.place ∧ token ∈ tokens)
      (tokens.foldl (fun σ token => s.insertSentinel token σ) σ) := by
  induction tokens generalizing σ with
  | nil => exact ⟨rfl, fun _ => rfl, by simp⟩
  | cons first rest ih =>
    -- The type still has its place once it has the first token.
    have step := gains_insertSentinel held first
    apply (step.trans (ih (step.holds held))).congr
    intro t token
    rw [List.mem_cons, and_or_left]

end Gains

/-- Date formats come after those that a type has; nothing else is changed in a store. -/
structure Store.Formatted (σ : Store) (s : Scalar) (made : List DateFormat) (τ : Store) :
    Prop where
  length : τ.settings.length = σ.settings.length
  own : (τ.settingsOf s).dateFormats = (σ.settingsOf s).dateFormats ++ made
  sentinels : ∀ t : Scalar, t.sentinels τ = t.sentinels σ
  others : ∀ t, s.place ≠ t.place → τ.settingsOf t = σ.settingsOf t

section Formatted

variable {σ between τ : Store} {s : Scalar} {made more : List DateFormat}

theorem Store.Formatted.holds (formatted : σ.Formatted s made τ) {t : Scalar} (held : σ.Holds t) :
    τ.Holds t := by
  rw [Holds, formatted.length]
  exact held

theorem Store.Formatted.trans (first : σ.Formatted s made between)
    (second : between.Formatted s more τ) : σ.Formatted s (made ++ more) τ where
  length := second.length.trans first.length
  own := by rw [second.own, first.own, List.append_assoc]
  sentinels t := (second.sentinels t).trans (first.sentinels t)
  others t apart := (second.others t apart).trans (first.others t apart)

theorem formatted_addDateFormat (held : σ.Holds s) (format : DateFormat) :
    σ.Formatted s [format] (s.addDateFormat format σ) where
  length := Store.length_update _
  own := by rw [Scalar.addDateFormat, Store.settingsOf_update held, if_pos rfl]
  sentinels t := by
    rw [Scalar.sentinels, Scalar.addDateFormat, Store.settingsOf_update held, Scalar.sentinels]
    split <;> rfl
  others t apart := by rw [Scalar.addDateFormat, Store.settingsOf_update held, if_neg apart]

end Formatted

namespace TypeRegistry

variable {r : TypeRegistry} {σ : Store}

/-- No two names differ in the case of letters alone. -/
def CaseDistinct (r : TypeRegistry) : Prop := (r.names.map Text.asciiLower).Nodup

theorem CaseDistinct.find?_eq_some_iff (distinct : r.CaseDistinct) (key name : String)
    (s : Scalar) :
    r.descriptors.toList.find? (fun e => Text.asciiLower e.1 == Text.asciiLower key) =
        some (name, s) ↔
      r.get? name = some s ∧ Text.asciiLower name = Text.asciiLower key := by
  have sound {name : String} {s : Scalar} (first : r.descriptors.toList.find?
      (fun e => Text.asciiLower e.1 == Text.asciiLower key) = some (name, s)) :
      r.get? name = some s ∧ Text.asciiLower name = Text.asciiLower key :=
    ⟨(r.descriptors.mem_toList_iff name s).mp (List.mem_of_find?_eq_some first),
      by simpa using List.find?_some first⟩
  refine ⟨sound, fun ⟨own, same⟩ => ?_⟩
  have listed {name : String} {s : Scalar} (found : r.get? name = some s) : name ∈ r.names :=
    (r.descriptors.mem_keys_iff name).mpr ⟨s, found⟩
  -- The name itself passes the test, so some name is found; there is no other that passes.
  cases first : r.descriptors.toList.find? fun e =>
    Text.asciiLower e.1 == Text.asciiLower key with
  | none =>
    have other := List.find?_eq_none.mp first _ ((r.descriptors.mem_toList_iff name s).mpr own)
    exact absurd (beq_iff_eq.mpr same) other
  | some e =>
    obtain ⟨found, alike⟩ := sound first
    have name_eq : e.1 = name :=
      List.inj_on_of_nodup_map distinct (listed found) (listed own) (alike.trans same.symm)
    rw [name_eq, own] at found
    rw [← name_eq, Option.some.inj found]

theorem CaseDistinct.sentinelTypeForKey?_eq_some_iff (distinct : r.CaseDistinct) (key : String)
    (s : Scalar) :
    r.sentinelTypeForKey? key = some s ↔
      s.hasSentinels = true ∧
        ∃ name, r.get? name = some s ∧ Text.asciiLower name = Text.asciiLower key := by
  have found : r.sentinelTypeForKey? key = some s ↔ s.hasSentinels = true ∧
      ∃ name, r.descriptors.toList.find?
        (fun e => Text.asciiLower e.1 == Text.asciiLower key) = some (name, s) := by
    rw [sentinelTypeForKey?]
    cases exact : r.sentinelType? key with
    | some t =>
      -- The name that is the key itself is also the first one up to case.
      obtain ⟨own, has⟩ := Option.filter_eq_some_iff.mp exact
      rw [(distinct.find?_eq_some_iff key key t).mpr ⟨own, rfl⟩]
      simp only [Option.orElse, Option.some.injEq, Prod.mk.injEq, exists_eq_left']
      exact ⟨fun same => same ▸ ⟨has, rfl⟩, fun ⟨_, same⟩ => same⟩
    | none =>
      cases r.descriptors.toList.find? fun e =>
        Text.asciiLower e.1 == Text.asciiLower key with
      | none => simp
      | some e =>
        obtain ⟨name, t⟩ := e
        simp only [Option.orElse, Option.some.injEq, Prod.mk.injEq, exists_eq_left']
        by_cases has : t.hasSentinels = true
        · rw [if_pos has, Option.some.injEq]
          exact ⟨fun same => same ▸ ⟨has, rfl⟩, fun ⟨_, same⟩ => same⟩
        · rw [if_neg has]
          exact ⟨nofun, fun ⟨other, same⟩ => absurd (same ▸ other) has⟩
  simp only [found, distinct.find?_eq_some_iff]

theorem gains_addSentinels (held : ∀ key s, r.sentinelTypeForKey? key = some s → σ.Holds s)
    (entries : List (String × List String)) :
    σ.Gains (fun t token => ∃ e ∈ entries, token ∈ e.2 ∧
        ∃ s, r.sentinelTypeForKey? e.1 = some s ∧ s.place = t.place)
      (r.addSentinels entries σ).value := by
  induction entries generalizing σ with
  | nil => exact ⟨rfl, fun _ => rfl, by simp [addSentinels, Logged.pure]⟩
  | cons e rest ih =>
    obtain ⟨key, tokens⟩ := e
    rw [addSentinels]
    cases found : r.sentinelTypeForKey? key with
    | some s =>
      have step := gains_insertSentinels (held key s found) tokens
      apply (step.trans (ih fun key t other => step.holds (held key t other))).congr
      intro t token
      simp [found, and_comm]
    | none =>
      -- The key of no type adds to no type.
      apply (ih held).congr
      intro t token
      simp [found]

theorem exists_addDateFormats (held : σ.Holds r.date) (formats : List (String × String))
    (readable : ∀ f ∈ formats, (Pattern.read? f.2).isSome = true) :
    ∃ τ made, r.addDateFormats formats σ = .ok τ ∧
      List.Forall₂ (fun f format => DateFormat.ofTexts? f.1 f.2 = some format) formats made ∧
      σ.Formatted r.date made τ := by
  induction formats generalizing σ with
  | nil => exact ⟨σ, [], rfl, .nil, rfl, by simp, fun _ => rfl, fun _ _ => rfl⟩
  | cons f rest ih =>
    obtain ⟨template, patternText⟩ := f
    obtain ⟨pattern, read⟩ :=
      Option.isSome_iff_exists.mp (readable (template, patternText) (by simp))
    have given : DateFormat.ofTexts? template patternText =
        some ⟨template, patternText, pattern⟩ := by
      rw [DateFormat.ofTexts?, read]
      rfl
    have step := formatted_addDateFormat held ⟨template, patternText, pattern⟩
    obtain ⟨τ, made, added, written, formatted⟩ :=
      ih (step.holds held) fun f member => readable f (by simp [member])
    refine ⟨τ, _ :: made, ?_, .cons given written, step.trans formatted⟩
    simp only [addDateFormats, given]
    exact added

/-- The built-in types in the order in which they are made. -/
def builtInKinds : List BuiltIn :=
  [.date, .boolean, .datetime, .integer, .positiveInteger, .float, .string]

/-- The names of the built-in types, each with the place of its type in that order. -/
def builtInPlaces : List (String × Nat) :=
  [("PositiveInteger", 4), ("boolean", 1), ("date", 0), ("datetime", 2), ("float", 5),
    ("integer", 3), ("positive_integer", 4), ("string", 6)]

def builtIn (σ : Store) (place : Nat) : Scalar :=
  ⟨σ.settings.length + place, .builtIn (builtInKinds.getD place .string)⟩

section Create

variable (σ : Store)

theorem toList_create :
    (create σ).1.descriptors.toList = builtInPlaces.map fun e => (e.1, builtIn σ e.2) := by
  unfold create Store.create
  simp only [List.length_append, List.length_singleton]
  rfl

theorem get?_create_iff (name : String) (s : Scalar) :
    (create σ).1.get? name = some s ↔
      ∃ place, (name, place) ∈ builtInPlaces ∧ builtIn σ place = s := by
  rw [get?, ← KeyMap.mem_toList_iff, toList_create]
  simp [List.mem_map]

theorem date_create : (create σ).1.date = builtIn σ 0 := rfl

theorem caseDistinct_create : (create σ).1.CaseDistinct := by
  have names : (create σ).1.names = builtInPlaces.map Prod.fst := by
    rw [names, KeyMap.keys, ← KeyMap.toList, toList_create, List.map_map]
    rfl
  rw [CaseDistinct, names]
  decide +kernel

theorem settingsOf_create (t : Scalar) : (create σ).2.settingsOf t = σ.settingsOf t := by
  unfold create
  simp only [Store.settingsOf_create]

end Create

end TypeRegistry

/-- A token is listed under a key that is the name up to the case of letters. -/
def TypeSettings.Lists (settings : TypeSettings) (name token : String) : Prop :=
  ∃ key tokens, settings.sentinels.get? key = some tokens ∧ token ∈ tokens ∧
    Text.asciiLower key = Text.asciiLower name

namespace TypeRegistry

variable {σ : Store}

theorem gains_configured (settings : TypeSettings) (σ : Store) :
    (create σ).2.Gains (fun t token => ∃ name s, (create σ).1.get? name = some s ∧
        s.hasSentinels = true ∧ s.place = t.place ∧ settings.Lists name token)
      ((create σ).1.addSentinels settings.sentinels.toList (create σ).2).value := by
  have resolves := (caseDistinct_create σ).sentinelTypeForKey?_eq_some_iff
  have held : ∀ key s, (create σ).1.sentinelTypeForKey? key = some s → (create σ).2.Holds s := by
    intro key s found
    obtain ⟨_, name, own, _⟩ := (resolves key s).mp found
    exact (heldBy_create σ).descriptors name s own
  apply (gains_addSentinels held settings.sentinels.toList).congr
  intro t token
  simp only [resolves, TypeSettings.Lists, Prod.exists, KeyMap.mem_toList_iff]
  constructor
  · intro ⟨key, tokens, listed, member, s, ⟨has, name, own, same⟩, place⟩
    exact ⟨name, s, own, has, place, key, tokens, listed, member, same.symm⟩
  · intro ⟨name, s, own, has, place, key, tokens, listed, member, same⟩
    exact ⟨key, tokens, listed, member, s, ⟨has, name, own, same.symm⟩, place⟩

theorem settingsOf_builtIn_create (place : Nat) :
    (create σ).2.settingsOf (builtIn σ place) = .empty := by
  rw [settingsOf_create, Store.settingsOf, builtIn, List.getD_eq_getElem?_getD,
    List.getElem?_eq_none (by simp)]
  rfl

theorem mem_sentinels_configured (settings : TypeSettings) (place : Nat) (token : String) :
    token ∈ (builtIn σ place).sentinels
        ((create σ).1.addSentinels settings.sentinels.toList (create σ).2).value ↔
      (builtIn σ place).hasSentinels = true ∧
        ∃ name, (name, place) ∈ builtInPlaces ∧ settings.Lists name token := by
  have fresh : (builtIn σ place).sentinels (create σ).2 = [] := by
    rw [Scalar.sentinels, settingsOf_builtIn_create]
    rfl
  rw [(gains_configured settings σ).sentinels, fresh]
  simp only [List.not_mem_nil, false_or, get?_create_iff]
  constructor
  · rintro ⟨name, s, ⟨other, listed, rfl⟩, has, same, lists⟩
    -- Types at different places are different types.
    obtain rfl : other = place := Nat.add_left_cancel same
    exact ⟨has, name, listed, lists⟩
  · rintro ⟨has, name, listed, lists⟩
    exact ⟨name, _, ⟨place, listed, rfl⟩, has, rfl, lists⟩

theorem settingsOf_addSentinels_of_holds (settings : TypeSettings) {s : Scalar}
    (old : σ.Holds s) :
    ((create σ).1.addSentinels settings.sentinels.toList (create σ).2).value.settingsOf s =
      σ.settingsOf s := by
  rw [(gains_configured settings σ).settingsOf_of_none, settingsOf_create]
  rintro token ⟨name, t, found, _, same, _⟩
  obtain ⟨place, _, rfl⟩ := (get?_create_iff σ name t).mp found
  -- The built-in types were made after it.
  rw [Store.Holds, ← same] at old
  exact absurd old (Nat.not_lt.mpr (Nat.le_add_right _ _))

/-- The names of the types that take tokens for nil. -/
def sentinelNames : List String := ["integer", "PositiveInteger", "positive_integer", "float"]

theorem name_mem_sentinelNames {name : String} {place : Nat}
    (listed : (name, place) ∈ builtInPlaces) (has : (builtIn σ place).hasSentinels = true) :
    name ∈ sentinelNames := by
  have all : ∀ e ∈ builtInPlaces,
      (builtInKinds.getD e.2 .string).hasSentinels = true → e.1 ∈ sentinelNames := by decide
  exact all _ listed has

end TypeRegistry

/-- The types of a registry are as the settings say, and earlier types are as they were. -/
structure TypeSettings.Realized (settings : TypeSettings) (σ : Store) (r : TypeRegistry)
    (τ : Store) : Prop where
  integer : ∃ s, r.get? "integer" = some s ∧ s.kind = .builtIn .integer ∧
    ∀ token, token ∈ s.sentinels τ ↔ settings.Lists "integer" token
  positiveInteger : ∃ s, r.get? "PositiveInteger" = some s ∧ r.get? "positive_integer" = some s ∧
    s.kind = .builtIn .positiveInteger ∧ ∀ token, token ∈ s.sentinels τ ↔
      settings.Lists "PositiveInteger" token ∨ settings.Lists "positive_integer" token
  float : ∃ s, r.get? "float" = some s ∧ s.kind = .builtIn .float ∧
    ∀ token, token ∈ s.sentinels τ ↔ settings.Lists "float" token
  others : ∀ name s, r.get? name = some s → name ∉ TypeRegistry.sentinelNames → s.sentinels τ = []
  earlier : ∀ s, σ.Holds s → τ.settingsOf s = σ.settingsOf s
  date : r.get? "date" = some r.date
  dateFormats : List.Forall₂ (fun f format => DateFormat.ofTexts? f.1 f.2 = some format)
    settings.dateFormats (r.dateFormats τ)

/-- The keys are spelled anew; of keys that become equal the last one counts. -/
def TypeSettings.respell (settings : TypeSettings) (spell : String → String) : TypeSettings :=
  { settings with
    sentinels := .ofList (settings.sentinels.toList.map fun e => (spell e.1, e.2)) }

namespace TypeRegistry

variable {σ : Store}

theorem exists_realized (settings : TypeSettings) (σ : Store)
    (readable : ∀ f ∈ settings.dateFormats, (Pattern.read? f.2).isSome = true) :
    ∃ r τ, (configured settings σ).value = .ok (r, τ) ∧ settings.Realized σ r τ := by
  have gains := gains_configured settings σ
  have tokens := @mem_sentinels_configured σ settings
  generalize added_eq : ((create σ).1.addSentinels settings.sentinels.toList (create σ).2).value =
    added at gains tokens
  obtain ⟨τ, made, ok, written, formatted⟩ := exists_addDateFormats
    (gains.holds (heldBy_create σ).date) settings.dateFormats readable
  refine ⟨(create σ).1, τ, ?_, ?_⟩
  · rw [configured]
    simp only [added_eq, ok]
    rfl
  have named {name : String} {place : Nat} (listed : (name, place) ∈ builtInPlaces) :
      (create σ).1.get? name = some (builtIn σ place) :=
    (get?_create_iff σ name _).mpr ⟨place, listed, rfl⟩
  have own (place : Nat) (token : String) : token ∈ (builtIn σ place).sentinels τ ↔
      (builtIn σ place).hasSentinels = true ∧
        ∃ name, (name, place) ∈ builtInPlaces ∧ settings.Lists name token := by
    rw [formatted.sentinels, tokens]
  constructor
  case integer =>
    refine ⟨builtIn σ 3, named (by decide), rfl, fun token => ?_⟩
    rw [own]
    simp [builtInPlaces, Scalar.hasSentinels, builtIn, builtInKinds, BuiltIn.hasSentinels]
  case positiveInteger =>
    refine ⟨builtIn σ 4, named (by decide), named (by decide), rfl, fun token => ?_⟩
    rw [own]
    simp [builtInPlaces, Scalar.hasSentinels, builtIn, builtInKinds, BuiltIn.hasSentinels]
  case float =>
    refine ⟨builtIn σ 5, named (by decide), rfl, fun token => ?_⟩
    rw [own]
    simp [builtInPlaces, Scalar.hasSentinels, builtIn, builtInKinds, BuiltIn.hasSentinels]
  case others =>
    intro name s found other
    obtain ⟨place, listed, rfl⟩ := (get?_create_iff σ name s).mp found
    rw [List.eq_nil_iff_forall_not_mem]
    intro token member
    exact other (name_mem_sentinelNames listed ((own place token).mp member).1)
  case earlier =>
    intro s old
    have apart : (create σ).1.date.place ≠ s.place := Nat.ne_of_gt old
    rw [formatted.others s apart, ← added_eq, settingsOf_addSentinels_of_holds settings old]
  case date =>
    rw [date_create]
    exact named (by decide)
  case dateFormats =>
    have fresh : (create σ).1.dateFormats added = [] := by
      rw [dateFormats, gains.dateFormats, date_create, settingsOf_builtIn_create]
      rfl
    rw [dateFormats, formatted.own, ← dateFormats, fresh]
    exact written

theorem configured_congr {settings other : TypeSettings}
    (lists : ∀ name ∈ sentinelNames, ∀ token, settings.Lists name token ↔ other.Lists name token)
    (formats : settings.dateFormats = other.dateFormats) (σ : Store) :
    (configured settings σ).value = (configured other σ).value := by
  have added : ((create σ).1.addSentinels settings.sentinels.toList (create σ).2).value =
      ((create σ).1.addSentinels other.sentinels.toList (create σ).2).value := by
    -- The keys may be in another order: that the same tokens are gained has to be enough.
    apply (gains_configured settings σ).unique
    apply (gains_configured other σ).congr
    intro t token
    apply exists_congr
    intro name
    apply exists_congr
    intro s
    simp only [and_congr_right_iff]
    intro found has _
    obtain ⟨place, listed, rfl⟩ := (get?_create_iff σ name s).mp found
    exact (lists name (name_mem_sentinelNames listed has) token).symm
  simp only [configured, added, formats]

end TypeRegistry

namespace TypeSettings

variable {settings : TypeSettings}

theorem lists_respell_iff {spell : String → String}
    (cased : ∀ key ∈ settings.sentinels.keys, Text.asciiLower (spell key) = Text.asciiLower key)
    (apart : (settings.sentinels.keys.map spell).Nodup) (name token : String) :
    (settings.respell spell).Lists name token ↔ settings.Lists name token := by
  have distinct :
      ((settings.sentinels.toList.map fun e => (spell e.1, e.2)).map Prod.fst).Nodup := by
    rw [KeyMap.keys, List.map_map] at apart
    rwa [List.map_map]
  -- No entry is put in the place of another one.
  have entry (key : String) (tokens : List String) :
      (settings.respell spell).sentinels.get? key = some tokens ↔
        ∃ old, settings.sentinels.get? old = some tokens ∧ spell old = key := by
    rw [respell, KeyMap.get?_ofList distinct, ← mem_iff_lookup distinct]
    simp [← KeyMap.mem_toList_iff]
  have same {old : String} {tokens : List String}
      (found : settings.sentinels.get? old = some tokens) :
      Text.asciiLower (spell old) = Text.asciiLower old :=
    cased old ((settings.sentinels.mem_keys_iff old).mpr ⟨tokens, found⟩)
  simp only [Lists, entry]
  constructor
  · rintro ⟨key, tokens, ⟨old, found, rfl⟩, member, named⟩
    exact ⟨old, tokens, found, member, (same found).symm.trans named⟩
  · rintro ⟨old, tokens, found, member, named⟩
    exact ⟨spell old, tokens, ⟨old, found, rfl⟩, member, (same found).trans named⟩

theorem lists_erase_iff {key name : String}
    (other : Text.asciiLower key ≠ Text.asciiLower name) (token : String) :
    { settings with sentinels := settings.sentinels.erase key }.Lists name token ↔
      settings.Lists name token := by
  apply exists_congr
  intro listed
  by_cases erased : listed = key
  · simp [erased, other]
  · simp [KeyMap.get?_erase, erased]

end TypeSettings

namespace TypeRegistry

theorem configured_by_listed_keys (settings : TypeSettings) (σ : Store)
    (readable : ∀ f ∈ settings.dateFormats, (Pattern.read? f.2).isSome = true) :
    (∃ r τ, (configured settings σ).value = .ok (r, τ) ∧ settings.Realized σ r τ) ∧
    (∀ key, (∀ name ∈ sentinelNames, Text.asciiLower key ≠ Text.asciiLower name) →
      (configured { settings with sentinels := settings.sentinels.erase key } σ).value =
        (configured settings σ).value) ∧
    ∀ spell : String → String,
      (∀ key ∈ settings.sentinels.keys, Text.asciiLower (spell key) = Text.asciiLower key) →
      (settings.sentinels.keys.map spell).Nodup →
      (configured (settings.respell spell) σ).value = (configured settings σ).value := by
  refine ⟨exists_realized settings σ readable, ?_, ?_⟩
  · intro key other
    apply configured_congr
    · intro name member
      exact TypeSettings.lists_erase_iff (other name member)
    · rfl
  · intro spell cased apart
    apply configured_congr
    · intro name _
      exact TypeSettings.lists_respell_iff cased apart name
    · rfl

/-- Two keys for one type, an alias, and a type without tokens. -/
def mixedCase : TypeSettings where
  sentinels := .ofList
    [("INTEGER", ["NA"]), ("date", ["never"]), ("integer", ["none"]), ("positive_INTEGER", ["-"])]
  dateFormats := [("%d.%m.%Y", "^[0-9.]+$")]

/-- One of the two keys of a type in another case, and every other key as it is. -/
def capitalKey (key : String) : String := if key = "INTEGER" then "Integer" else key

theorem configured_by_listed_keys_mixedCase :
    (∀ f ∈ mixedCase.dateFormats, (Pattern.read? f.2).isSome = true) ∧
      (∃ r τ s t, (configured mixedCase .empty).value = .ok (r, τ) ∧
        r.get? "integer" = some s ∧
        (∀ token, token ∈ s.sentinels τ ↔ token = "NA" ∨ token = "none") ∧
        r.get? "PositiveInteger" = some t ∧ "-" ∈ t.sentinels τ) ∧
      (configured { mixedCase with sentinels := mixedCase.sentinels.erase "date" } .empty).value =
        (configured mixedCase .empty).value ∧
      (configured (mixedCase.respell capitalKey) .empty).value =
        (configured mixedCase .empty).value := by
  have readable : ∀ f ∈ mixedCase.dateFormats, (Pattern.read? f.2).isSome = true := by
    decide +kernel
  have keys : mixedCase.sentinels.keys = ["INTEGER", "date", "integer", "positive_INTEGER"] := by
    decide +kernel
  obtain ⟨⟨r, τ, made, realized⟩, ignores, respells⟩ :=
    configured_by_listed_keys mixedCase .empty readable
  refine ⟨readable, ?_, ignores "date" (by decide +kernel), respells capitalKey ?_ ?_⟩
  · obtain ⟨s, integer, _, own⟩ := realized.integer
    obtain ⟨t, positive, _, _, shared⟩ := realized.positiveInteger
    refine ⟨r, τ, s, t, made, integer, fun token => ?_, positive, ?_⟩
    · have entries : mixedCase.sentinels.toList = [("INTEGER", ["NA"]), ("date", ["never"]),
          ("integer", ["none"]), ("positive_INTEGER", ["-"])] := by decide +kernel
      have same : Text.asciiLower "INTEGER" = Text.asciiLower "integer" := by decide +kernel
      have date : Text.asciiLower "date" ≠ Text.asciiLower "integer" := by decide +kernel
      have second : Text.asciiLower "positive_INTEGER" ≠ Text.asciiLower "integer" := by
        decide +kernel
      rw [own]
      simp [TypeSettings.Lists, ← KeyMap.mem_toList_iff, entries, or_and_right, exists_or,
        same, date, second]
    · rw [shared]
      exact .inr ⟨"positive_INTEGER", ["-"], by decide +kernel, by decide, by decide +kernel⟩
  · rw [keys]
    decide +kernel
  · rw [keys]
    decide +kernel

end TypeRegistry

end RecordSchema
