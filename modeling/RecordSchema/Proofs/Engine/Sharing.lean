import RecordSchema.Proofs.Engine.Publishing
import RecordSchema.Proofs.Model.Settings
import RecordSchema.Proofs.Registry
import RecordSchema.Proofs.Scalar.Settings

set_option autoImplicit false

/-!
What the catalogs of an engine have in common with the registries around it: the settings of the
scalar types, and nothing else. An engine is used together with the copies of its registry that
callers hold and may change; a type that is replaced in one of them stays what it was in the others
and in the catalogs. A caller's type takes part like any other: with a set of tokens of its own, or
with the set of another type.
-/

namespace RecordSchema

/-- All types of a registry have a place in a store. -/
structure TypeRegistry.HeldBy (r : TypeRegistry) (σ : Store) : Prop where
  descriptors : r.All σ.Holds
  date : σ.Holds r.date

namespace TypeRegistry.HeldBy

variable {r : TypeRegistry} {σ : Store} {s : Scalar}

theorem mono (held : r.HeldBy σ) {τ : Store}
    (grown : σ.settings.length ≤ τ.settings.length) : r.HeldBy τ where
  descriptors name s found := Nat.lt_of_lt_of_le (held.descriptors name s found) grown
  date := Nat.lt_of_lt_of_le held.date grown

theorem register (held : r.HeldBy σ) (given : σ.Holds s) (name : String) :
    (r.register name s).HeldBy σ :=
  ⟨held.descriptors.register given name, held.date⟩

theorem alias_getD (held : r.HeldBy σ) (name target : String) :
    ((r.alias? name target).getD r).HeldBy σ := by
  refine ⟨held.descriptors.alias_getD name target, ?_⟩
  unfold alias?
  cases r.get? target <;> exact held.date

theorem of_sentinelType? (held : r.HeldBy σ) {name : String}
    (found : r.sentinelType? name = some s) : σ.Holds s :=
  held.descriptors name s (Option.filter_eq_some_iff.mp found).1

end TypeRegistry.HeldBy

theorem TypeRegistry.heldBy_create (σ : Store) : (create σ).1.HeldBy (create σ).2 := by
  refine create_induction (motive := fun r => r.HeldBy (create σ).2) σ ?_ ?_ ?_
  · intro date place
    refine ⟨?_, place⟩
    intro name s found
    cases found
  · intro r name b id place held
    exact held.register place name
  · intro r held
    exact held.alias_getD _ _

/-- Whose registry is used: the engine's own, or a copy that a caller holds. -/
inductive Holder where
  | engine
  | copy (index : Nat)

/-- The type of a registration: a new one, which may share the set of a type that there is, or one that
a registry has. -/
inductive TypeSource where
  | fresh (kind : ScalarKind)
  | held (holder : Holder) (name : String)

inductive Action where
  | reload (description : String) (loaded : Logged (Except ModelError (List SchemaFile)))
  | reloadBatch (batch : List SchemaFile)
  | registerType (name : String) (source : TypeSource)
  | copyTypes (holder : Holder)
  | registerInCopy (index : Nat) (name : String) (source : TypeSource)
  | aliasInCopy (index : Nat) (name target : String)
  | editSentinels (holder : Holder) (name : String) (edit : SentinelEdit)
  | addDateFormat (holder : Holder) (template patternText : String)

/-- An engine, the settings of all types, and the copies of its registry. -/
structure Session where
  engine : Engine
  store : Store
  copies : List TypeRegistry

namespace Session

def start (types : TypeRegistry) (policy : ArrayNilPolicy) (σ : Store) : Session :=
  ⟨.create types policy, σ, []⟩

def registry? (w : Session) : Holder → Option TypeRegistry
  | .engine => some w.engine.types
  | .copy index => w.copies[index]?

def supply (w : Session) : TypeSource → Option (Scalar × Store)
  | .fresh kind => if w.store.Offers kind then some (w.store.create kind) else none
  | .held holder name => ((w.registry? holder).bind (·.get? name)).map fun s => (s, w.store)

def perform (w : Session) : Action → Session
  | .reload description loaded => { w with engine := (w.engine.reload description loaded).1 }
  | .reloadBatch batch => { w with engine := (w.engine.reloadBatch batch).1 }
  | .registerType name source =>
      match w.supply source with
      | some (s, σ) => { w with engine := w.engine.registerType name s, store := σ }
      | none => w
  | .copyTypes holder => { w with copies := w.copies ++ (w.registry? holder).toList }
  | .registerInCopy index name source =>
      match w.supply source with
      | some (s, σ) => { w with copies := w.copies.modify index (·.register name s), store := σ }
      | none => w
  | .aliasInCopy index name target =>
      { w with copies := w.copies.modify index fun r => (r.alias? name target).getD r }
  | .editSentinels holder name edit =>
      match (w.registry? holder).bind (·.sentinelType? name) with
      | some s => { w with store := edit.perform s w.store }
      | none => w
  | .addDateFormat holder template patternText =>
      match (w.registry? holder).bind fun r =>
          (r.addDateFormats [(template, patternText)] w.store).toOption with
      | some σ => { w with store := σ }
      | none => w

def run (w : Session) (actions : List Action) : Session := actions.foldl perform w

/-- The change that an action makes to the settings of a type. -/
def change? (w : Session) : Action → Option SettingsChange
  | .editSentinels holder name edit =>
      ((w.registry? holder).bind (·.sentinelType? name)).map fun s => ⟨s, .sentinels edit⟩
  | .addDateFormat holder template patternText =>
      (w.registry? holder).bind fun r =>
        (DateFormat.ofTexts? template patternText).map fun format => ⟨r.date, .dateFormat format⟩
  | _ => none

def changes (w : Session) : List Action → List SettingsChange
  | [] => []
  | action :: rest => (w.change? action).toList ++ (w.perform action).changes rest

/-- All types that can be found have a place in the store. -/
structure Backed (w : Session) : Prop where
  engine : w.engine.types.HeldBy w.store
  copies : ∀ r ∈ w.copies, r.HeldBy w.store

theorem backed_start {types : TypeRegistry} {σ : Store} (held : types.HeldBy σ)
    (policy : ArrayNilPolicy) : (start types policy σ).Backed where
  engine := held
  copies r member := by cases member

theorem Backed.registry? {w : Session} (backed : w.Backed) {holder : Holder} {r : TypeRegistry}
    (found : w.registry? holder = some r) : r.HeldBy w.store := by
  cases holder with
  | engine =>
    rw [← Option.some.inj found]
    exact backed.engine
  | copy index => exact backed.copies r (List.mem_of_getElem? found)

theorem Backed.grow {w : Session} (backed : w.Backed) {τ : Store}
    (grown : w.store.settings.length ≤ τ.settings.length) : Backed { w with store := τ } where
  engine := backed.engine.mono grown
  copies r member := (backed.copies r member).mono grown

/-- What is done between two moments: all types still have a place, and the settings are changed by
the changes given, and by no others. -/
structure Leads (w : Session) (changes : List SettingsChange) (later : Session) : Prop where
  backed : later.Backed
  settings : ∀ s,
    later.store.settingsOf s = settingsAfter changes s (w.store.settingsOf s)

theorem Leads.refl {w : Session} (backed : w.Backed) : w.Leads [] w := ⟨backed, fun _ => rfl⟩

theorem Leads.trans {w between later : Session} {first second : List SettingsChange}
    (before : w.Leads first between) (after : between.Leads second later) :
    w.Leads (first ++ second) later where
  backed := after.backed
  settings s := by rw [after.settings, before.settings, settingsAfter_append]

theorem leads_supply {w : Session} (backed : w.Backed) {source : TypeSource} {s : Scalar}
    {τ : Store} (supplied : w.supply source = some (s, τ)) :
    τ.Holds s ∧ w.Leads [] { w with store := τ } := by
  cases source with
  | fresh kind =>
    obtain ⟨offered, made⟩ := Option.ite_none_right_eq_some.mp supplied
    obtain ⟨rfl, rfl⟩ := Prod.mk.inj (Option.some.inj made)
    have grown : w.store.settings.length ≤ (w.store.create kind).2.settings.length := by
      rw [Store.length_create]
      exact Nat.le_succ _
    exact ⟨Store.holds_create offered, backed.grow grown, Store.settingsOf_create kind⟩
  | held holder name =>
    obtain ⟨t, found, same⟩ := Option.map_eq_some_iff.mp supplied
    obtain ⟨rfl, rfl⟩ := Prod.mk.inj same
    obtain ⟨r, holds, named⟩ := Option.bind_eq_some_iff.mp found
    exact ⟨(backed.registry? holds).descriptors name t named, .refl backed⟩

theorem Leads.engine {w later : Session} {changes : List SettingsChange}
    (leads : w.Leads changes later) {e : Engine} (held : e.types.HeldBy later.store) :
    w.Leads changes { later with engine := e } :=
  ⟨⟨held, leads.backed.copies⟩, leads.settings⟩

theorem Leads.modify {w later : Session} {changes : List SettingsChange}
    (leads : w.Leads changes later) (index : Nat) {f : TypeRegistry → TypeRegistry}
    (kept : ∀ r, r.HeldBy later.store → (f r).HeldBy later.store) :
    w.Leads changes { later with copies := later.copies.modify index f } := by
  refine ⟨⟨leads.backed.engine, ?_⟩, leads.settings⟩
  intro r member
  obtain ⟨i, found⟩ := List.mem_iff_getElem?.mp member
  rw [List.getElem?_modify] at found
  obtain ⟨old, place, rfl⟩ := Option.map_eq_some_iff.mp found
  have held := leads.backed.copies old (List.mem_of_getElem? place)
  split
  · exact kept old held
  · exact held

theorem Leads.update {w : Session} (backed : w.Backed) {s : Scalar} (held : w.store.Holds s)
    (edit : SettingsEdit) :
    w.Leads [⟨s, edit⟩] { w with store := w.store.update s edit.alter } where
  backed := backed.grow (Nat.le_of_eq (Store.length_update edit.alter).symm)
  settings := Store.settingsOf_update held edit.alter

theorem leads_perform {w : Session} (backed : w.Backed) (action : Action) :
    w.Leads (w.change? action).toList (w.perform action) := by
  have unchanged := Leads.refl backed
  cases action with
  | reload description loaded =>
    -- A reload only reads the types, whether it fails or not.
    have types := w.engine.types_perform (.reload description loaded)
    exact unchanged.engine (types.symm ▸ backed.engine)
  | reloadBatch batch =>
    have types := w.engine.types_perform (.reloadBatch batch)
    exact unchanged.engine (types.symm ▸ backed.engine)
  | registerType name source =>
    simp only [perform]
    cases supplied : w.supply source with
    | none => exact unchanged
    | some given =>
      obtain ⟨s, τ⟩ := given
      obtain ⟨held, leads⟩ := leads_supply backed supplied
      have types := leads.backed.engine.register held name
      exact leads.engine types
  | copyTypes holder =>
    refine ⟨⟨backed.engine, ?_⟩, unchanged.settings⟩
    intro r member
    rcases List.mem_append.mp member with old | added
    · exact backed.copies r old
    · exact backed.registry? (Option.mem_toList.mp added)
  | registerInCopy index name source =>
    simp only [perform]
    cases supplied : w.supply source with
    | none => exact unchanged
    | some given =>
      obtain ⟨s, τ⟩ := given
      obtain ⟨held, leads⟩ := leads_supply backed supplied
      exact leads.modify index fun r own => own.register held name
  | aliasInCopy index name target =>
    exact unchanged.modify index fun r held => held.alias_getD name target
  | editSentinels holder name edit =>
    simp only [perform, change?, SentinelEdit.perform_eq_update]
    cases found : (w.registry? holder).bind (·.sentinelType? name) with
    | none => exact unchanged
    | some s =>
      -- Whoever's registry it is, the type that is found there has a place.
      obtain ⟨r, holds, named⟩ := Option.bind_eq_some_iff.mp found
      exact .update backed ((backed.registry? holds).of_sentinelType? named) (.sentinels edit)
  | addDateFormat holder template patternText =>
    simp only [perform, change?, TypeRegistry.addDateFormats_single]
    cases holds : w.registry? holder with
    | none => exact unchanged
    | some r =>
      simp only [Option.bind_some]
      cases DateFormat.ofTexts? template patternText with
      | none => exact unchanged
      | some format => exact .update backed (backed.registry? holds).date (.dateFormat format)

theorem leads_run {w : Session} (backed : w.Backed) (actions : List Action) :
    w.Leads (w.changes actions) (w.run actions) := by
  induction actions generalizing w with
  | nil => exact .refl backed
  | cons action rest ih =>
    have first := leads_perform backed action
    exact first.trans (ih first.backed)

/-- A catalog of any age parses as before if nothing was changed for the types that its model leads
to. A change to such a type is seen by all catalogs alike, through whichever registry it was made:
they parse by the settings that the type has after all changes addressed to it. Changes are compared
by place, since a change to a set of tokens is one to every type that has the set. -/
theorem catalogs_share_settings (w : Session) (backed : w.Backed) (actions : List Action) :
    let later := w.run actions
    let kept s := settingsAfter (w.changes actions) s (w.store.settingsOf s)
    (∀ s, later.store.settingsOf s = kept s) ∧
    ∀ (c : Catalog) (name : String) (raw : Json),
      ((∀ m s, c.model name = .ok m → (TypeRef.model m).Reaches (.scalar s) →
          ∀ change ∈ w.changes actions, change.type.place ≠ s.place) →
        c.parse later.store name raw = c.parse w.store name raw) ∧
      ∀ τ, (∀ m s, c.model name = .ok m → (TypeRef.model m).Reaches (.scalar s) →
          τ.settingsOf s = kept s) →
        c.parse later.store name raw = c.parse τ name raw := by
  intro later kept
  have settings : ∀ s, later.store.settingsOf s = kept s := (leads_run backed actions).settings
  have alike (c : Catalog) (name : String) (raw : Json) (τ : Store)
      (same : ∀ m s, c.model name = .ok m → (TypeRef.model m).Reaches (.scalar s) →
        τ.settingsOf s = kept s) : c.parse later.store name raw = c.parse τ name raw := by
    refine c.parse_congr name ?_ raw
    intro m found s reaches
    rw [settings, same m s found reaches]
  refine ⟨settings, fun c name raw => ⟨?_, alike c name raw⟩⟩
  intro others
  refine alike c name raw w.store ?_
  intro m s found reaches
  exact (settingsAfter_of_others (others m s found reaches) _).symm

/-- A caller's type of texts that takes the tokens of the type in the third place for nil. -/
def account : CustomType where
  name := "account"
  sentinelSet := some (.sharedWith 3)
  parse tokens
    | .str s => if tokens.contains s then .ok .nil else .ok (.string s)
    | raw => .error ⟨"account", raw.rawText, .other "expected a text"⟩
  isValid _
    | .str _ => true
    | _ => false

/-- A class with an amount of type integer and an account of the caller's type. -/
def ledgerFile : SchemaFile :=
  ⟨[], ⟨none, none, [], "Ledger", [(Property.named "amount" ["amount"]).typed "integer",
    (Property.named "account" ["account"]).typed "account"]⟩, none⟩

/-- The class in an engine, with a copy of the engine's registry. -/
def ledger : Session :=
  let (types, σ) := TypeRegistry.create .empty
  (start types .wrapNil σ).run
    [.registerType "account" (.fresh (.custom account)), .reloadBatch [ledgerFile],
      .copyTypes .engine]

/-- Another type takes the name, the class is loaded again, and a token is added by that name. -/
def replaceInteger : List Action :=
  [.registerType "integer" (.fresh (.builtIn .integer)), .reloadBatch [ledgerFile],
    .editSentinels .engine "integer" (.insert "none")]

/-- The copy still has the type that was replaced. -/
def editByCopy : Action := .editSentinels (.copy 0) "integer" (.insert "NA")

theorem catalogs_share_settings_ledger : ledger.Backed ∧
    let kept := ledger.engine.current.catalog
    (∀ raw, kept.parse (ledger.run replaceInteger).store "Ledger" raw =
      kept.parse ledger.store "Ledger" raw) ∧
    (kept.parse (ledger.run (replaceInteger ++ [editByCopy])).store "Ledger"
        (.obj [("amount", .str "NA"), ("account", .str "NA")])).value =
      .ok (some ⟨"Ledger", [("amount", .nil), ("account", .nil)]⟩) := by
  have backed : ledger.Backed :=
    (leads_run (backed_start (TypeRegistry.heldBy_create .empty) .wrapNil) _).backed
  -- Both attributes have the place of the first integer type.
  have reached : ∀ m s, ledger.engine.current.catalog.model "Ledger" = .ok m →
      (TypeRef.model m).Reaches (.scalar s) → s.place = 3 := by
    intro m s found reaches
    have model : ledger.engine.current.catalog.model "Ledger" =
      .ok (.mk "Ledger" "" "Ledger" .wrapNil
        [.mk "amount" ["amount"] (some (.scalar ⟨3, .builtIn .integer⟩)) false,
          .mk "account" ["account"] (some (.scalar ⟨7, .custom account⟩)) false]) := rfl
    obtain rfl := Except.ok.inj (model.symm.trans found)
    cases reaches with
    | through refers further =>
      obtain ⟨a, member, typed⟩ := refers
      rw [Model.attributes, List.mem_pair] at member
      rcases member with rfl | rfl
      · obtain rfl := Option.some.inj typed
        cases further
        rfl
      · obtain rfl := Option.some.inj typed
        cases further
        rfl
  refine ⟨backed, ?_, ?_⟩
  · intro raw
    have frame := (ledger.catalogs_share_settings backed replaceInteger).2
      ledger.engine.current.catalog "Ledger" raw
    refine frame.1 ?_
    intro m s found reaches change member
    have changes : ledger.changes replaceInteger =
      [⟨⟨8, .builtIn .integer⟩, .sentinels (.insert "none")⟩] := rfl
    rw [changes, List.mem_singleton] at member
    rw [member, reached m s found reaches]
    decide
  · -- The settings of the type that was replaced, as the copy has changed them.
    let changed : Store := ⟨List.replicate 3 .empty ++ [⟨KeyMap.empty.insert "NA" (), []⟩]⟩
    have alike := ((ledger.catalogs_share_settings backed (replaceInteger ++ [editByCopy])).2
      ledger.engine.current.catalog "Ledger"
        (.obj [("amount", .str "NA"), ("account", .str "NA")])).2 changed
    rw [alike]
    · rfl
    · intro m s found reaches
      simp only [Store.settingsOf, settingsAfter, reached m s found reaches]
      rfl

end Session

end RecordSchema
