import SchemaVisibility.Plugin.Execution
import SchemaVisibility.Proofs.Fallible
import SchemaVisibility.Proofs.Plugin.Store

/-! # The registry of a schema

Which registry serves a schema: the one that it is bound to, or else one of its records, which are
then scanned (`registryFor_of_enabled`). Once a plugin serves a schema (`Serves`), it goes on with
the same binding and stays as it is: it scans nothing (`Serves.sync`), offers the rule of this
binding (`Serves.rules`), and redacts by its registry what asks for introspection
(`Serves.execute`).

As long as no schema changes, all registries of a plugin are up to date (`Accurate`), and publishing
the records of a scan once more changes nothing (`Serves.publish`).
-/

namespace SchemaVisibility.Plugin

/-- What the registry of a schema holds, or why there is none. -/
def registryFor (plugin : Plugin) (catalog : Catalog) (schema : Handle) :
    Except ScanError Registry := do
  let step ← plugin.bindingFor catalog (some schema)
  return step.plugin.registryAt step.value.registry

/-- The plugin is switched on, the schema of the key has this binding, and its registry holds
this. -/
structure Serves (plugin : Plugin) (key : String) (binding : Binding) (registry : Registry) :
    Prop where
  enabled : plugin.enabled = true
  bound : plugin.binding? key = some binding
  registryAt_eq : plugin.registryAt binding.registry = registry

/-- Whether a query asks for introspection, so that the plugin takes the operation over. -/
def asksIntrospection : Json → Bool
  | .str text => (Introspection.document? text).any Introspection.selectsIntrospection
  | _ => false

/-- Without a query nothing is asked for. -/
theorem asksIntrospection_of_not_truthy {query : Json} (h : query.truthy = false) :
    asksIntrospection query = false := by
  cases query with
  | str text =>
    obtain rfl : text = "" := by simpa [Json.truthy] using h
    rfl
  | _ => rfl

variable {plugin : Plugin} {catalog : Catalog} {schema : Handle} {binding : Binding}
  {registry : Registry}

/-! ### A plugin that serves a schema -/

theorem serves_of_binding? {key : String} (henabled : plugin.enabled = true)
    (h : plugin.binding? key = some binding) :
    plugin.Serves key binding (plugin.registryAt binding.registry) :=
  ⟨henabled, h, rfl⟩

theorem isBound_iff {key : String} :
    plugin.isBound key = true ↔ ∃ binding, plugin.binding? key = some binding :=
  Option.isSome_iff_exists

namespace Serves

theorem isBound {key : String} (h : plugin.Serves key binding registry) :
    plugin.isBound key = true :=
  isBound_iff.mpr ⟨binding, h.bound⟩

/-- The rule of the schema reads its registry. -/
theorem readBy {key : String} (h : plugin.Serves key binding registry) :
    plugin.readBy binding.rule = registry :=
  (plugin.store.holds_of_bound h.bound).readBy_eq.trans h.registryAt_eq

theorem sync (h : plugin.Serves schema.key binding registry) :
    plugin.sync catalog schema = .ok ⟨some binding, plugin, []⟩ := by
  rw [Plugin.sync, if_pos h.enabled, h.bound]
  rfl

theorem bindingFor (h : plugin.Serves schema.key binding registry) :
    plugin.bindingFor catalog (some schema) = .ok ⟨binding, plugin, []⟩ := by
  simp only [Plugin.bindingFor, h.sync]
  rfl

theorem registryFor (h : plugin.Serves schema.key binding registry) :
    plugin.registryFor catalog schema = .ok registry := by
  simp only [Plugin.registryFor, h.bindingFor]
  exact congrArg Except.ok h.registryAt_eq

theorem rules (h : plugin.Serves schema.key binding registry) :
    plugin.rules catalog (some schema) = .ok ⟨[binding.rule], plugin, []⟩ := by
  simp only [Plugin.rules, h.enabled, if_true, h.bindingFor]
  rfl

theorem intercept (h : plugin.Serves schema.key binding registry) (query : Json) :
    plugin.intercept catalog query (some schema) =
      .ok ⟨if asksIntrospection query then some binding.registry else none, plugin, []⟩ := by
  change (if (plugin.enabled && asksIntrospection query) = true then _ else _) = _
  rw [h.enabled, Bool.true_and, h.bindingFor]
  split <;> rfl

/-- An operation that asks for introspection is run once and its result redacted; another one is
passed on. -/
theorem execute {σ : Type} (h : plugin.Serves schema.key binding registry)
    (run : σ → Except Fault (Option ExecutionResult) × σ) (state : σ) (query : Json)
    (operationName : Option String) :
    plugin.execute catalog run state query operationName (some schema) =
      if asksIntrospection query then
        ((run state).1 >>= fun result =>
            ((redacted registry query operationName result).mapError Fault.redaction).map .handled,
          plugin, [], (run state).2)
      else (.ok .passed, plugin, [], state) := by
  rw [Plugin.execute, h.intercept]
  cases hasks : asksIntrospection query with
  | false => rfl
  | true =>
    rcases run state with ⟨fault | result, state⟩
    · rfl
    · simp only [if_true, Fallible.ok_bind, h.registryAt_eq]
      cases redacted registry query operationName result <;> rfl

end Serves

/-! ### The first time -/

/-- The binding under which the records of a schema are published. -/
def bindingOf (plugin : Plugin) (key : String) : Binding :=
  (plugin.store.bind key).1

theorem publish_serves (henabled : plugin.enabled = true) (key : String) (records : List Record) :
    (plugin.publish key records).Serves key (plugin.bindingOf key) (.ofRecords records) :=
  ⟨henabled, plugin.store.binding?_publish key records,
    plugin.store.registryAt_publish key records⟩

theorem rebuild_eq (plugin : Plugin) (catalog : Catalog) (key : String) :
    plugin.rebuild catalog key = (catalog.scan key).map fun records =>
      ⟨plugin.bindingOf key, plugin.publish key records, [.registryRebuilt records.length]⟩ := by
  rw [rebuild]
  cases catalog.scan key <;> rfl

/-- A schema that is not bound yet is scanned. -/
theorem sync_of_unbound (henabled : plugin.enabled = true)
    (hbound : plugin.binding? schema.key = none) :
    plugin.sync catalog schema = (catalog.scan schema.key).map fun records =>
      ⟨some (plugin.bindingOf schema.key), plugin.publish schema.key records,
        [.registryRebuilt records.length]⟩ := by
  simp only [sync, henabled, hbound, if_true, rebuild_eq]
  cases catalog.scan schema.key <;> rfl

/-- What the registry holds that the schema is bound to, or else its records. -/
theorem registryFor_of_enabled (henabled : plugin.enabled = true) :
    plugin.registryFor catalog schema =
      match plugin.binding? schema.key with
      | some binding => .ok (plugin.registryAt binding.registry)
      | none => (catalog.scan schema.key).map .ofRecords := by
  cases hbound : plugin.binding? schema.key with
  | some binding => exact (serves_of_binding? henabled hbound).registryFor
  | none =>
    rw [registryFor, bindingFor, sync_of_unbound henabled hbound]
    cases catalog.scan schema.key with
    | error error => rfl
    | ok records =>
      exact congrArg Except.ok (publish_serves henabled schema.key records).registryAt_eq

/-- A schema that is bound or can be scanned has a registry. -/
theorem exists_registryFor (henabled : plugin.enabled = true)
    (h : plugin.isBound schema.key = true ∨ ∃ records, catalog.scan schema.key = .ok records) :
    ∃ registry, plugin.registryFor catalog schema = .ok registry := by
  rw [registryFor_of_enabled henabled]
  cases hbound : plugin.binding? schema.key with
  | some binding => exact ⟨_, rfl⟩
  | none =>
    rcases h with h | ⟨records, hscan⟩
    · rw [isBound, hbound] at h
      cases h
    · exact ⟨.ofRecords records, by rw [hscan]; rfl⟩

/-- Whoever was told the binding of a schema, is served by it. -/
theorem serves_of_sync {step : Step (Option Binding)} (henabled : plugin.enabled = true)
    (h : plugin.sync catalog schema = .ok step) :
    ∃ binding registry, step.value = some binding ∧
      step.plugin.Serves schema.key binding registry := by
  cases hbound : plugin.binding? schema.key with
  | some binding =>
    have hserves := serves_of_binding? henabled hbound
    rw [hserves.sync] at h
    cases h
    exact ⟨_, _, rfl, hserves⟩
  | none =>
    rw [sync_of_unbound henabled hbound] at h
    obtain ⟨records, -, rfl⟩ := Fallible.map_eq_ok.mp h
    exact ⟨_, _, rfl, publish_serves henabled schema.key records⟩

/-- Serving a schema takes no binding away and gives no rule another registry. -/
theorem extends_of_sync {step : Step (Option Binding)} (henabled : plugin.enabled = true)
    (h : plugin.sync catalog schema = .ok step) : plugin.store.Extends step.plugin.store := by
  cases hbound : plugin.binding? schema.key with
  | some binding =>
    rw [(serves_of_binding? henabled hbound).sync] at h
    cases h
    exact .refl _
  | none =>
    rw [sync_of_unbound henabled hbound] at h
    obtain ⟨records, -, rfl⟩ := Fallible.map_eq_ok.mp h
    exact plugin.store.extends_publish ..

theorem registryFor_of_sync {step : Step (Option Binding)} {key : String}
    (h : plugin.sync catalog schema = .ok step) (hvalue : step.value = some binding)
    (hserves : step.plugin.Serves key binding registry) :
    plugin.registryFor catalog schema = .ok registry := by
  rw [registryFor, bindingFor, h]
  simp only [Fallible.ok_bind, hvalue, Option.getD_some]
  exact congrArg Except.ok hserves.registryAt_eq

/-- A schema that has a registry is served from then on. -/
theorem sync_of_registryFor (henabled : plugin.enabled = true)
    (h : plugin.registryFor catalog schema = .ok registry) :
    ∃ step binding, plugin.sync catalog schema = .ok step ∧
      step.plugin.Serves schema.key binding registry := by
  cases hsync : plugin.sync catalog schema with
  | error error =>
    rw [registryFor, bindingFor, hsync] at h
    cases h
  | ok step =>
    obtain ⟨binding, found, hvalue, hserves⟩ := serves_of_sync henabled hsync
    obtain rfl : found = registry :=
      Except.ok.inj ((registryFor_of_sync hsync hvalue hserves).symm.trans h)
    exact ⟨step, binding, rfl, hserves⟩

/-! ### Plugins whose registries are up to date -/

/-- The plugin is switched on, and the registry of every schema that it has bound holds the records
of this schema. -/
structure Accurate (plugin : Plugin) (catalog : Catalog) : Prop where
  enabled : plugin.enabled = true
  scan_of_bound : ∀ {key binding}, plugin.binding? key = some binding →
    ∃ records, catalog.scan key = .ok records ∧
      plugin.registryAt binding.registry = .ofRecords records

/-- A plugin that has served nothing yet has no registry that could be out of date. -/
theorem accurate_create {env : Settings.Environment} {config : Table Json}
    (henabled : (create env config).1.enabled = true) (catalog : Catalog) :
    (create env config).1.Accurate catalog :=
  ⟨henabled, fun h => nomatch (h : none = some _)⟩

variable {key : String} {records : List Record}

/-- A schema that is bound is served with its records. -/
theorem Accurate.serves (h : plugin.Accurate catalog)
    (hbound : plugin.binding? key = some binding) :
    ∃ records, catalog.scan key = .ok records ∧
      plugin.Serves key binding (.ofRecords records) := by
  obtain ⟨records, hscan, hregistry⟩ := h.scan_of_bound hbound
  exact ⟨records, hscan, h.enabled, hbound, hregistry⟩

/-- Publishing the records of a scan again, of this schema or of another one, changes no registry
that serves. -/
theorem Serves.publish {other : String} {records' : List Record}
    (h : plugin.Serves key binding (.ofRecords records)) (hscan : catalog.scan key = .ok records)
    (hscan' : catalog.scan other = .ok records') :
    (plugin.publish other records').Serves key binding (.ofRecords records) := by
  have hkept : (plugin.publish other records').binding? key = some binding :=
    (plugin.store.extends_publish other records').binding h.bound
  refine ⟨h.enabled, hkept, ?_⟩
  by_cases heq : key = other
  · subst heq
    have hserves := publish_serves h.enabled key records'
    obtain rfl : plugin.bindingOf key = binding :=
      Option.some.inj (hserves.bound.symm.trans hkept)
    rw [hserves.registryAt_eq, Except.ok.inj (hscan.symm.trans hscan')]
  · exact (Store.registryAt_publish_of_ne heq h.bound).trans h.registryAt_eq

theorem Accurate.publish (h : plugin.Accurate catalog) (hscan : catalog.scan key = .ok records) :
    (plugin.publish key records).Accurate catalog := by
  refine ⟨h.enabled, fun {other binding} hbound => ?_⟩
  by_cases heq : other = key
  · subst heq
    have hserves := publish_serves h.enabled other records
    obtain rfl : plugin.bindingOf other = binding :=
      Option.some.inj (hserves.bound.symm.trans hbound)
    exact ⟨records, hscan, hserves.registryAt_eq⟩
  · have hbefore : plugin.binding? other = some binding :=
      (Store.binding?_publish_of_ne heq).symm.trans hbound
    obtain ⟨found, hfound, hregistry⟩ := h.scan_of_bound hbefore
    exact ⟨found, hfound, (Store.registryAt_publish_of_ne heq hbefore).trans hregistry⟩

end SchemaVisibility.Plugin
