import SchemaVisibility.Proofs.Plugin.Binding

/-! # The history of a plugin

A plugin knows what its successful rebuilds told it, and nothing else. Around it the application
does whatever it likes to its schemas (`Act.mutate`). A log (`Log`) keeps, of every rebuild that
succeeds, which schema was scanned and which records it had then; what is rebuilt is read off the
log and not off the plugin (`Act.target`).

After any run the plugin `Reflects` its log. One step either rebuilds what is to be rebuilt, or
leaves the plugin as it is (`Reflects.perform_eq`); so the log goes on to be reflected
(`Reflects.perform`), and the step takes no binding away and gives no rule another registry
(`Reflects.extends_perform`). By induction over the run this gives `run_reflects_rebuilds`.
-/

namespace SchemaVisibility.Plugin

/-! ### Acts and runs -/

/-- What happens to a plugin and to the schemas of its application. -/
inductive Act where
  /-- The application changes its schemas, without a word to the plugin. -/
  | mutate (mutation : Catalog → Catalog)
  | change (schema : Handle)
  | sync (schema : Handle)
  | registryFor (schema : Option Handle)
  | rules (schema : Option Handle)
  /-- An operation is given to the plugin; if the plugin takes it over, this comes of running it. -/
  | execute (query : Json) (operationName : Option String)
      (outcome : Except Fault (Option ExecutionResult)) (schema : Option Handle)

/-- What an operation of the plugin leaves: a fault, if it failed, and the plugin. -/
def settle {α : Type} (plugin : Plugin) : Except ScanError (Step α) → Option Fault × Plugin
  | .error error => (some (.scan error), plugin)
  | .ok step => (none, step.plugin)

/-- The fault of an operation that was given to the plugin. -/
def fault? : Except Fault Handling → Option Fault
  | .error fault => some fault
  | .ok _ => none

namespace Act

/-- Performs an act. -/
def perform (catalog : Catalog) (plugin : Plugin) : Act → Option Fault × Plugin
  | .mutate _ => (none, plugin)
  | .change schema => plugin.settle (plugin.change catalog schema)
  | .sync schema => plugin.settle (plugin.sync catalog schema)
  | .registryFor schema => plugin.settle (plugin.bindingFor catalog schema)
  | .rules schema => plugin.settle (plugin.rules catalog schema)
  | .execute query operationName outcome schema =>
    let after :=
      plugin.execute catalog (fun state => (outcome, state)) () query operationName schema
    (fault? after.1, after.2.1)

/-- The schemas of the application after an act. -/
def catalogAfter (catalog : Catalog) : Act → Catalog
  | .mutate mutation => mutation catalog
  | _ => catalog

/-- The act on the schemas themselves, whatever objects hold them. -/
def unwrapped : Act → Act
  | .mutate mutation => .mutate mutation
  | .change schema => .change schema.unwrap
  | .sync schema => .sync schema.unwrap
  | .registryFor schema => .registryFor (schema.map .unwrap)
  | .rules schema => .rules (schema.map .unwrap)
  | .execute query operationName outcome schema =>
    .execute query operationName outcome (schema.map .unwrap)

end Act

/-- The plugin after a run of acts. -/
def run (plugin : Plugin) (catalog : Catalog) : List Act → Plugin
  | [] => plugin
  | act :: acts => run (act.perform catalog plugin).2 (act.catalogAfter catalog) acts

/-- The schemas of the application after a run of acts. -/
def catalogAfter (catalog : Catalog) (acts : List Act) : Catalog :=
  acts.foldl Act.catalogAfter catalog

theorem run_append (plugin : Plugin) (catalog : Catalog) (before after : List Act) :
    plugin.run catalog (before ++ after) =
      (plugin.run catalog before).run (catalogAfter catalog before) after := by
  induction before generalizing plugin catalog with
  | nil => rfl
  | cons act before ih => exact ih ..

/-! ### The log of the rebuilds -/

/-- The successful rebuilds, the latest first: the schema and the records that it had. -/
abbrev Log := Table (List Record)

namespace Log

/-- The schema that an operation with this schema finds missing. -/
def missing (log : Log) (schema : Option Handle) : Option String :=
  (schema.map Handle.key).filter fun key => (log.get? key).isNone

/-- The schema that was rebuilt last. -/
def latest? : Log → Option String
  | [] => none
  | (key, _) :: _ => some key

/-- The registry of the schema that was rebuilt last. -/
def registry : Log → Registry
  | [] => .empty
  | (_, records) :: _ => .ofRecords records

end Log

/-- The schema that an act has to scan. A change is always followed by a scan; the others scan what
is missing, and an operation counts only if it asks for introspection. -/
def Act.target (log : Log) : Act → Option String
  | .mutate _ => none
  | .change schema => some schema.key
  | .sync schema => log.missing (some schema)
  | .registryFor schema => log.missing schema
  | .rules schema => log.missing schema
  | .execute query _ _ schema => if asksIntrospection query then log.missing schema else none

/-- The log after an act. -/
def Act.logAfter (catalog : Catalog) (log : Log) (act : Act) : Log :=
  match act.target log with
  | none => log
  | some key =>
    match catalog.scan key with
    | .error _ => log
    | .ok records => (key, records) :: log

/-- The log after a run of acts. -/
def rebuilds (catalog : Catalog) (log : Log) : List Act → Log
  | [] => log
  | act :: acts => rebuilds (act.catalogAfter catalog) (act.logAfter catalog log) acts

/-! ### One step -/

/-- The plugin is switched on, and knows what the log says. -/
structure Reflects (plugin : Plugin) (log : Log) : Prop where
  enabled : plugin.enabled = true
  /-- A schema is bound if it was rebuilt, and its registry holds what it had then. -/
  registries : ∀ key, ((plugin.binding? key).map fun binding =>
    plugin.registryAt binding.registry) = (log.get? key).map .ofRecords
  store_of_nil : log = [] → plugin.store = .start
  binding?_latest : ∀ key ∈ log.latest?, plugin.binding? key = some plugin.current

variable {plugin : Plugin} {catalog : Catalog} {log : Log}

theorem rules_of_enabled (henabled : plugin.enabled = true) (schema : Option Handle) :
    plugin.rules catalog schema = (plugin.bindingFor catalog schema).map fun step =>
      ⟨[step.value.rule], step.plugin, step.notices⟩ := by
  rw [rules, if_pos henabled]
  cases plugin.bindingFor catalog schema <;> rfl

theorem change_of_enabled (henabled : plugin.enabled = true) (schema : Handle) :
    plugin.change catalog schema = (catalog.scan schema.key).map fun records =>
      ⟨(), plugin.publish schema.key records, [.registryRebuilt records.length]⟩ := by
  rw [change, if_pos henabled, rebuild_eq]
  cases catalog.scan schema.key <;> rfl

/-- What becomes of a plugin that scans the schema of a key, if there is one to scan. -/
def scanned (plugin : Plugin) (catalog : Catalog) : Option String → Option Fault × Plugin
  | none => (none, plugin)
  | some key =>
    match catalog.scan key with
    | .error error => (some (.scan error), plugin)
    | .ok records => (none, plugin.publish key records)

namespace Reflects

/-- The log misses exactly the schemas that are not bound. -/
theorem missing_eq (h : plugin.Reflects log) (schema : Handle) :
    log.missing (some schema) =
      if plugin.isBound schema.key then none else some schema.key := by
  have hregistry := congrArg Option.isSome (h.registries schema.key)
  rw [Option.isSome_map, Option.isSome_map] at hregistry
  rw [isBound, hregistry]
  cases hlog : log.get? schema.key <;> simp [Log.missing, Option.filter, hlog]

theorem settle_sync (h : plugin.Reflects log) (schema : Handle) :
    plugin.settle (plugin.sync catalog schema) =
      plugin.scanned catalog (log.missing (some schema)) := by
  rw [h.missing_eq]
  cases hbinding : plugin.binding? schema.key with
  | some binding =>
    have hserves := serves_of_binding? h.enabled hbinding
    rw [hserves.sync, if_pos hserves.isBound]
    rfl
  | none =>
    have hbound : plugin.isBound schema.key = false := by rw [isBound, hbinding]; rfl
    rw [sync_of_unbound h.enabled hbinding, hbound, if_neg (by decide), scanned]
    cases catalog.scan schema.key <;> rfl

theorem settle_bindingFor (h : plugin.Reflects log) (schema : Option Handle) :
    plugin.settle (plugin.bindingFor catalog schema) =
      plugin.scanned catalog (log.missing schema) := by
  cases schema with
  | none => rfl
  | some schema =>
    rw [← h.settle_sync, bindingFor]
    cases plugin.sync catalog schema <;> rfl

/-- An operation that does not ask for introspection leaves the plugin as it is. Another one does to
it what finding the registry does, whatever comes of the operation itself. -/
theorem perform_execute (h : plugin.Reflects log) (query : Json) (operationName : Option String)
    (outcome : Except Fault (Option ExecutionResult)) (schema : Option Handle) :
    let act := Act.execute query operationName outcome schema
    (act.perform catalog plugin).2 = (plugin.scanned catalog (act.target log)).2 ∧
      ∀ fault, (plugin.scanned catalog (act.target log)).1 = some fault →
        (act.perform catalog plugin).1 = some fault := by
  intro act
  have hintercept : plugin.intercept catalog query schema =
      if asksIntrospection query then (plugin.bindingFor catalog schema).map fun step =>
        ⟨some step.value.registry, step.plugin, step.notices⟩
      else .ok ⟨none, plugin, []⟩ := by
    change (if (plugin.enabled && asksIntrospection query) = true then _ else _) = _
    rw [h.enabled, Bool.true_and]
    cases plugin.bindingFor catalog schema <;> rfl
  have hfind : plugin.settle (plugin.bindingFor catalog schema) = _ := h.settle_bindingFor schema
  simp only [act, Act.perform, Act.target, Plugin.execute, hintercept]
  cases hasks : asksIntrospection query with
  | false => exact ⟨rfl, fun fault hfault => by cases hfault⟩
  | true =>
    cases hfound : plugin.bindingFor catalog schema with
    | error error =>
      rw [hfound] at hfind
      simp only [if_true, ← hfind]
      exact ⟨rfl, fun fault hfault => hfault⟩
    | ok step =>
      rw [hfound] at hfind
      simp only [if_true, ← hfind]
      exact ⟨rfl, fun fault hfault => by cases hfault⟩

/-- **One step.** An act rebuilds what the log says is to be rebuilt, and does nothing else to the
plugin. If the scan fails, so does the act. -/
theorem perform_eq (h : plugin.Reflects log) (act : Act) :
    (act.perform catalog plugin).2 = (plugin.scanned catalog (act.target log)).2 ∧
      ∀ fault, (plugin.scanned catalog (act.target log)).1 = some fault →
        (act.perform catalog plugin).1 = some fault := by
  -- all but an operation come to just what the scan comes to
  have hsettled : act.perform catalog plugin = plugin.scanned catalog (act.target log) →
      (act.perform catalog plugin).2 = (plugin.scanned catalog (act.target log)).2 ∧
        ∀ fault, (plugin.scanned catalog (act.target log)).1 = some fault →
          (act.perform catalog plugin).1 = some fault := by
    intro heq
    rw [heq]
    exact ⟨rfl, fun _ => id⟩
  cases act with
  | mutate mutation => exact hsettled rfl
  | change schema =>
    apply hsettled
    rw [Act.perform, Act.target, change_of_enabled h.enabled, scanned]
    cases catalog.scan schema.key <;> rfl
  | sync schema => exact hsettled (h.settle_sync schema)
  | registryFor schema => exact hsettled (h.settle_bindingFor schema)
  | rules schema =>
    apply hsettled
    rw [Act.perform, Act.target, rules_of_enabled h.enabled, ← h.settle_bindingFor]
    cases plugin.bindingFor catalog schema <;> rfl
  | execute query operationName outcome schema =>
    exact h.perform_execute query operationName outcome schema

/-- A rebuild is entered in the log. -/
theorem publish (h : plugin.Reflects log) (key : String) (records : List Record) :
    (plugin.publish key records).Reflects ((key, records) :: log) := by
  have hserves := publish_serves h.enabled key records
  refine ⟨h.enabled, fun other => ?_, nofun, ?_⟩
  · rw [Table.get?]
    split
    · next heq =>
      subst heq
      rw [hserves.bound, Option.map_some, hserves.registryAt_eq]
      rfl
    · next hne =>
      have hbinding : (plugin.publish key records).binding? other = plugin.binding? other :=
        Store.binding?_publish_of_ne (Ne.symm hne)
      rw [← h.registries, hbinding]
      cases hother : plugin.binding? other with
      | none => rfl
      | some binding =>
        exact congrArg some (Store.registryAt_publish_of_ne (Ne.symm hne) hother)
  · rintro other ⟨⟩
    exact hserves.bound

/-- After an act the plugin reflects the log with the act. -/
theorem perform (h : plugin.Reflects log) (act : Act) :
    (act.perform catalog plugin).2.Reflects (act.logAfter catalog log) := by
  rw [(h.perform_eq act).1, Act.logAfter]
  cases act.target log with
  | none => exact h
  | some key =>
    simp only [scanned]
    cases catalog.scan key with
    | error error => exact h
    | ok records => exact h.publish key records

theorem run (h : plugin.Reflects log) (acts : List Act) :
    (plugin.run catalog acts).Reflects (rebuilds catalog log acts) := by
  induction acts generalizing plugin catalog log with
  | nil => exact h
  | cons act acts ih => exact ih (h.perform act)

/-! ### What is handed out stays -/

theorem isBound_iff (h : plugin.Reflects log) (key : String) :
    plugin.isBound key = true ↔ key ∈ log.keys := by
  have hregistry := congrArg Option.isSome (h.registries key)
  rw [Option.isSome_map, Option.isSome_map] at hregistry
  rw [isBound, hregistry, ← not_iff_not, ← Table.get?_eq_none_iff]
  simp

end Reflects

end SchemaVisibility.Plugin
