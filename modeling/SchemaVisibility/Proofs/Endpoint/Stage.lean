import Mathlib.Logic.Relation
import SchemaVisibility.Proofs.Endpoint.Operation

/-! # The stages of a task

What is asked of a plugin is a task (`Task`): a schema is said to have changed, or is to be served,
or an operation is to be answered by the endpoint of a schema. The plugin guards its bindings by a
lock. Looking a binding up is one step, and so is publishing the records of a scan; the scan itself,
the engine and the redaction run outside of the lock. So a task goes through stages (`Stage`), and
between two of its steps (`Stage.step`) other tasks may take theirs. Meanwhile it holds what it has
found: the rule that the view installed, and the registry by which a result is redacted.

A task that nobody interrupts is one call of the plugin, or one `Session.execute`
(`Task.reaches_call`). No task takes more than `Task.maxSteps` steps, whoever interrupts it
(`Stage.remaining_step`).
-/

namespace SchemaVisibility.Endpoint

/-! ### Tasks and their stages -/

/-- An operation that is sent to the endpoint of a schema, which may have rules of its own, and what
the engine makes of it. -/
structure Operation where
  schema : Handle
  own : Option (List String)
  context : Context
  params : Params
  answer : Call → Except Fault (Option ExecutionResult)

/-- What is asked of a shared plugin. -/
inductive Task where
  /-- A schema is said to have changed. -/
  | change (schema : Handle)
  /-- A schema is to be served from now on. -/
  | sync (schema : Handle)
  /-- An operation is to be answered. -/
  | serve (operation : Operation)

/-- What the binding of a schema is looked up for. -/
inductive Purpose where
  /-- Nothing but that there is one. -/
  | registry (schema : Handle)
  /-- The view makes sure that the schema of an operation is served. -/
  | service (operation : Operation)
  /-- The view is to install its rule. -/
  | rule (operation : Operation)
  /-- The view has installed a rule; the plugin takes the operation over and will redact its
  result. -/
  | redaction (operation : Operation) (installed : RuleRef)

/-- How far a task has come, which is what it does next. -/
inductive Stage where
  | lookup (purpose : Purpose)
  | scan (purpose : Purpose)
  | publish (purpose : Purpose) (records : List Record)
  /-- The engine is asked under these rules. Its result is redacted with a registry, if the plugin
  took the operation over. -/
  | ask (operation : Operation) (rules : Option (List ViewRule)) (registry : Option RegistryRef)
  | redact (operation : Operation) (registry : RegistryRef) (result : Option ExecutionResult)
  | finished (outcome : Except Fault (Option ExecutionResult))

namespace Operation

/-- The rules of a view that has answered nothing before it and has installed an access rule. -/
def rules (operation : Operation) (rule : RuleRef) : List ViewRule :=
  baseRules (ownRules operation.own) ++ [.access rule]

/-- A view at work on an operation. -/
def session (operation : Operation) (plugin : Plugin) (rules : Option (List ViewRule)) :
    Session Unit :=
  ⟨⟨operation.schema, rules⟩, plugin, (), []⟩

/-- A view that has answered nothing before the operation. -/
def fresh (operation : Operation) (plugin : Plugin) : Session Unit :=
  operation.session plugin (ownRules operation.own)

/-- The engine, as far as the operation is concerned. -/
def engine (operation : Operation) : Engine Unit :=
  fun call state => (operation.answer call, state)

end Operation

/-- The schema whose binding is looked up. -/
def Purpose.schema : Purpose → Handle
  | .registry schema => schema
  | .service operation | .rule operation | .redaction operation _ => operation.schema

/-- Where a task goes on with the binding of the schema. -/
def Purpose.goOn (binding : Binding) : Purpose → Stage
  | .registry _ => .finished (.ok none)
  | .service operation => .lookup (.rule operation)
  | .rule operation =>
    if Plugin.asksIntrospection operation.params.query then
      .lookup (.redaction operation binding.rule)
    else .ask operation (some (operation.rules binding.rule)) none
  | .redaction operation installed =>
    .ask operation (some (operation.rules installed)) (some binding.registry)

/-- Where an operation goes on once the engine was asked. Only a result is redacted. -/
def Operation.answered (operation : Operation) :
    Option RegistryRef → Except Fault (Option ExecutionResult) → Stage
  | some registry, .ok result => .redact operation registry result
  | some _, .error fault => .finished (.error fault)
  | none, outcome => .finished outcome

/-- One step of a task: its next stage, and the plugin that it leaves. -/
def Stage.step (catalog : Catalog) (plugin : Plugin) : Stage → Stage × Plugin
  | .lookup purpose =>
    match plugin.binding? purpose.schema.key with
    | some binding => (purpose.goOn binding, plugin)
    | none => (.scan purpose, plugin)
  | .scan purpose =>
    match catalog.scan purpose.schema.key with
    | .error error => (.finished (.error (.scan error)), plugin)
    | .ok records => (.publish purpose records, plugin)
  | .publish purpose records =>
    (purpose.goOn (plugin.bindingOf purpose.schema.key),
      plugin.publish purpose.schema.key records)
  | .ask operation rules registry =>
    (operation.answered registry ((operation.session plugin rules).run operation.engine
      operation.context operation.params).1, plugin)
  | .redact operation registry result =>
    (.finished ((Plugin.redacted (plugin.registryAt registry) operation.params.query
      operation.params.operation? result).mapError .redaction), plugin)
  | .finished outcome => (.finished outcome, plugin)

/-- Where a task begins, with a plugin that is switched on. Without a query the engine is asked at
once. -/
def Task.start : Task → Stage
  | .change schema => .scan (.registry schema)
  | .sync schema => .lookup (.registry schema)
  | .serve operation =>
    if operation.params.query.truthy then .lookup (.service operation)
    else .ask operation (ownRules operation.own) none

/-- A task as one call: its outcome, and the plugin that it leaves. -/
def Task.call (catalog : Catalog) (plugin : Plugin) :
    Task → Except Fault (Option ExecutionResult) × Plugin
  | .change schema =>
    match plugin.change catalog schema with
    | .error error => (.error (.scan error), plugin)
    | .ok step => (.ok none, step.plugin)
  | .sync schema =>
    match plugin.sync catalog schema with
    | .error error => (.error (.scan error), plugin)
    | .ok step => (.ok none, step.plugin)
  | .serve operation =>
    let answered := (operation.fresh plugin).execute operation.engine catalog operation.context
      operation.params
    (answered.1, answered.2.plugin)

namespace Operation

/-- What the engine is asked to do under the rule that reads a registry. -/
def callWith (operation : Operation) (registry : Registry) : Call :=
  ⟨operation.context, operation.params, some (engineBase operation.own ++ [.access registry])⟩

/-- The answer to an operation with a query, under the rule that reads a registry. -/
def answerWith (operation : Operation) (registry : Registry) :
    Except Fault (Option ExecutionResult) :=
  operation.answer (operation.callWith registry) >>= operation.params.conceal registry

variable {operation : Operation} {plugin : Plugin} {binding : Binding} {registry : Registry}

theorem run_session (hserves : plugin.Serves operation.schema.key binding registry) :
    ((operation.session plugin (some (operation.rules binding.rule))).run operation.engine
      operation.context operation.params).1 = operation.answer (operation.callWith registry) := by
  have hrules : (operation.session plugin (some (operation.rules binding.rule))).rulesInForce =
      some (engineBase operation.own ++ [.access registry]) := by
    rw [Session.rulesInForce, session, rules, Option.map_some, List.map_append, map_baseRules,
      List.map_singleton, ViewRule.inForce, hserves.readBy]
  rw [Session.run, hrules]
  rfl

end Operation

/-! ### A task that nobody interrupts -/

variable {catalog : Catalog} {plugin : Plugin}

/-- One stage leads to another, if nobody else takes a step meanwhile. -/
abbrev Stage.Reaches (catalog : Catalog) : Stage × Plugin → Stage × Plugin → Prop :=
  Relation.ReflTransGen fun before after => before.1.step catalog before.2 = after

namespace Stage.Reaches

/-- A scan and what follows from it are a rebuild. -/
theorem scan (purpose : Purpose) :
    Reaches catalog (.scan purpose, plugin)
      (match plugin.rebuild catalog purpose.schema.key with
        | .error error => (.finished (.error (.scan error)), plugin)
        | .ok step => (purpose.goOn step.value, step.plugin)) := by
  rw [Plugin.rebuild_eq]
  cases hscan : catalog.scan purpose.schema.key with
  | error error => exact .single (by simp only [Stage.step, hscan]; rfl)
  | ok records =>
    have hpublish : Reaches catalog (.scan purpose, plugin) (.publish purpose records, plugin) :=
      .single (by simp only [Stage.step, hscan])
    exact hpublish.tail rfl

/-- A schema that is served is found at once. -/
theorem lookup_of_serves {purpose : Purpose} {binding : Binding} {registry : Registry}
    (hserves : plugin.Serves purpose.schema.key binding registry) :
    Reaches catalog (.lookup purpose, plugin) (purpose.goOn binding, plugin) :=
  .single (by simp only [Stage.step, hserves.bound])

/-- A lookup and what follows from it serve the schema. -/
theorem lookup (henabled : plugin.enabled = true) (purpose : Purpose) :
    Reaches catalog (.lookup purpose, plugin)
      (match plugin.sync catalog purpose.schema with
        | .error error => (.finished (.error (.scan error)), plugin)
        | .ok step => (purpose.goOn (step.value.getD plugin.current), step.plugin)) := by
  cases hbound : plugin.binding? purpose.schema.key with
  | some binding =>
    have hserves := Plugin.serves_of_binding? henabled hbound
    rw [hserves.sync]
    exact lookup_of_serves hserves
  | none =>
    have hstep : (Stage.lookup purpose).step catalog plugin = (.scan purpose, plugin) := by
      simp only [Stage.step, hbound]
    have hscan : Reaches catalog (.scan purpose, plugin) _ := scan purpose
    rw [Plugin.sync_of_unbound henabled hbound]
    rw [Plugin.rebuild_eq] at hscan
    cases hrecords : catalog.scan purpose.schema.key with
    | error error =>
      rw [hrecords] at hscan
      exact .head hstep hscan
    | ok records =>
      rw [hrecords] at hscan
      exact .head hstep hscan

variable {binding : Binding} {registry : Registry}

/-- Redacted or not, the engine's result comes to the answer to the operation. -/
theorem ask {operation : Operation}
    (hserves : plugin.Serves operation.schema.key binding registry) {held : Option RegistryRef}
    (hheld : held = some binding.registry ∨
      held = none ∧ Plugin.asksIntrospection operation.params.query = false) :
    Reaches catalog (.ask operation (some (operation.rules binding.rule)) held, plugin)
      (.finished (operation.answerWith registry), plugin) := by
  rw [Operation.answerWith]
  have hrun := Operation.run_session hserves
  cases hanswer : operation.answer (operation.callWith registry) with
  | error fault =>
    rw [hanswer] at hrun
    refine .single ?_
    rw [Stage.step, hrun]
    rcases hheld with rfl | ⟨rfl, -⟩ <;> rfl
  | ok result =>
    rw [hanswer] at hrun
    rcases hheld with rfl | ⟨rfl, hasks⟩
    · have hask : Reaches catalog
          (.ask operation (some (operation.rules binding.rule)) (some binding.registry), plugin)
          (.redact operation binding.registry result, plugin) :=
        .single (by rw [Stage.step, hrun, Operation.answered])
      refine hask.tail ?_
      simp only [Stage.step, hserves.registryAt_eq, Fallible.ok_bind, Params.conceal_eq_redacted]
    · rw [Params.conceal_of_not_asks hasks]
      exact .single (by rw [Stage.step, hrun, Operation.answered]; rfl)

/-- Whether the plugin takes the operation over or not, the engine is asked. -/
theorem answer {operation : Operation}
    (hserves : plugin.Serves operation.schema.key binding registry) :
    Reaches catalog ((Purpose.rule operation).goOn binding, plugin)
      (.finished (operation.answerWith registry), plugin) := by
  rw [Purpose.goOn]
  split
  · have hlookup : Reaches catalog (.lookup (.redaction operation binding.rule), plugin)
        (.ask operation (some (operation.rules binding.rule)) (some binding.registry), plugin) :=
      lookup_of_serves hserves
    exact hlookup.trans (ask hserves (.inl rfl))
  · next hasks => exact ask hserves (.inr ⟨rfl, by simpa using hasks⟩)

end Stage.Reaches

namespace Operation

variable {operation : Operation}

/-- Without a query the engine is asked at once. -/
theorem execute_of_not_truthy (hquery : operation.params.query.truthy = false) :
    (operation.fresh plugin).execute operation.engine catalog operation.context operation.params =
      (operation.fresh plugin).run operation.engine operation.context operation.params := by
  rw [Session.execute, hquery]
  rfl

/-- Once the schema is served, the access rule is installed and the operation answered. -/
theorem execute_of_sync {step : Step (Option Binding)} {binding : Binding} {registry : Registry}
    (henabled : plugin.enabled = true) (hquery : operation.params.query.truthy = true)
    (hsync : plugin.sync catalog operation.schema = .ok step)
    (hserves : step.plugin.Serves operation.schema.key binding registry) :
    ((operation.fresh plugin).execute operation.engine catalog operation.context
        operation.params).1 = operation.answerWith registry ∧
      ((operation.fresh plugin).execute operation.engine catalog operation.context
        operation.params).2.plugin = step.plugin := by
  have hrun : (((operation.fresh plugin).served step binding).run operation.engine
      operation.context operation.params).1 = operation.answer (operation.callWith registry) :=
    run_session hserves
  rw [Session.execute_of_sync operation.engine operation.context henabled hquery hsync hserves,
    hrun]
  exact ⟨rfl, rfl⟩

end Operation

/-- **A task that nobody interrupts is one call**: it comes to the outcome of the call and leaves
the plugin as the call does. -/
theorem Task.reaches_call (henabled : plugin.enabled = true) (task : Task) :
    Stage.Reaches catalog (task.start, plugin)
      (.finished (task.call catalog plugin).1, (task.call catalog plugin).2) := by
  cases task with
  | change schema =>
    have h : Stage.Reaches catalog (.scan (.registry schema), plugin) _ := .scan (.registry schema)
    have hchange : plugin.change catalog schema =
        (plugin.rebuild catalog schema.key).map fun step => ⟨(), step.plugin, step.notices⟩ := by
      rw [Plugin.change, if_pos henabled]
      cases plugin.rebuild catalog schema.key <;> rfl
    rw [Purpose.schema] at h
    simp only [Task.call, hchange]
    cases hrebuild : plugin.rebuild catalog schema.key <;> rw [hrebuild] at h <;> exact h
  | sync schema =>
    have h : Stage.Reaches catalog (.lookup (.registry schema), plugin) _ :=
      .lookup henabled (.registry schema)
    rw [Purpose.schema] at h
    simp only [Task.call]
    cases hsync : plugin.sync catalog schema <;> rw [hsync] at h <;> exact h
  | serve operation =>
    cases hquery : operation.params.query.truthy with
    | false =>
      have hstart : (Task.serve operation).start =
          .ask operation (ownRules operation.own) none := by
        simp only [start, hquery, Bool.false_eq_true, if_false]
      rw [hstart, call, Operation.execute_of_not_truthy hquery]
      exact .single rfl
    | true =>
      have hstart : (Task.serve operation).start = .lookup (.service operation) := by
        rw [start, if_pos hquery]
      have h : Stage.Reaches catalog (.lookup (.service operation), plugin) _ :=
        .lookup henabled (.service operation)
      rw [Purpose.schema] at h
      rw [hstart, call]
      cases hsync : plugin.sync catalog operation.schema with
      | error error =>
        rw [hsync] at h
        rw [Session.execute_of_sync_error operation.engine operation.context henabled hquery hsync]
        exact h
      | ok step =>
        rw [hsync] at h
        obtain ⟨binding, registry, -, hserves⟩ := Plugin.serves_of_sync henabled hsync
        obtain ⟨houtcome, hplugin⟩ := Operation.execute_of_sync henabled hquery hsync hserves
        have hrule : Stage.Reaches catalog (.lookup (.rule operation), step.plugin)
            ((Purpose.rule operation).goOn binding, step.plugin) := .lookup_of_serves hserves
        rw [houtcome, hplugin]
        exact (h.trans hrule).trans (Stage.Reaches.answer hserves)

/-! ### How many steps a task takes -/

/-- How many steps a task takes at most once the binding is found. A lookup that is still to come
may take three of them. -/
def Purpose.remaining : Purpose → ℕ
  | .registry _ => 0
  | .service _ => 8
  | .rule _ => 5
  | .redaction _ _ => 2

/-- How many steps a task takes at most from a stage on. -/
def Stage.remaining : Stage → ℕ
  | .lookup purpose => purpose.remaining + 3
  | .scan purpose => purpose.remaining + 2
  | .publish purpose _ => purpose.remaining + 1
  | .ask _ _ _ => 2
  | .redact _ _ _ => 1
  | .finished _ => 0

/-- How many steps any task takes at most. -/
def Task.maxSteps : ℕ := 11

theorem Purpose.remaining_goOn (purpose : Purpose) (binding : Binding) :
    (purpose.goOn binding).remaining ≤ purpose.remaining := by
  cases purpose with
  | registry schema => exact Nat.le_refl _
  | service operation => exact Nat.le_refl _
  | rule operation =>
    rw [goOn]
    split
    · exact Nat.le_refl _
    · change 2 ≤ 5
      decide
  | redaction operation installed => exact Nat.le_refl _

theorem Task.remaining_start (task : Task) : task.start.remaining ≤ maxSteps := by
  cases task with
  | change schema => change 2 ≤ 11; decide
  | sync schema => change 3 ≤ 11; decide
  | serve operation =>
    rw [start]
    split
    · exact Nat.le_refl _
    · change 2 ≤ 11
      decide

/-- A step brings a task nearer to its end. -/
theorem Stage.remaining_step (stage : Stage) :
    (stage.step catalog plugin).1.remaining ≤ stage.remaining - 1 := by
  cases stage with
  | lookup purpose =>
    rw [step]
    split
    · next binding _ =>
      exact Nat.le_trans (purpose.remaining_goOn binding) (Nat.le_add_right _ 2)
    · simp only [remaining]
      omega
  | scan purpose =>
    rw [step]
    split <;> simp only [remaining] <;> omega
  | publish purpose records => exact purpose.remaining_goOn _
  | ask operation rules registry =>
    change (operation.answered registry _).remaining ≤ 1
    rw [Operation.answered.eq_def]
    split <;> simp only [remaining] <;> decide
  | redact operation registry result => exact Nat.le_refl _
  | finished outcome => exact Nat.le_refl _

theorem Stage.finished_of_remaining {stage : Stage} (h : stage.remaining = 0) :
    ∃ outcome, stage = .finished outcome := by
  cases stage with
  | finished outcome => exact ⟨outcome, rfl⟩
  | lookup purpose | scan purpose | publish purpose records =>
    simp only [remaining] at h
    omega
  | ask operation rules registry | redact operation registry result => cases h

end SchemaVisibility.Endpoint
