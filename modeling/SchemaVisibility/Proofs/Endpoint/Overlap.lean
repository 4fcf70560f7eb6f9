import Mathlib.Logic.Function.Basic
import SchemaVisibility.Proofs.Endpoint.Stage

/-! # Endpoints that share a plugin

Many operations are under way at once, at the endpoints of several schemas, and they share one
plugin (`Overlap.run`). None of them can tell.

The schemas do not change meanwhile, so every registry of the plugin is up to date; and what a task
holds, the rule of its view or a registry, stays that of its schema. Every step keeps this, and
every step keeps the outcome that a stage leads to, be it the task's own step (`Stage.LeadsTo.step`)
or that of another (`Stage.LeadsTo.step_other`). Alone or not, a task comes to the same outcome
(`Overlap.outcome_eq_alone`).
-/

namespace SchemaVisibility.Endpoint

variable {catalog : Catalog} {plugin : Plugin}

/-! ### The outcome that a stage leads to -/

/-- What becomes of a task once the binding of its schema is found or made, by the records of this
schema alone. -/
def Purpose.outcome (catalog : Catalog) (purpose : Purpose) :
    Except Fault (Option ExecutionResult) :=
  match catalog.scan purpose.schema.key with
  | .error error => .error (.scan error)
  | .ok records =>
    match purpose with
    | .registry _ => .ok none
    | .service operation | .rule operation | .redaction operation _ =>
      operation.answerWith (.ofRecords records)

/-- What becomes of a task. -/
def Task.outcome (catalog : Catalog) : Task → Except Fault (Option ExecutionResult)
  | .change schema | .sync schema => (Purpose.registry schema).outcome catalog
  | .serve operation =>
    if operation.params.query.truthy then (Purpose.service operation).outcome catalog
    else operation.answer ⟨operation.context, operation.params, engineOwn operation.own⟩

/-- The rule that the view has installed, if it has, is that of its schema. -/
def Purpose.Holds (plugin : Plugin) : Purpose → Prop
  | .redaction operation installed =>
    ∃ binding, plugin.binding? operation.schema.key = some binding ∧ binding.rule = installed
  | _ => True

/-- What is held once, is held on. -/
theorem Purpose.Holds.mono {plugin later : Plugin} {purpose : Purpose}
    (hextends : plugin.store.Extends later.store) (h : purpose.Holds plugin) :
    purpose.Holds later := by
  cases purpose with
  | redaction operation installed =>
    obtain ⟨binding, hbinding, hrule⟩ := h
    exact ⟨binding, hextends.binding hbinding, hrule⟩
  | registry | service | rule => trivial

/-- A stage leads to an outcome: what was found out on the way there agrees with the schema, and
what is still to be done comes to the outcome. -/
inductive Stage.LeadsTo (catalog : Catalog) (plugin : Plugin)
    (outcome : Except Fault (Option ExecutionResult)) : Stage → Prop where
  | lookup {purpose : Purpose} (hholds : purpose.Holds plugin)
      (houtcome : purpose.outcome catalog = outcome) :
      LeadsTo catalog plugin outcome (.lookup purpose)
  | scan {purpose : Purpose} (hholds : purpose.Holds plugin)
      (houtcome : purpose.outcome catalog = outcome) :
      LeadsTo catalog plugin outcome (.scan purpose)
  | publish {purpose : Purpose} {records : List Record} (hholds : purpose.Holds plugin)
      (hscan : catalog.scan purpose.schema.key = .ok records)
      (houtcome : purpose.outcome catalog = outcome) :
      LeadsTo catalog plugin outcome (.publish purpose records)
  | askBare {operation : Operation}
      (houtcome : operation.answer
        ⟨operation.context, operation.params, engineOwn operation.own⟩ = outcome) :
      LeadsTo catalog plugin outcome (.ask operation (ownRules operation.own) none)
  | ask {operation : Operation} {binding : Binding} {held : Option RegistryRef}
      {records : List Record} (hscan : catalog.scan operation.schema.key = .ok records)
      (hserves : plugin.Serves operation.schema.key binding (.ofRecords records))
      (hheld : held = some binding.registry ∨
        held = none ∧ Plugin.asksIntrospection operation.params.query = false)
      (houtcome : operation.answerWith (.ofRecords records) = outcome) :
      LeadsTo catalog plugin outcome
        (.ask operation (some (operation.rules binding.rule)) held)
  | redact {operation : Operation} {binding : Binding} {result : Option ExecutionResult}
      {records : List Record} (hscan : catalog.scan operation.schema.key = .ok records)
      (hserves : plugin.Serves operation.schema.key binding (.ofRecords records))
      (houtcome : operation.params.conceal (.ofRecords records) result = outcome) :
      LeadsTo catalog plugin outcome (.redact operation binding.registry result)
  | finished : LeadsTo catalog plugin outcome (.finished outcome)

variable {outcome : Except Fault (Option ExecutionResult)} {stage : Stage}

theorem Task.start_leadsTo (task : Task) :
    task.start.LeadsTo catalog plugin (task.outcome catalog) := by
  cases task with
  | change schema => exact .scan trivial rfl
  | sync schema => exact .lookup trivial rfl
  | serve operation =>
    rw [start, outcome]
    split
    · exact .lookup trivial rfl
    · exact .askBare rfl

theorem Purpose.goOn_leadsTo {purpose : Purpose} {binding : Binding} {records : List Record}
    (hscan : catalog.scan purpose.schema.key = .ok records)
    (hserves : plugin.Serves purpose.schema.key binding (.ofRecords records))
    (hholds : purpose.Holds plugin) :
    (purpose.goOn binding).LeadsTo catalog plugin (purpose.outcome catalog) := by
  cases purpose with
  | registry schema =>
    have houtcome : (Purpose.registry schema).outcome catalog = .ok none := by
      rw [outcome, hscan]
    rw [houtcome]
    exact .finished
  | service operation => exact .lookup trivial rfl
  | rule operation =>
    rw [goOn]
    split
    · exact .lookup ⟨binding, hserves.bound, rfl⟩ rfl
    · next hasks =>
      exact .ask hscan hserves (.inr ⟨rfl, by simpa using hasks⟩) (by rw [outcome, hscan])
  | redaction operation installed =>
    -- the view installed the rule of the very binding that is found now
    obtain ⟨found, hfound, rfl⟩ := hholds
    obtain rfl : binding = found := Option.some.inj (hserves.bound.symm.trans hfound)
    exact .ask hscan hserves (.inl rfl) (by rw [outcome, hscan])

namespace Stage.LeadsTo

/-- A step of the task keeps the outcome. -/
theorem step (haccurate : plugin.Accurate catalog) (h : stage.LeadsTo catalog plugin outcome) :
    (stage.step catalog plugin).1.LeadsTo catalog (stage.step catalog plugin).2 outcome := by
  cases h with
  | @lookup purpose hholds houtcome =>
    subst houtcome
    rw [Stage.step]
    split
    · next binding hbound =>
      obtain ⟨records, hscan, hserves⟩ := haccurate.serves hbound
      exact Purpose.goOn_leadsTo hscan hserves hholds
    · exact .scan hholds rfl
  | @scan purpose hholds houtcome =>
    subst houtcome
    cases hscan : catalog.scan purpose.schema.key with
    | error error =>
      have houtcome : purpose.outcome catalog = .error (.scan error) := by
        rw [Purpose.outcome, hscan]
      simp only [Stage.step, hscan, houtcome]
      exact .finished
    | ok records =>
      simp only [Stage.step, hscan]
      exact .publish hholds hscan rfl
  | @publish purpose records hholds hscan houtcome =>
    subst houtcome
    exact Purpose.goOn_leadsTo hscan
      (Plugin.publish_serves haccurate.enabled purpose.schema.key records)
      (hholds.mono (plugin.store.extends_publish purpose.schema.key records))
  | @askBare operation houtcome =>
    subst houtcome
    rw [Stage.step, Session.run, Session.rulesInForce, Operation.session, map_ownRules]
    exact .finished
  | @ask operation binding held records hscan hserves hheld houtcome =>
    subst houtcome
    rw [Operation.answerWith, Stage.step, Operation.run_session hserves]
    rcases hheld with rfl | ⟨rfl, hasks⟩
    · cases operation.answer (operation.callWith (.ofRecords records)) with
      | error fault => exact .finished
      | ok result => exact .redact hscan hserves rfl
    · rw [Operation.answered, Params.conceal_of_not_asks hasks, bind_pure]
      exact .finished
  | @redact operation binding result records hscan hserves houtcome =>
    subst houtcome
    rw [Params.conceal_eq_redacted, Stage.step, hserves.registryAt_eq]
    exact .finished
  | finished => exact .finished

/-- Publishing the records of a scan keeps the outcome of every task. -/
theorem publish_other {key : String} {records : List Record}
    (hpublished : catalog.scan key = .ok records) (h : stage.LeadsTo catalog plugin outcome) :
    stage.LeadsTo catalog (plugin.publish key records) outcome := by
  have hextends := plugin.store.extends_publish key records
  cases h with
  | lookup hholds houtcome => exact .lookup (hholds.mono hextends) houtcome
  | scan hholds houtcome => exact .scan (hholds.mono hextends) houtcome
  | publish hholds hscan houtcome => exact .publish (hholds.mono hextends) hscan houtcome
  | askBare houtcome => exact .askBare houtcome
  | ask hscan hserves hheld houtcome =>
    exact .ask hscan (hserves.publish hscan hpublished) hheld houtcome
  | redact hscan hserves houtcome =>
    exact .redact hscan (hserves.publish hscan hpublished) houtcome
  | finished => exact .finished

/-- All that a task does to the plugin is to publish the records of its schema. -/
theorem step_plugin (h : stage.LeadsTo catalog plugin outcome) :
    (stage.step catalog plugin).2 = plugin ∨
      ∃ key records, catalog.scan key = .ok records ∧
        (stage.step catalog plugin).2 = plugin.publish key records := by
  cases h with
  | @lookup purpose =>
    rw [Stage.step]
    split <;> exact .inl rfl
  | @scan purpose =>
    rw [Stage.step]
    split <;> exact .inl rfl
  | @publish purpose records _ hscan => exact .inr ⟨purpose.schema.key, records, hscan, rfl⟩
  | askBare => exact .inl rfl
  | ask => exact .inl rfl
  | redact => exact .inl rfl
  | finished => exact .inl rfl

/-- The plugin stays accurate. -/
theorem accurate_step (h : stage.LeadsTo catalog plugin outcome)
    (haccurate : plugin.Accurate catalog) : (stage.step catalog plugin).2.Accurate catalog := by
  rcases h.step_plugin with hplugin | ⟨key, records, hscan, hplugin⟩
  · rwa [hplugin]
  · rw [hplugin]
    exact haccurate.publish hscan

/-- A step of one task keeps the outcome of another. -/
theorem step_other {other : Stage} {expected : Except Fault (Option ExecutionResult)}
    (h : stage.LeadsTo catalog plugin outcome) (hother : other.LeadsTo catalog plugin expected) :
    other.LeadsTo catalog (stage.step catalog plugin).2 expected := by
  rcases h.step_plugin with hplugin | ⟨key, records, hscan, hplugin⟩
  · rwa [hplugin]
  · rw [hplugin]
    exact hother.publish_other hscan

/-- A finished task has this very outcome. -/
theorem eq_of_finished {reached : Except Fault (Option ExecutionResult)}
    (h : (Stage.finished reached).LeadsTo catalog plugin outcome) : reached = outcome := by
  cases h
  rfl

/-- A task that nobody interrupts keeps the outcome, and the plugin stays accurate. -/
theorem of_reaches {before after : Stage × Plugin} (h : Stage.Reaches catalog before after)
    (haccurate : before.2.Accurate catalog) (hleads : before.1.LeadsTo catalog before.2 outcome) :
    after.2.Accurate catalog ∧ after.1.LeadsTo catalog after.2 outcome := by
  induction h with
  | refl => exact ⟨haccurate, hleads⟩
  | tail _ hstep ih =>
    subst hstep
    obtain ⟨haccurate, hleads⟩ := ih
    exact ⟨hleads.accurate_step haccurate, hleads.step haccurate⟩

end Stage.LeadsTo

/-- The outcome of a call is determined by the schema. -/
theorem Task.call_outcome (haccurate : plugin.Accurate catalog) (task : Task) :
    (task.call catalog plugin).1 = task.outcome catalog :=
  (Stage.LeadsTo.of_reaches (task.reaches_call haccurate.enabled) haccurate
    task.start_leadsTo).2.eq_of_finished

/-! ### Tasks that overlap -/

/-- Tasks under way, by whatever tells them apart, and the plugin that they share. -/
structure Overlap (ι : Type) where
  plugin : Plugin
  stages : ι → Stage

namespace Overlap

variable {ι : Type} {tasks : ι → Task} {overlap : Overlap ι}

/-- All tasks at their beginning. -/
def start (plugin : Plugin) (tasks : ι → Task) : Overlap ι :=
  ⟨plugin, fun i => (tasks i).start⟩

/-- Every task is on its way to the outcome that its schema determines. -/
structure Sound (catalog : Catalog) (tasks : ι → Task) (overlap : Overlap ι) : Prop where
  accurate : overlap.plugin.Accurate catalog
  leads : ∀ i, (overlap.stages i).LeadsTo catalog overlap.plugin ((tasks i).outcome catalog)

theorem sound_start (haccurate : plugin.Accurate catalog) (tasks : ι → Task) :
    (start plugin tasks).Sound catalog tasks :=
  ⟨haccurate, fun i => (tasks i).start_leadsTo⟩

variable [DecidableEq ι]

/-- One of the tasks takes its next step. -/
def proceed (catalog : Catalog) (overlap : Overlap ι) (i : ι) : Overlap ι :=
  let after := (overlap.stages i).step catalog overlap.plugin
  ⟨after.2, Function.update overlap.stages i after.1⟩

/-- The tasks take their steps in the order of a schedule. -/
def run (catalog : Catalog) (overlap : Overlap ι) (schedule : List ι) : Overlap ι :=
  schedule.foldl (proceed catalog) overlap

theorem Sound.proceed (h : overlap.Sound catalog tasks) (i : ι) :
    (overlap.proceed catalog i).Sound catalog tasks := by
  refine ⟨(h.leads i).accurate_step h.accurate, fun j => ?_⟩
  by_cases hj : j = i
  · subst hj
    simpa only [Overlap.proceed, Function.update_self] using (h.leads j).step h.accurate
  · simpa only [Overlap.proceed, Function.update_of_ne hj] using (h.leads i).step_other (h.leads j)

theorem Sound.run (h : overlap.Sound catalog tasks) (schedule : List ι) :
    (overlap.run catalog schedule).Sound catalog tasks := by
  induction schedule generalizing overlap with
  | nil => exact h
  | cons i schedule ih => exact ih (h.proceed i)

/-- Nobody is held up by the others. -/
theorem remaining_run (overlap : Overlap ι) (schedule : List ι) (i : ι) :
    ((overlap.run catalog schedule).stages i).remaining ≤
      (overlap.stages i).remaining - schedule.count i := by
  induction schedule generalizing overlap with
  | nil => exact Nat.le_refl _
  | cons j schedule ih =>
    have hrest := ih (overlap.proceed catalog j)
    have hstep : ((overlap.stages i).step catalog overlap.plugin).1.remaining ≤ _ :=
      (overlap.stages i).remaining_step
    rw [run, List.foldl_cons]
    rw [run] at hrest
    by_cases hj : i = j
    · subst hj
      simp only [proceed, Function.update_self] at hrest ⊢
      rw [List.count_cons_self]
      omega
    · simp only [proceed, Function.update_of_ne hj] at hrest ⊢
      rw [List.count_cons_of_ne (Ne.symm hj)]
      exact hrest

/-- **Endpoints that share a plugin do not influence each other.** Any tasks at all share a plugin
that has served nothing yet: operations at the endpoints of any schemas of a catalog, some of which
may be impossible to scan, and between them calls that announce or serve these schemas. They take
their steps in any order.

What one of the tasks comes to, be it a result or a fault, is what it comes to as one call that has
a plugin of its own. And it comes to it: after `Task.maxSteps` steps of its own it is finished,
whatever the others did meanwhile. -/
theorem outcome_eq_alone (catalog : Catalog) (tasks : ι → Task) (schedule : List ι) (i : ι)
    {env env' : Settings.Environment} {config config' : Table Json}
    (hshared : (Plugin.create env config).1.enabled = true)
    (halone : (Plugin.create env' config').1.enabled = true) :
    let stage := ((start (Plugin.create env config).1 tasks).run catalog schedule).stages i
    let outcome := ((tasks i).call catalog (Plugin.create env' config').1).1
    (∀ reached, stage = .finished reached → reached = outcome) ∧
      (Task.maxSteps ≤ schedule.count i → stage = .finished outcome) := by
  intro stage outcome
  have hsound := (sound_start (Plugin.accurate_create hshared catalog) tasks).run schedule
  have houtcome : outcome = (tasks i).outcome catalog :=
    (tasks i).call_outcome (Plugin.accurate_create halone catalog)
  have hreached : ∀ reached, stage = .finished reached → reached = outcome := by
    intro reached hfinished
    have hleads : stage.LeadsTo catalog _ ((tasks i).outcome catalog) := hsound.leads i
    rw [hfinished] at hleads
    rw [houtcome, hleads.eq_of_finished]
  refine ⟨hreached, fun hcount => ?_⟩
  have hremaining : stage.remaining = 0 := by
    have hrun : stage.remaining ≤ (tasks i).start.remaining - schedule.count i :=
      remaining_run (start (Plugin.create env config).1 tasks) schedule i
    have hstart := (tasks i).remaining_start
    omega
  obtain ⟨reached, hfinished⟩ := Stage.finished_of_remaining hremaining
  rw [hfinished, hreached reached hfinished]

/-- An operation that asks for the fields of a type with a private one, one at a schema that cannot
be scanned, and a change of the first schema, each step in turn. -/
theorem outcome_eq_alone_of_broken_schema :
    ∃ (catalog : Catalog) (tasks : ℕ → Task) (schedule : List ℕ) (env : Settings.Environment)
      (config : Table Json) (result : ExecutionResult) (error : ScanError),
      (Plugin.create env config).1.enabled = true ∧
      Task.maxSteps ≤ schedule.count 0 ∧ Task.maxSteps ≤ schedule.count 1 ∧
      ((start (Plugin.create env config).1 tasks).run catalog schedule).stages 0 =
        .finished (.ok (some result)) ∧
      result.data = .obj [("__type", .obj [("fields", .arr [.obj [("name", .str "id")]])])] ∧
      ((start (Plugin.create env config).1 tasks).run catalog schedule).stages 1 =
        .finished (.error (.scan error)) := by
  let fields (names : List String) : Json :=
    .obj [("__type", .obj [("fields", .arr (names.map fun name => .obj [("name", .str name)]))])]
  let types := (Schema.ofDocument Session.userTypes).toOption.getD ⟨[], [], [], [], []⟩
  let catalog : Catalog := Catalog.addUnknownKind ⟨[("a", types), ("b", types)], [], []⟩ "b" "Odd"
  let text := "\x7b __type(name: \"User\") \x7b fields \x7b name \x7d \x7d \x7d"
  let request : Request := ⟨.post, ⟨defaultPath, []⟩, [], ⟨jsonType, []⟩, none, text⟩
  let operation (key : String) : Operation :=
    ⟨⟨key, none⟩, some ["depth"], ⟨request, [("query", .str text)], false⟩,
      ⟨.str text, .null, .null, .null⟩, fun _ => .ok (some ⟨fields ["id", "ssn"], []⟩)⟩
  let tasks : ℕ → Task
    | 0 => .serve (operation "a")
    | 1 => .serve (operation "b")
    | _ => .change ⟨"a", none⟩
  let schedule := (List.replicate 11 [0, 1, 2]).flatten
  let env : Settings.Environment := []
  let config : Table Json := [("enabled", .bool true)]
  have henabled : (Plugin.create env config).1.enabled = true := by decide
  have hserved : (((tasks 0).call catalog (Plugin.create env config).1).1.toOption.any fun result =>
      result.any fun result => decide (result.data = fields ["id"])) = true := by
    decide +kernel
  have hbroken : (catalog.scan "b").toOption = none := by decide +kernel
  have hturns : ∀ i ∈ [0, 1], Task.maxSteps ≤ schedule.count i := by decide
  have hfinished := fun i hi =>
    (outcome_eq_alone catalog tasks schedule i henabled henabled).2 (hturns i hi)
  rw [Option.any_eq_true] at hserved
  obtain ⟨result?, hresult?, hresult⟩ := hserved
  rw [Option.any_eq_true] at hresult
  obtain ⟨result, rfl, hdata⟩ := hresult
  rw [Fallible.toOption_eq_some] at hresult?
  rw [decide_eq_true_eq] at hdata
  obtain ⟨error, herror⟩ := Fallible.toOption_eq_none.mp hbroken
  refine ⟨catalog, tasks, schedule, env, config, result, error, henabled, hturns 0 (by decide),
    hturns 1 (by decide), ?_, hdata, ?_⟩
  · rw [hfinished 0 (by decide), hresult?]
  · have houtcome := (tasks 1).call_outcome (Plugin.accurate_create henabled catalog)
    rw [hfinished 1 (by decide), houtcome]
    change Stage.finished ((Purpose.service (operation "b")).outcome catalog) = _
    have hscan : catalog.scan (Purpose.service (operation "b")).schema.key = .error error := herror
    rw [Purpose.outcome, hscan]

end Overlap

end SchemaVisibility.Endpoint
