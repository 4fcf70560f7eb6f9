import SchemaVisibility.Proofs.Endpoint.Batch
import SchemaVisibility.Proofs.Plugin.History

/-! # A plugin that is switched off

An application with a plugin is compared with the same application without one. `World` is the
first: it has schemas, a view with its plugin, and an engine. `Bare` is the second: its view hands
every operation to the engine and asks for no rules but those of its endpoint. The same things
happen to both (`Happening`): schemas change, views are set up, requests and batches are answered,
and somebody calls the plugin.

If the plugin is switched off, one happening comes to the same in both and leaves the plugin as it
was (`perform_under`), and so does a whole run (`run_under`). The bare application looks at no
schema by itself and asks its engine under the rules of its endpoint (`Bare.run_keeps`). So with the
plugin nothing is scanned either, and a schema that cannot be scanned makes no difference
(`run_of_disabled`).
-/

namespace SchemaVisibility

/-! ### Calls of the plugin -/

namespace Plugin

/-- What a call of the plugin hands out. -/
inductive Offer where
  | nothing
  /-- The binding of a schema, if there is one. -/
  | binding (binding : Option Binding)
  /-- A registry, with what it holds. -/
  | registry (registry : RegistryRef) (holds : Registry)
  | rules (rules : List RuleRef)
  /-- What became of an operation, and how often the plugin ran it. -/
  | handling (handling : Handling) (runs : ℕ)

/-- What a step of the plugin hands out, the plugin after it and what was reported; a failure leaves
the plugin as it was. -/
def offered {α : Type} (plugin : Plugin) (offer : Step α → Offer) :
    Except ScanError (Step α) → Except Fault Offer × Plugin × List Notice
  | .error error => (.error (.scan error), plugin, [])
  | .ok step => (.ok (offer step), step.plugin, step.notices)

/-- What an act makes the plugin hand out, the plugin after it and what was reported. -/
def Act.call (catalog : Catalog) (plugin : Plugin) :
    Act → Except Fault Offer × Plugin × List Notice
  | .mutate _ => (.ok .nothing, plugin, [])
  | .change schema => plugin.offered (fun _ => .nothing) (plugin.change catalog schema)
  | .sync schema => plugin.offered (fun step => .binding step.value) (plugin.sync catalog schema)
  | .registryFor schema =>
    plugin.offered (fun step => .registry step.value.registry
      (step.plugin.registryAt step.value.registry)) (plugin.bindingFor catalog schema)
  | .rules schema => plugin.offered (fun step => .rules step.value) (plugin.rules catalog schema)
  | .execute query operationName outcome schema =>
    let (handling, plugin, notices, runs) :=
      plugin.execute catalog (fun runs => (outcome, runs + 1)) 0 query operationName schema
    (handling.map fun handling => .handling handling runs, plugin, notices)

/-- What is handed out where nothing is done: no binding, no rule, the registry that there is
anyway, and operations are passed on without being run. -/
def Act.idleOffer (registry : RegistryRef) (holds : Registry) : Act → Offer
  | .mutate _ | .change _ => .nothing
  | .sync _ => .binding none
  | .registryFor _ => .registry registry holds
  | .rules _ => .rules []
  | .execute .. => .handling .passed 0

variable {plugin : Plugin} {catalog : Catalog}

/-! What the operations of a plugin do that is switched off. -/

theorem change_of_disabled (h : plugin.enabled = false) (schema : Handle) :
    plugin.change catalog schema = .ok ⟨(), plugin, []⟩ := by
  rw [change, if_neg (ne_true_of_eq_false h)]
  rfl

theorem sync_of_disabled (h : plugin.enabled = false) (schema : Handle) :
    plugin.sync catalog schema = .ok ⟨none, plugin, []⟩ := by
  rw [sync, if_neg (ne_true_of_eq_false h)]
  rfl

theorem bindingFor_of_disabled (h : plugin.enabled = false) (schema : Option Handle) :
    plugin.bindingFor catalog schema = .ok ⟨plugin.current, plugin, []⟩ := by
  cases schema with
  | none => rfl
  | some schema =>
    rw [bindingFor, sync_of_disabled h]
    rfl

theorem rules_of_disabled (h : plugin.enabled = false) (schema : Option Handle) :
    plugin.rules catalog schema = .ok ⟨[], plugin, []⟩ := by
  rw [rules, if_neg (ne_true_of_eq_false h)]
  rfl

/-- An operation is passed on and not run, whatever it asks for. -/
theorem execute_of_disabled {σ : Type} (h : plugin.enabled = false)
    (run : σ → Except Fault (Option ExecutionResult) × σ) (state : σ) (query : Json)
    (operationName : Option String) (schema : Option Handle) :
    plugin.execute catalog run state query operationName schema =
      (.ok .passed, plugin, [], state) := by
  have hintercept : plugin.intercept catalog query schema = .ok ⟨none, plugin, []⟩ := by
    change (if (plugin.enabled && asksIntrospection query) = true then _ else _) = _
    rw [h, Bool.false_and]
    rfl
  rw [execute, hintercept]

/-- **A call of a plugin that is switched off hands out nothing new** and leaves the plugin as it
was. -/
theorem call_of_disabled (h : plugin.enabled = false) (catalog : Catalog) (act : Act) :
    act.call catalog plugin =
      (.ok (act.idleOffer plugin.current.registry plugin.registry), plugin, []) := by
  cases act with
  | mutate mutation => rfl
  | change schema => rw [Act.call, change_of_disabled h]; rfl
  | sync schema => rw [Act.call, sync_of_disabled h]; rfl
  | registryFor schema => rw [Act.call, bindingFor_of_disabled h]; rfl
  | rules schema => rw [Act.call, rules_of_disabled h]; rfl
  | execute query operationName outcome schema => rw [Act.call, execute_of_disabled h]; rfl

end Plugin

namespace Endpoint

variable {σ : Type}

/-! ### Applications -/

/-- The engines of an application: a view runs that of its schema as the schema stands. -/
abbrev Engines (σ : Type) := Catalog → Handle → Engine σ

/-- What happens to an application. -/
inductive Happening where
  /-- Its schemas change, or its plugin is called. -/
  | act (act : Plugin.Act)
  /-- A view is set up in place of the one that there was; its endpoint may have rules of its
  own. -/
  | view (schema : Handle) (own : Option (List String))
  | request (request : Request)
  | batch (request : Request)

/-- What comes of a happening. -/
inductive Outcome where
  | silent
  | offered (offer : Except Fault Plugin.Offer)
  | replied (reply : Except Fault Reply)

/-- An application with a plugin. -/
structure World (σ : Type) where
  catalog : Catalog
  session : Session σ

namespace World

/-- One happening. -/
def perform (engines : Engines σ) (world : World σ) : Happening → Outcome × World σ
  | .act act =>
    let (offer, plugin, notices) := act.call world.catalog world.session.plugin
    (.offered offer, ⟨act.catalogAfter world.catalog,
      { world.session with plugin, notices := world.session.notices ++ notices }⟩)
  | .view schema own =>
    (.silent, { world with session := { world.session with view := .fresh schema own } })
  | .request request =>
    let (reply, session) := world.session.serve
      (engines world.catalog world.session.view.schema) world.catalog request
    (.replied reply, { world with session })
  | .batch request =>
    let (reply, session) := world.session.serveBatch
      (engines world.catalog world.session.view.schema) world.catalog request
    (.replied reply, { world with session })

/-- One happening after the other. -/
def run (engines : Engines σ) : World σ → List Happening → List Outcome × World σ
  | world, [] => ([], world)
  | world, happening :: rest =>
    let (outcome, world) := world.perform engines happening
    let (outcomes, world) := run engines world rest
    (outcome :: outcomes, world)

end World

/-! ### Applications without a plugin -/

/-- An application without a plugin. -/
structure Bare (σ : Type) where
  catalog : Catalog
  /-- The schema of its view. -/
  schema : Handle
  /-- The rules of its endpoint, if it has rules of its own. -/
  own : Option (List String)
  engine : σ

namespace Bare

/-- The operation of an entry is read, and the engine runs it under the rules of the endpoint. -/
def answer (engine : Engine σ) (own : Option (List String)) (request : Request) (state : σ)
    (entry : Table Json) : Except Fault (Params × Option ExecutionResult) × σ :=
  match request.params entry with
  | .error error => (.error error.fault, state)
  | .ok params =>
    let (outcome, state) := engine ⟨⟨request, entry, false⟩, params, engineOwn own⟩ state
    (outcome.map fun result => (params, result), state)

/-- Answers a request with one operation. -/
def serve (engine : Engine σ) (own : Option (List String)) (request : Request) (state : σ) :
    Except Fault Reply × σ :=
  match request.entry with
  | .error error => (Session.refuse (.error error.fault), state)
  | .ok entry =>
    let (outcome, state) := answer engine own request state entry
    let reply := outcome.map fun (_, result) =>
      match result with
      | some result => ⟨.obj (responseOf result), statusOf result⟩
      | none => ⟨.null, 200⟩
    (Session.refuse reply, state)

/-- Answers the entries of a batch one after the other, up to the first fault. -/
def answerAll (engine : Engine σ) (own : Option (List String)) (request : Request) (state : σ) :
    List Json → Except Fault (List Reply) × σ
  | [] => (.ok [], state)
  | .obj entry :: rest =>
    match answer engine own request state entry with
    | (.error fault, state) => (.error fault, state)
    | (.ok (params, result), state) =>
      let (outcome, state) := answerAll engine own request state rest
      (outcome.map fun replies => Session.batchReply params result :: replies, state)
  | _ :: _ => (.error .malformedEntry, state)

/-- Answers a request with a batch of operations. -/
def serveBatch (engine : Engine σ) (own : Option (List String)) (request : Request) (state : σ) :
    Except Fault Reply × σ :=
  match request.entries with
  | .error error => (Session.refuse (.error error.fault), state)
  | .ok entries =>
    let (outcome, state) := answerAll engine own request state entries
    let reply := outcome.map fun replies =>
      ⟨.arr (replies.map Reply.response), (replies.map Reply.status).foldl max 0⟩
    (Session.refuse reply, state)

/-- One happening. Who calls for a plugin gets what is handed out where nothing is done, with the
registry given here. -/
def perform (engines : Engines σ) (registry : RegistryRef) (holds : Registry) (bare : Bare σ) :
    Happening → Outcome × Bare σ
  | .act act =>
    (.offered (.ok (act.idleOffer registry holds)),
      { bare with catalog := act.catalogAfter bare.catalog })
  | .view schema own => (.silent, { bare with schema, own })
  | .request request =>
    let (reply, engine) := serve (engines bare.catalog bare.schema) bare.own request bare.engine
    (.replied reply, { bare with engine })
  | .batch request =>
    let (reply, engine) :=
      serveBatch (engines bare.catalog bare.schema) bare.own request bare.engine
    (.replied reply, { bare with engine })

/-- One happening after the other. -/
def run (engines : Engines σ) (registry : RegistryRef) (holds : Registry) :
    Bare σ → List Happening → List Outcome × Bare σ
  | bare, [] => ([], bare)
  | bare, happening :: rest =>
    let (outcome, bare) := bare.perform engines registry holds happening
    let (outcomes, bare) := run engines registry holds bare rest
    (outcome :: outcomes, bare)

end Bare

/-- A session of a view that has installed no rules, in which nothing was reported. -/
def Session.idle (plugin : Plugin) (schema : Handle) (own : Option (List String)) (state : σ) :
    Session σ :=
  ⟨.fresh schema own, plugin, state, []⟩

/-- The same application with a plugin. Its view has installed no rules, and nothing was
reported. -/
def Bare.under (plugin : Plugin) (bare : Bare σ) : World σ :=
  ⟨bare.catalog, .idle plugin bare.schema bare.own bare.engine⟩

/-! ### One happening under a plugin that is switched off -/

namespace Session

variable {plugin : Plugin} (engine : Engine σ) (catalog : Catalog) (request : Request)
  (schema : Handle) (own : Option (List String))

theorem execute_idle (h : plugin.enabled = false) (state : σ) (context : Context)
    (params : Params) :
    (idle plugin schema own state).execute engine catalog context params =
      ((engine ⟨context, params, engineOwn own⟩ state).1,
        idle plugin schema own (engine ⟨context, params, engineOwn own⟩ state).2) := by
  have hoff : (!params.query.truthy || !(idle plugin schema own state).plugin.enabled) = true := by
    rw [idle, h, Bool.not_false, Bool.or_true]
  have hrules : (idle plugin schema own state).rulesInForce = engineOwn own :=
    map_ownRules plugin own
  rw [execute, if_pos hoff, run, hrules]
  rfl

theorem answer_idle (h : plugin.enabled = false) (state : σ) (entry : Table Json) :
    (idle plugin schema own state).answer engine catalog request entry =
      ((Bare.answer engine own request state entry).1,
        idle plugin schema own (Bare.answer engine own request state entry).2) := by
  rw [answer, Bare.answer]
  cases request.params entry with
  | error error => rfl
  | ok params =>
    simp only [execute_idle engine catalog schema own h]

theorem serve_idle (h : plugin.enabled = false) (state : σ) :
    (idle plugin schema own state).serve engine catalog request =
      ((Bare.serve engine own request state).1,
        idle plugin schema own (Bare.serve engine own request state).2) := by
  rw [serve, Bare.serve]
  cases request.entry with
  | error error => rfl
  | ok entry =>
    have hanswer := answer_idle engine catalog request schema own h state entry
    dsimp only
    generalize (idle plugin schema own state).answer engine catalog request entry = answered
      at hanswer ⊢
    subst hanswer
    rfl

theorem answerAll_idle (h : plugin.enabled = false) (entries : List Json) : ∀ state : σ,
    (idle plugin schema own state).answerAll engine catalog request entries =
      ((Bare.answerAll engine own request state entries).1,
        idle plugin schema own (Bare.answerAll engine own request state entries).2) := by
  induction entries with
  | nil => exact fun _ => rfl
  | cons item rest ih =>
    intro state
    cases item with
    | obj entry =>
      rw [answerAll, Bare.answerAll, answer_idle engine catalog request schema own h]
      rcases Bare.answer engine own request state entry with ⟨fault | ⟨params, result⟩, next⟩
      · rfl
      · simp only [ih next]
    | _ => rfl

theorem serveBatch_idle (h : plugin.enabled = false) (state : σ) :
    (idle plugin schema own state).serveBatch engine catalog request =
      ((Bare.serveBatch engine own request state).1,
        idle plugin schema own (Bare.serveBatch engine own request state).2) := by
  rw [serveBatch, Bare.serveBatch]
  cases request.entries with
  | error error => rfl
  | ok entries =>
    simp only [answerAll_idle engine catalog request schema own h]

end Session

namespace World

variable {plugin : Plugin}

/-- **One happening comes to the same with a plugin that is switched off and without a plugin.** -/
theorem perform_under (h : plugin.enabled = false) (engines : Engines σ) (bare : Bare σ)
    (happening : Happening) :
    (bare.under plugin).perform engines happening =
      ((bare.perform engines plugin.current.registry plugin.registry happening).1,
        (bare.perform engines plugin.current.registry plugin.registry happening).2.under
          plugin) := by
  obtain ⟨catalog, schema, own, state⟩ := bare
  cases happening with
  | act act =>
    have hcall : act.call catalog (Session.idle plugin schema own state).plugin = _ :=
      Plugin.call_of_disabled h catalog act
    simp only [perform, Bare.under, hcall]
    rfl
  | view schema own => rfl
  | request request =>
    simp only [perform, Bare.under, Session.serve_idle _ catalog request schema own h]
    rfl
  | batch request =>
    simp only [perform, Bare.under, Session.serveBatch_idle _ catalog request schema own h]
    rfl

theorem run_under (h : plugin.enabled = false) (engines : Engines σ)
    (happenings : List Happening) : ∀ bare : Bare σ,
    (bare.under plugin).run engines happenings =
      ((bare.run engines plugin.current.registry plugin.registry happenings).1,
        (bare.run engines plugin.current.registry plugin.registry happenings).2.under plugin) := by
  induction happenings with
  | nil => exact fun _ => rfl
  | cons happening rest ih =>
    intro bare
    rw [run, Bare.run, perform_under h]
    simp only [ih]

end World

/-! ### What the engine is asked -/

/-- The rules of its own that an endpoint has which is set up. -/
def Happening.own? : Happening → Option (Option (List String))
  | .view _ own => some own
  | _ => none

namespace Bare

variable {engine : Engine σ} {own : Option (List String)} {request : Request} {keeps : σ → Prop}

/-- What the engine keeps when it is asked under the rules of the endpoint, answering an entry
keeps. -/
theorem answer_keeps (h : ∀ context params state, keeps state →
      keeps (engine ⟨context, params, engineOwn own⟩ state).2)
    (state : σ) (hstate : keeps state) (entry : Table Json) :
    keeps (answer engine own request state entry).2 := by
  rw [answer]
  cases request.params entry with
  | error error => exact hstate
  | ok params => exact h ⟨request, entry, false⟩ params state hstate

theorem serve_keeps (h : ∀ context params state, keeps state →
      keeps (engine ⟨context, params, engineOwn own⟩ state).2)
    (state : σ) (hstate : keeps state) : keeps (serve engine own request state).2 := by
  rw [serve]
  cases request.entry with
  | error error => exact hstate
  | ok entry => exact answer_keeps h state hstate entry

theorem answerAll_keeps (h : ∀ context params state, keeps state →
      keeps (engine ⟨context, params, engineOwn own⟩ state).2)
    (entries : List Json) : ∀ state, keeps state →
      keeps (answerAll engine own request state entries).2 := by
  induction entries with
  | nil => exact fun _ hstate => hstate
  | cons item rest ih =>
    intro state hstate
    cases item with
    | obj entry =>
      have hnext : keeps (answer engine own request state entry).2 :=
        answer_keeps h state hstate entry
      rw [answerAll]
      rcases hfirst : answer engine own request state entry with ⟨fault | ⟨params, result⟩, next⟩
      · rw [hfirst] at hnext
        exact hnext
      · rw [hfirst] at hnext
        exact ih next hnext
    | _ => exact hstate

theorem serveBatch_keeps (h : ∀ context params state, keeps state →
      keeps (engine ⟨context, params, engineOwn own⟩ state).2)
    (state : σ) (hstate : keeps state) : keeps (serveBatch engine own request state).2 := by
  rw [serveBatch]
  cases request.entries with
  | error error => exact hstate
  | ok entries => exact answerAll_keeps h entries state hstate

/-- Without a plugin, nothing is done to the engine but that it is asked under the rules of the
endpoint that was set up last. -/
theorem run_keeps {engines : Engines σ} (keeps : σ → Prop) (registry : RegistryRef)
    (holds : Registry) (happenings : List Happening) : ∀ bare : Bare σ,
      (∀ own ∈ bare.own :: happenings.filterMap Happening.own?,
        ∀ catalog schema context params state, keeps state →
          keeps (engines catalog schema ⟨context, params, engineOwn own⟩ state).2) →
      keeps bare.engine → keeps (bare.run engines registry holds happenings).2.engine := by
  induction happenings with
  | nil => exact fun _ _ hbare => hbare
  | cons happening rest ih =>
    intro bare h hbare
    have hown := h bare.own List.mem_cons_self
    cases happening with
    | act act => exact ih _ h hbare
    | view schema own =>
      exact ih _ (fun other hother => h other (List.mem_cons_of_mem _ hother)) hbare
    | request request =>
      exact ih _ h (serve_keeps (hown bare.catalog bare.schema) bare.engine hbare)
    | batch request =>
      exact ih _ h (serveBatch_keeps (hown bare.catalog bare.schema) bare.engine hbare)

end Bare

/-- The engines, with a list of the calls that they get. -/
def Engines.recorded (engines : Engines σ) : Engines (List Call × σ) :=
  fun catalog schema call state =>
    let (outcome, inner) := engines catalog schema call state.2
    (outcome, state.1 ++ [call], inner)

/-- The same application before the first call of its engine. -/
def Bare.recorded (bare : Bare σ) : Bare (List Call × σ) :=
  ⟨bare.catalog, bare.schema, bare.own, [], bare.engine⟩

/-- **A plugin that is switched off is not there.** Whatever happens, to whatever schemas, comes to
the same as without a plugin: every reply, every state of the engine, and what a call of the plugin
hands out, which is the registry that the plugin had at first, no binding, no rule and no execution.
The plugin is at the end what it was at the beginning, the view has installed no rules and nothing
was reported. In particular the engine gets the same calls, and each of them under the rules of an
endpoint that was set up, and under no others; where no endpoint has rules of its own, that is
under none. -/
theorem run_of_disabled {plugin : Plugin} (h : plugin.enabled = false) (engines : Engines σ)
    (bare : Bare σ) (happenings : List Happening) :
    (bare.under plugin).run engines happenings =
        ((bare.run engines plugin.current.registry plugin.registry happenings).1,
          (bare.run engines plugin.current.registry plugin.registry happenings).2.under plugin) ∧
      ((bare.recorded.under plugin).run engines.recorded happenings).2.session.engine.1 =
        (bare.recorded.run engines.recorded plugin.current.registry plugin.registry
          happenings).2.engine.1 ∧
      ∀ call ∈ ((bare.recorded.under plugin).run engines.recorded happenings).2.session.engine.1,
        call.rules ∈ (bare.own :: happenings.filterMap Happening.own?).map engineOwn := by
  have hrecorded := World.run_under h engines.recorded happenings bare.recorded
  refine ⟨World.run_under h engines happenings bare, ?_, ?_⟩
  · rw [hrecorded]
    rfl
  · rw [hrecorded]
    let owns := bare.own :: happenings.filterMap Happening.own?
    let keeps (state : List Call × σ) : Prop := ∀ call ∈ state.1, call.rules ∈ owns.map engineOwn
    have hkeeps : ∀ own ∈ owns, ∀ catalog schema context params state, keeps state →
        keeps (engines.recorded catalog schema ⟨context, params, engineOwn own⟩ state).2 := by
      intro own hown catalog schema context params state hstate call hcall
      rcases List.mem_append.mp hcall with hcall | hcall
      · exact hstate call hcall
      · rw [List.mem_singleton.mp hcall]
        exact List.mem_map_of_mem hown
    exact Bare.run_keeps keeps plugin.current.registry plugin.registry happenings bare.recorded
      hkeeps nofun

/-- A schema that cannot be scanned is announced and asked for; introspection, a single request and
a batch of two operations follow, before an endpoint with a rule of its own, and the engine gets
three calls. -/
theorem run_of_disabled_broken_schema :
    ∃ (env : Settings.Environment) (config : Table Json) (engines : Engines ℕ) (bare : Bare ℕ)
      (single batch : Request) (happenings : List Happening) (error : ScanError),
      (Plugin.create env config).1.enabled = false ∧
      bare.catalog.scan bare.schema.key = .error error ∧
      happenings = [.act (.change bare.schema), .act (.rules (some bare.schema)),
        .act (.execute (.str "\x7b __schema \x7b types \x7b name \x7d \x7d \x7d") none (.ok none)
          (some bare.schema)), .view bare.schema (some ["depth"]),
        .request single, .batch batch, .act (.registryFor (some bare.schema))] ∧
      (bare.under (Plugin.create env config).1).run engines happenings =
        ((bare.run engines ⟨0⟩ .empty happenings).1,
          (bare.run engines ⟨0⟩ .empty happenings).2.under (Plugin.create env config).1) ∧
      (bare.run engines ⟨0⟩ .empty happenings).2.engine = 3 := by
  let types := (Schema.ofDocument Session.userTypes).toOption.getD ⟨[], [], [], [], []⟩
  let bare : Bare ℕ :=
    ⟨Catalog.addUnknownKind ⟨[("a", types)], [], []⟩ "a" "Odd", ⟨"a", none⟩, none, 0⟩
  let engines : Engines ℕ := fun _ _ _ count => (.ok (some ⟨.null, []⟩), count + 1)
  let happenings (single batch : Request) : List Happening :=
    [.act (.change bare.schema), .act (.rules (some bare.schema)),
      .act (.execute (.str "\x7b __schema \x7b types \x7b name \x7d \x7d \x7d") none (.ok none)
          (some bare.schema)), .view bare.schema (some ["depth"]),
      .request single, .batch batch, .act (.registryFor (some bare.schema))]
  have hdisabled : (Plugin.create [] [("enabled", .bool false)]).1.enabled = false := by decide
  have hbroken : (bare.catalog.scan bare.schema.key).toOption = none := by decide +kernel
  obtain ⟨error, herror⟩ := Fallible.toOption_eq_none.mp hbroken
  have htest : ((Request.build (.obj (Session.userEntry "ssn")) .post defaultPath []).toOption.any
      fun single => (Request.build (.arr [.obj (Session.userEntry "id"),
        .obj (Session.userEntry "ssn")]) .post defaultPath []).toOption.any fun batch =>
          decide ((bare.run engines ⟨0⟩ .empty (happenings single batch)).2.engine = 3)) =
            true := by
    decide +kernel
  simp only [Option.any_eq_true, decide_eq_true_eq] at htest
  obtain ⟨single, -, batch, -, hcalls⟩ := htest
  exact ⟨[], [("enabled", .bool false)], engines, bare, single, batch, _, error, hdisabled, herror,
    rfl, (run_of_disabled hdisabled engines bare (happenings single batch)).1, hcalls⟩

end Endpoint

end SchemaVisibility
