import SchemaVisibility.Endpoint.View
import SchemaVisibility.Proofs.Introspection.Gate
import SchemaVisibility.Proofs.Plugin.Binding

/-! # One operation of a view

What a view answers to an operation, for every engine. There are two ways to the engine: the plugin
takes the operation over, or the view runs it. Both come to the same (`guarded_eq`): the engine is
asked once, under the rules in force, and what it gives is concealed (`conceal`). A view whose
plugin has a registry for the schema does this with the access rule installed (`execute_eq`), and
`execute_fresh` states it for a view that has answered nothing yet.

An operation that does not ask for introspection is run without any redaction. Nobody can tell,
because redacting its data would change nothing (`redactText_of_not_selectsIntrospection`).
-/

namespace SchemaVisibility.Endpoint

/-! ### Concealing -/

/-- The answer that a result makes: data that are not `null` are redacted, and nothing else is
changed. A failure of the redaction is the fault of the operation. -/
def conceal (registry : Registry) (text : String) (operationName : Option String) :
    Option ExecutionResult → Except Fault (Option ExecutionResult)
  | none => .ok none
  | some result =>
    if result.data = .null then .ok (some result)
    else
      match Introspection.redactText registry text operationName result.data with
      | .ok data => .ok (some { result with data })
      | .error failure => .error (.redaction failure)

/-- The answer that the result of an operation makes; only a query that is text is read. -/
def Params.conceal (params : Params) (registry : Registry) (result : Option ExecutionResult) :
    Except Fault (Option ExecutionResult) :=
  match params.query with
  | .str text => Endpoint.conceal registry text params.operation? result
  | _ => .ok result

variable {registry : Registry} {params : Params}

theorem Params.conceal_eq_redacted (result : Option ExecutionResult) :
    params.conceal registry result =
      (Plugin.redacted registry params.query params.operation? result).mapError .redaction := by
  rw [Params.conceal]
  cases params.query with
  | str text =>
    cases result with
    | none => rfl
    | some result =>
      simp only [Endpoint.conceal, Plugin.redacted]
      split
      · rfl
      · cases Introspection.redactText registry text params.operation? result.data <;> rfl
  | _ => cases result <;> rfl

/-- What does not ask for introspection is answered with the result as it is. -/
theorem Params.conceal_of_not_asks (h : Plugin.asksIntrospection params.query = false) :
    params.conceal registry = (pure : _ → Except Fault _) := by
  funext result
  rw [Params.conceal]
  split
  · next text hquery =>
    rw [hquery] at h
    cases result with
    | none => rfl
    | some result =>
      rw [Endpoint.conceal, Introspection.redactText_of_not_selectsIntrospection h]
      split <;> rfl
  · rfl

/-! ### The rules of an endpoint -/

/-- The rules of an endpoint as the engine applies them, if it has rules of its own. -/
def engineOwn (own : Option (List String)) : Option (List EngineRule) :=
  own.map (List.map .own)

/-- The rules behind which the view adds its own: those of the endpoint, or else the standard
ones. -/
def engineBase : Option (List String) → List EngineRule
  | none | some [] => [.standard]
  | some names => names.map .own

theorem map_ownRules (plugin : Plugin) (own : Option (List String)) :
    (ownRules own).map (List.map (ViewRule.inForce plugin)) = engineOwn own := by
  cases own with
  | none => rfl
  | some names =>
    rw [ownRules, engineOwn, Option.map_some, Option.map_some, Option.map_some, List.map_map]
    rfl

theorem map_baseRules (plugin : Plugin) (own : Option (List String)) :
    (baseRules (ownRules own)).map (ViewRule.inForce plugin) = engineBase own := by
  rcases own with _ | _ | ⟨name, names⟩
  · rfl
  · rfl
  · exact Option.some.inj (map_ownRules plugin (some (name :: names)))

/-! ### Two ways to the engine -/

namespace Session

variable {σ : Type} (engine : Engine σ) {catalog : Catalog} {session : Session σ}
  {context : Context} {binding : Binding}

/-- Whether the plugin takes the operation over or passes it on, the engine is asked once and its
result concealed. -/
theorem guarded_eq (h : session.plugin.Serves session.view.schema.key binding registry) :
    session.guarded engine catalog context params =
      ((session.run engine context params).1 >>= params.conceal registry,
        (session.run engine context params).2) := by
  simp only [guarded, h.execute]
  cases hasks : Plugin.asksIntrospection params.query with
  | false =>
    -- passed on: the view runs the engine, and there is nothing to conceal
    simp only [Bool.false_eq_true, if_false, List.append_nil]
    rw [Params.conceal_of_not_asks hasks, bind_pure]
  | true =>
    simp only [if_true, List.append_nil, run]
    rcases engine ⟨context, params, session.rulesInForce⟩ session.engine with
      ⟨fault | result, state⟩
    · rfl
    · simp only [Fallible.ok_bind, Params.conceal_eq_redacted]
      cases Plugin.redacted registry params.query params.operation? result <;> rfl

/-- What a session goes on with once its schema is served: the access rule is installed. -/
def served (session : Session σ) (step : Step (Option Binding)) (binding : Binding) : Session σ :=
  let rules : Step (List RuleRef) := ⟨[binding.rule], step.plugin, []⟩
  ((session.advance step).advance rules).install rules.value

/-- Once the schema is served, the engine is asked and its result concealed. -/
theorem execute_of_sync {step : Step (Option Binding)} (context : Context)
    (henabled : session.plugin.enabled = true) (hquery : params.query.truthy = true)
    (hsync : session.plugin.sync catalog session.view.schema = .ok step)
    (hserves : step.plugin.Serves session.view.schema.key binding registry) :
    session.execute engine catalog context params =
      (((session.served step binding).run engine context params).1 >>= params.conceal registry,
        ((session.served step binding).run engine context params).2) := by
  have hruns : (!params.query.truthy || !session.plugin.enabled) = false := by
    rw [hquery, henabled]
    rfl
  have hrules : (session.advance step).plugin.rules catalog
      (some (session.advance step).view.schema) =
        .ok ⟨[binding.rule], step.plugin, []⟩ := hserves.rules
  have hserved : (session.served step binding).plugin.Serves
      (session.served step binding).view.schema.key binding registry := hserves
  rw [← guarded_eq engine hserved]
  simp only [execute, hruns, hsync, hrules, Bool.false_eq_true, if_false]
  rfl

/-- If the schema cannot be served, nothing happens. -/
theorem execute_of_sync_error {error : ScanError} (context : Context)
    (henabled : session.plugin.enabled = true) (hquery : params.query.truthy = true)
    (hsync : session.plugin.sync catalog session.view.schema = .error error) :
    session.execute engine catalog context params = (.error (.scan error), session) := by
  simp only [execute, hquery, henabled, hsync]
  rfl

/-- What a session goes on with once the schema is served and the access rule installed: nothing
was asked of the engine yet. -/
structure Ready (session ready : Session σ) (binding : Binding) (registry : Registry) : Prop where
  serves : ready.plugin.Serves session.view.schema.key binding registry
  engine_eq : ready.engine = session.engine
  schema_eq : ready.view.schema = session.view.schema
  extends_store : session.plugin.store.Extends ready.plugin.store
  rules_eq : ready.view.rules = some (baseRules session.view.rules ++ [.access binding.rule])

/-- **An operation with a query is run once, behind the access rule, and its result concealed.** -/
theorem execute_eq (context : Context) (henabled : session.plugin.enabled = true)
    (hquery : params.query.truthy = true)
    (hregistry : session.plugin.registryFor catalog session.view.schema = .ok registry) :
    ∃ ready binding, session.Ready ready binding registry ∧
      session.execute engine catalog context params =
        ((ready.run engine context params).1 >>= params.conceal registry,
          (ready.run engine context params).2) := by
  obtain ⟨step, binding, hsync, hserves⟩ := Plugin.sync_of_registryFor henabled hregistry
  exact ⟨session.served step binding, binding,
    ⟨hserves, rfl, rfl, Plugin.extends_of_sync henabled hsync, rfl⟩,
    execute_of_sync engine context henabled hquery hsync hserves⟩

/-- A schema that cannot be scanned is not served, and the engine is not asked. -/
theorem execute_of_scan_error {error : ScanError} (henabled : session.plugin.enabled = true)
    (hquery : params.query.truthy = true)
    (hbound : session.plugin.isBound session.view.schema.key = false)
    (hscan : catalog.scan session.view.schema.key = .error error) :
    session.execute engine catalog context params = (.error (.scan error), session) := by
  have hsync : session.plugin.sync catalog session.view.schema = .error error := by
    rw [Plugin.sync_of_unbound henabled (by simpa [Plugin.isBound] using hbound), hscan]
    rfl
  exact execute_of_sync_error engine context henabled hquery hsync

/-- **The law of the view.** A view that has answered nothing yet, of an endpoint with or without
rules of its own and with a plugin that is switched on, is asked for an operation `text`.

If the schema is bound or can be scanned, the engine is asked exactly once, with the operation as it
came and with the access rule that reads the registry of the schema behind the rules of the
endpoint, or behind the standard ones if it has none. The state of the engine afterwards is the one
that this call leaves, so that an engine that counts its calls counts one more. The answer is what
the engine gave, concealed by the same registry.

If the schema is not bound and its scan fails, nothing happens at all: the engine keeps its state.

If no operation of the text asks for introspection, concealing would change no result. -/
theorem execute_fresh {schema : Handle} {own : Option (List String)} {text : String}
    (henabled : session.plugin.enabled = true) (hview : session.view = .fresh schema own)
    (hquery : params.query = .str text) (htext : text ≠ "") :
    ((session.plugin.isBound schema.key = true ∨
        ∃ records, catalog.scan schema.key = .ok records) →
      ∃ binding registry, session.plugin.registryFor catalog schema = .ok registry ∧
        (session.execute engine catalog context params).1 =
          (engine ⟨context, params, some (engineBase own ++ [.access registry])⟩
            session.engine).1 >>= conceal registry text params.operation? ∧
        (session.execute engine catalog context params).2.engine =
          (engine ⟨context, params, some (engineBase own ++ [.access registry])⟩
            session.engine).2 ∧
        (session.execute engine catalog context params).2.plugin.Serves schema.key binding
          registry) ∧
    (∀ error, session.plugin.isBound schema.key = false → catalog.scan schema.key = .error error →
      session.execute engine catalog context params = (.error (.scan error), session)) ∧
    ((Introspection.document? text).any Introspection.selectsIntrospection = false →
      ∀ registry operationName data,
        Introspection.redactText registry text operationName data = .ok data) := by
  have hschema : session.view.schema = schema := by rw [hview]; rfl
  have htruthy : params.query.truthy = true := by
    rw [hquery, Json.truthy]
    exact bne_iff_ne.mpr htext
  refine ⟨fun hscans => ?_, fun error hbound hscan => ?_,
    Introspection.redactText_of_not_selectsIntrospection⟩
  · obtain ⟨registry, hregistry⟩ := Plugin.exists_registryFor henabled hscans
    obtain ⟨ready, binding, hready, hexecute⟩ := execute_eq engine context henabled
      htruthy (hschema ▸ hregistry)
    have hserves : ready.plugin.Serves schema.key binding registry := hschema ▸ hready.serves
    have hrules : ready.rulesInForce = some (engineBase own ++ [.access registry]) := by
      rw [rulesInForce, hready.rules_eq, hview, Option.map_some, List.map_append, View.fresh,
        map_baseRules, List.map_singleton, ViewRule.inForce, hserves.readBy]
    have hconceal : params.conceal registry = conceal registry text params.operation? := by
      funext result
      rw [Params.conceal, hquery]
    rw [hexecute, hconceal, run, hrules, hready.engine_eq]
    exact ⟨binding, registry, hregistry, rfl, rfl, hserves⟩
  · rw [← hschema] at hbound hscan
    exact execute_of_scan_error engine henabled htruthy hbound hscan

/-- Users, of whom a private field tells the number. -/
def userTypes : GraphQL.Document :=
  ⟨[.directive ⟨"private", [], false, ["FIELD_DEFINITION"]⟩,
    .type ⟨"User", [], .object [] [⟨"id", [], .named "Int", []⟩,
      ⟨"ssn", [], .named "Int", [⟨"private", []⟩]⟩]⟩,
    .type ⟨"Query", [], .object [] [⟨"user", [], .named "User", []⟩]⟩]⟩

/-- An engine that counts its calls, a type with a private field, an endpoint with a rule of its
own, and an operation that asks for the fields of this type. -/
theorem execute_fresh_of_private_field :
    ∃ (engine : Engine ℕ) (catalog : Catalog) (session : Session ℕ) (schema : Handle)
      (own : Option (List String)) (context : Context) (params : Params) (text : String)
      (data kept : Json),
      session.plugin.enabled = true ∧ session.view = .fresh schema own ∧
      params.query = .str text ∧ text ≠ "" ∧
      (∃ records, catalog.scan schema.key = .ok records) ∧
      (∀ call count, engine call count = (.ok (some ⟨data, []⟩), count + 1)) ∧ kept ≠ data ∧
      (session.execute engine catalog context params).1 = .ok (some ⟨kept, []⟩) ∧
      (session.execute engine catalog context params).2.engine = session.engine + 1 := by
  let fields (names : List String) : Json :=
    .obj [("__type", .obj [("fields", .arr (names.map fun name => .obj [("name", .str name)]))])]
  let schema : Handle := ⟨"a", none⟩
  let own : Option (List String) := some ["depth"]
  let catalog : Catalog :=
    ⟨[("a", (Schema.ofDocument userTypes).toOption.getD ⟨[], [], [], [], []⟩)], [], []⟩
  let plugin : Plugin := (Plugin.create [] [("enabled", .bool true)]).1
  let text := "\x7b __type(name: \"User\") \x7b fields \x7b name \x7d \x7d \x7d"
  let engine : Engine ℕ := fun _ count => (.ok (some ⟨fields ["id", "ssn"], []⟩), count + 1)
  have henabled : plugin.enabled = true := by decide
  have hscan : (catalog.scan schema.key).toOption.isSome = true := by decide +kernel
  obtain ⟨records, hrecords⟩ := Option.isSome_iff_exists.mp hscan
  rw [Fallible.toOption_eq_some] at hrecords
  have htest : ((plugin.registryFor catalog schema).toOption.any fun registry =>
      decide ((Introspection.redactText registry text none (fields ["id", "ssn"])).toOption =
        some (fields ["id"]))) = true := by
    decide +kernel
  rw [Option.any_eq_true] at htest
  obtain ⟨found, hfound, hredact⟩ := htest
  rw [decide_eq_true_eq] at hredact
  rw [Fallible.toOption_eq_some] at hfound hredact
  let session : Session ℕ := ⟨.fresh schema own, plugin, 0, []⟩
  let request : Request := ⟨.post, ⟨defaultPath, []⟩, [], ⟨jsonType, []⟩, none, text⟩
  let context : Context := ⟨request, [("query", .str text)], false⟩
  let params : Params := ⟨.str text, .null, .null, .null⟩
  obtain ⟨binding, registry, hregistry, hanswer, hstate, -⟩ :=
    (@execute_fresh params ℕ engine catalog session context schema own text henabled rfl rfl
      (by decide)).1 (.inr ⟨records, hrecords⟩)
  obtain rfl : found = registry := Except.ok.inj (hfound.symm.trans hregistry)
  refine ⟨engine, catalog, session, schema, own, context, params, text, _, fields ["id"], henabled,
    rfl, rfl, by decide, ⟨records, hrecords⟩, fun _ _ => rfl, by decide, ?_, hstate⟩
  rw [hanswer]
  change conceal found text none (some ⟨fields ["id", "ssn"], []⟩) = _
  rw [conceal, if_neg (by decide), hredact]

end Session

end SchemaVisibility.Endpoint
