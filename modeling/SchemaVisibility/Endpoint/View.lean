import SchemaVisibility.Endpoint.Request
import SchemaVisibility.Plugin.Execution

/-! # The view

A view serves the operations on one schema. It puts the access rule behind the rules of its
endpoint, or behind the engine's standard ones if the endpoint has none of its own, lets the plugin
take introspection over, and else runs the engine itself. The engine is any function: it gets the
operation as it came, with the rules in force, and gives a result or a fault.

A view keeps the rules that it has installed. One that answers several operations, as for a batch,
adds its rule again each time.
-/

namespace SchemaVisibility.Endpoint

/-- A group of rules that a view has installed. -/
inductive ViewRule where
  /-- The standard rules of the engine. -/
  | standard
  /-- A rule of the endpoint's own. -/
  | own (name : String)
  /-- An access rule of the plugin. -/
  | access (rule : RuleRef)
  deriving DecidableEq, Repr

/-- A group of rules as the engine applies it. -/
inductive EngineRule where
  | standard
  | own (name : String)
  | access (registry : Registry)

/-- What a group of rules reads, if it is an access rule. -/
def EngineRule.registry? : EngineRule → Option Registry
  | .access registry => some registry
  | _ => none

/-- A group of rules as the engine is to apply it now. -/
def ViewRule.inForce (plugin : Plugin) : ViewRule → EngineRule
  | .standard => .standard
  | .own name => .own name
  | .access rule => .access (plugin.readBy rule)

/-- The rules of an endpoint that has rules of its own, by their names. -/
def ownRules (own : Option (List String)) : Option (List ViewRule) :=
  own.map (List.map .own)

/-- The rules behind which others are added: those installed, or the standard ones if none are. -/
def baseRules : Option (List ViewRule) → List ViewRule
  | none | some [] => [.standard]
  | some rules => rules

/-- The parts of an operation as they are sent. -/
structure Params where
  query : Json
  variableValues : Json
  operationName : Json
  id : Json
  deriving Inhabited, Repr

/-- The name of the operation that is asked for, if one is. What is no text is the name of no
operation. -/
def Params.operation? (params : Params) : Option String :=
  match params.operationName with
  | .null => none
  | .str name => some name
  | _ => some ""

/-- What an operation comes with: the request, the data that were read from it, and whether the
answer is for a page that shows it. -/
structure Context where
  request : Request
  data : Table Json
  showsPage : Bool
  deriving Repr

/-- What the engine is asked to do. Without installed rules it applies its own. -/
structure Call where
  context : Context
  params : Params
  rules : Option (List EngineRule)

/-- The rules that the view added. -/
def Call.added (call : Call) : List Registry :=
  (call.rules.getD []).filterMap EngineRule.registry?

/-- Whether the rules in force are the standard ones with rules added behind them. -/
def Call.hasStandard (call : Call) : Bool :=
  match call.rules with
  | some (.standard :: _) => true
  | _ => false

/-- What runs operations, with a state of its own. -/
abbrev Engine (σ : Type) := Call → σ → Except Fault (Option ExecutionResult) × σ

/-- A view: the schema that it serves and the rules that it has installed, if any. -/
structure View where
  schema : Handle
  rules : Option (List ViewRule)
  deriving Repr

/-- A view that has answered nothing yet, of an endpoint that may have rules of its own. -/
def View.fresh (schema : Handle) (own : Option (List String)) : View :=
  ⟨schema, ownRules own⟩

/-- A view at work: its plugin, the state of the engine, and what was reported. -/
structure Session (σ : Type) where
  view : View
  plugin : Plugin
  engine : σ
  notices : List Notice

namespace Session

variable {σ : Type}

/-- The rules that the engine is to apply now. -/
def rulesInForce (session : Session σ) : Option (List EngineRule) :=
  session.view.rules.map (List.map (ViewRule.inForce session.plugin))

/-- Runs the engine on an operation. -/
def run (engine : Engine σ) (session : Session σ) (context : Context) (params : Params) :
    Except Fault (Option ExecutionResult) × Session σ :=
  let (outcome, state) := engine ⟨context, params, session.rulesInForce⟩ session.engine
  (outcome, { session with engine := state })

/-- Takes over the plugin's new state and its reports. -/
def advance {α : Type} (session : Session σ) (step : Step α) : Session σ :=
  { session with plugin := step.plugin, notices := session.notices ++ step.notices }

/-- Adds access rules behind those that there are. -/
def install (session : Session σ) (rules : List RuleRef) : Session σ :=
  let base := baseRules session.view.rules
  { session with view := { session.view with rules := some (base ++ rules.map .access) } }

/-- Answers an operation with the access rule installed. The plugin may take it over; else the
engine runs it. -/
def guarded (engine : Engine σ) (catalog : Catalog) (session : Session σ) (context : Context)
    (params : Params) : Except Fault (Option ExecutionResult) × Session σ :=
  let run := engine ⟨context, params, session.rulesInForce⟩
  let (outcome, plugin, notices, state) :=
    session.plugin.execute catalog run session.engine params.query params.operation?
      (some session.view.schema)
  let after : Session σ :=
    { session with plugin, engine := state, notices := session.notices ++ notices }
  match outcome with
  | .error fault => (.error fault, after)
  | .ok (.handled result) => (.ok result, after)
  | .ok .passed => after.run engine context params

/-- Answers an operation. Without a query text, and with a plugin that is switched off, the engine
runs at once. -/
def execute (engine : Engine σ) (catalog : Catalog) (session : Session σ) (context : Context)
    (params : Params) : Except Fault (Option ExecutionResult) × Session σ :=
  if !params.query.truthy || !session.plugin.enabled then session.run engine context params
  else
    match session.plugin.sync catalog session.view.schema with
    | .error error => (.error (.scan error), session)
    | .ok synced =>
      let session := session.advance synced
      match session.plugin.rules catalog (some session.view.schema) with
      | .error error => (.error (.scan error), session)
      | .ok rules =>
        ((session.advance rules).install rules.value).guarded engine catalog context params

end Session

end SchemaVisibility.Endpoint
