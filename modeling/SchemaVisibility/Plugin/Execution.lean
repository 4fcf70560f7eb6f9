import SchemaVisibility.GraphQL.Document
import SchemaVisibility.Introspection.Redaction
import SchemaVisibility.Plugin.Basic

/-! # Execution through the plugin

Before an operation runs, the plugin may take it over: if it is switched on and the operation asks
for introspection, the plugin runs the operation itself and redacts the result. It finds the
registry before it runs the operation, so that nothing runs against a schema that cannot be scanned.
-/

namespace SchemaVisibility

/-- An error of a result, with what is known about it. -/
structure ResponseError where
  message : String
  position : Option GraphQL.Position
  code : Option String
  deriving DecidableEq, Repr, Inhabited

/-- An error with nothing but a wording. -/
def ResponseError.ofMessage (message : String) : ResponseError :=
  ⟨message, none, none⟩

/-- What running an operation gives; no data are `null`. -/
structure ExecutionResult where
  data : Json
  errors : List ResponseError
  deriving Inhabited

/-- Why the content of a request cannot be read. -/
inductive Unreadable where
  /-- A form has too many fields. -/
  | tooManyFields
  /-- The charset refuses to read a form. -/
  | refused
  /-- A name or a value of a form cannot be read by the charset. -/
  | unreadableField
  /-- What should be the charset yields no text. -/
  | charsetWithoutText
  /-- A form is written in another charset than UTF-8. -/
  | foreignForm
  /-- The parts of the content cannot be told apart. -/
  | noBoundary
  deriving DecidableEq, Repr

/-- Why a request has no result. -/
inductive Fault where
  | scan (error : ScanError)
  | redaction (failure : Introspection.Failure)
  /-- The request itself cannot be answered. -/
  | badRequest (message : String)
  | unreadable (reason : Unreadable)
  /-- An entry of a batch is no object. -/
  | malformedEntry
  /-- Operations cannot be checked against the schema. -/
  | invalidSchema

/-- Whether the plugin took an operation over, and what came of it. -/
inductive Handling where
  | passed
  | handled (result : Option ExecutionResult)

namespace Plugin

/-- The registry with which the plugin takes an operation over, if it does. -/
def intercept (plugin : Plugin) (catalog : Catalog) (query : Json) (schema : Option Handle) :
    Except ScanError (Step (Option RegistryRef)) := do
  let asks :=
    match query with
    | .str text => (Introspection.document? text).any Introspection.selectsIntrospection
    | _ => false
  if plugin.enabled && asks then
    let step ← plugin.bindingFor catalog schema
    return ⟨some step.value.registry, step.plugin, step.notices⟩
  else return ⟨none, plugin, []⟩

/-- A result without private members. Without data there is nothing to redact. -/
def redacted (registry : Registry) (query : Json) (operationName : Option String)
    (result : Option ExecutionResult) : Except Introspection.Failure (Option ExecutionResult) :=
  match result, query with
  | some result, .str text =>
    if result.data = .null then .ok (some result)
    else do
      let data ← Introspection.redactText registry text operationName result.data
      return some { result with data }
  | result, _ => .ok result

/-- Gives an operation to the plugin. If the plugin takes it over, `run` runs it, changing a state
of its own. -/
def execute {σ : Type} (plugin : Plugin) (catalog : Catalog)
    (run : σ → Except Fault (Option ExecutionResult) × σ) (state : σ) (query : Json)
    (operationName : Option String) (schema : Option Handle) :
    Except Fault Handling × Plugin × List Notice × σ :=
  match plugin.intercept catalog query schema with
  | .error error => (.error (.scan error), plugin, [], state)
  | .ok ⟨none, plugin, notices⟩ => (.ok .passed, plugin, notices, state)
  | .ok ⟨some registry, plugin, notices⟩ =>
    let (outcome, state) := run state
    let handling : Except Fault Handling :=
      match outcome with
      | .error fault => .error fault
      | .ok result =>
        match redacted (plugin.registryAt registry) query operationName result with
        | .error failure => .error (.redaction failure)
        | .ok result => .ok (.handled result)
    (handling, plugin, notices, state)

end Plugin

end SchemaVisibility
