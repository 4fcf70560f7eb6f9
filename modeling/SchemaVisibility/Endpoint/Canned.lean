import SchemaVisibility.Access.Validation
import SchemaVisibility.Endpoint.View
import SchemaVisibility.Schema.Validity

/-! # The canned engine

An engine for rehearsals: it does not run operations but hands out prepared data, one after the
other. It checks operations with the rules that the view added and with no others, and remembers
all that it was asked to do.
-/

namespace SchemaVisibility.Endpoint

open GraphQL

/-- The state of the canned engine. -/
structure Canned where
  /-- What it was asked to do, latest first. -/
  seen : List Call
  /-- The data that are left. -/
  data : List Json

namespace Canned

/-- The engine before its first operation. -/
def start (data : List Json) : Canned :=
  ⟨[], data⟩

/-- A report as an error of a result. -/
def errorOf (report : Access.Report) : ResponseError :=
  match report with
  | .denied denial => ⟨report.message, some denial.position, some Access.Denial.code⟩
  | .tooMany => .ofMessage report.message

/-- The errors of an operation text under the added rules, or why it cannot be checked. -/
def check (schema : Schema) (added : List Registry) (query : Json) :
    Except Fault (List ResponseError) :=
  match query with
  | .str text =>
    match Document.parse text with
    | .error _ => .ok [.ofMessage "syntax error"]
    | .ok document =>
      if schema.isValid then
        .ok ((Access.reportOf (Access.denials schema added document)).map errorOf)
      else .error .invalidSchema
  | _ => .ok [.ofMessage "syntax error"]

/-- Answers a call: with a fault if there is no query, with errors if the checks fail, and else with
the next data. -/
def run (schema : Schema) : Engine Canned := fun call state =>
  let state := { state with seen := call :: state.seen }
  if !call.params.query.truthy then
    (.error (.badRequest "Must provide query string."), state)
  else
    match check schema call.added call.params.query with
    | .error fault => (.error fault, state)
    | .ok (error :: errors) => (.ok (some ⟨.null, error :: errors⟩), state)
    | .ok [] =>
      match state.data with
      | [] => (.ok (some ⟨.null, []⟩), state)
      | data :: rest => (.ok (some ⟨data, []⟩), { state with data := rest })

end Canned

end SchemaVisibility.Endpoint
