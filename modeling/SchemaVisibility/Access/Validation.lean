import SchemaVisibility.Access.Rule

/-! # Validation

Rules follow the visit of a document side by side: at every node each of them is asked in turn. The
report of a validation lists their denials in that order. After a hundred of them the next one ends
the validation and is reported as such.
-/

namespace SchemaVisibility.Access

open GraphQL

/-- What a validation reports. -/
inductive Report where
  | denied (denial : Denial)
  /-- There were too many denials, and the validation was given up. -/
  | tooMany
  deriving DecidableEq, Repr

/-- The wording of a report. -/
def Report.message : Report → String
  | .denied denial => denial.message
  | .tooMany => "Too many validation errors, error limit reached. Validation aborted."

/-- Why a validation does not start: a rule was not bound to a registry. -/
inductive RuleError where
  | unbound
  deriving DecidableEq, Repr

/-- The wording of the error. -/
def RuleError.message : RuleError → String
  | .unbound =>
    "PrivateFieldValidationRule has no registry, build it with create_private_field_rule(registry)"

/-- The name of the rule. -/
def ruleName : String := "PrivateFieldValidationRule"

/-- The state of a visit: the scope, and each rule's registry and memory. -/
structure Visit where
  scope : Scope
  rules : List (Registry × Memory)

namespace Visit

/-- The state before the first event. -/
def start (registries : List Registry) : Visit :=
  ⟨.empty, registries.map fun registry => (registry, [])⟩

/-- One event: the state after it, and the denials of the rules in turn. -/
def step (schema : Schema) (visit : Visit) : Event → Visit × List Denial
  | .enter node =>
    let scope := schema.enter visit.scope node
    let answers := visit.rules.map fun (registry, memory) =>
      (registry, enter registry schema scope memory node)
    (⟨scope, answers.map fun (registry, memory, _) => (registry, memory)⟩,
      answers.flatMap fun (_, _, denials) => denials)
  | .leave node =>
    (⟨visit.scope.leave node, visit.rules.map fun (registry, memory) =>
      (registry, leave memory node)⟩, [])

/-- The denials of a run of events. -/
def run (schema : Schema) : Visit → List Event → List Denial
  | _, [] => []
  | visit, event :: rest =>
    let (visit, denials) := visit.step schema event
    denials ++ run schema visit rest

end Visit

/-- The denials of rules on a document, without a limit. -/
def denials (schema : Schema) (registries : List Registry) (document : Document) : List Denial :=
  Visit.run schema (Visit.start registries) document.events

/-- The number of denials that a validation reports at most. -/
def limit : Nat := 100

/-- The report of denials: all of them, or the first ones and that there were too many. -/
def reportOf (denials : List Denial) : List Report :=
  (denials.take limit).map .denied ++ if limit < denials.length then [.tooMany] else []

/-- Validates a document with rules bound to registries; an unbound rule refuses to run. -/
def validate (schema : Schema) (rules : List (Option Registry)) (document : Document) :
    Except RuleError (List Report) :=
  match rules.mapM id with
  | none => .error .unbound
  | some registries => .ok (reportOf (denials schema registries document))

end SchemaVisibility.Access
