import Mathlib.Data.List.Perm.Basic
import SchemaVisibility.Access.Validation
import SchemaVisibility.Proofs.Schema.Built

/-! # Visits

How a visit that one rule follows goes on: an event at a time (`run_enter`, `run_leave`), and cut in
two at any event (`run_append`). The scope at an event depends on the events before it and on
nothing else; it is `Schema.scopeAfter`. Its parents are always composite types of the schema
(`definition?_parent`).

Rules that follow a visit side by side do not know of each other: together they deny what each
denies alone (`denials_perm`), so copies of a rule repeat its denials (`denials_replicate_perm`).
-/

namespace SchemaVisibility

open GraphQL

/-! ### Scopes along a visit -/

namespace Schema

/-- The scope after one event. -/
def advance (schema : Schema) (scope : Scope) : Event → Scope
  | .enter node => schema.enter scope node
  | .leave node => scope.leave node

/-- The scope after events. -/
def scopeAfter (schema : Schema) (scope : Scope) (events : List Event) : Scope :=
  events.foldl schema.advance scope

theorem scopeAfter_enter (schema : Schema) (scope : Scope) (events : List Event) (node : Node) :
    schema.scopeAfter scope (events ++ [.enter node]) =
      schema.enter (schema.scopeAfter scope events) node := by
  rw [scopeAfter, List.foldl_append]
  rfl

/-- The parents are composite types that their names stand for. -/
def Knows (schema : Schema) (scope : Scope) : Prop :=
  ∀ parent, some parent ∈ scope.parents →
    schema.definition? parent.name = some parent ∧ parent.isComposite = true

variable {schema : Schema} {scope : Scope}

theorem knows_enter (h : schema.Knows scope) (node : Node) :
    schema.Knows (schema.enter scope node) := by
  intro parent hp
  cases node with
  | selectionSet =>
    rcases List.mem_cons.mp hp with hp | hp
    · obtain ⟨hdefined, hcomposite⟩ := Option.filter_eq_some_iff.mp hp.symm
      obtain ⟨type, -, htype⟩ := Option.bind_eq_some_iff.mp hdefined
      exact ⟨name_of_definition? htype ▸ htype, hcomposite⟩
    · exact h parent hp
  | inline condition => cases condition <;> exact h parent hp
  | _ => exact h parent hp

theorem knows_leave (h : schema.Knows scope) (node : Node) : schema.Knows (scope.leave node) := by
  intro parent hp
  cases node with
  | selectionSet => exact h parent (List.mem_of_mem_drop hp)
  | _ => exact h parent hp

/-- All parents along a visit are known. -/
theorem knows_scopeAfter (h : schema.Knows scope) (events : List Event) :
    schema.Knows (schema.scopeAfter scope events) := by
  induction events generalizing scope with
  | nil => exact h
  | cons event events ih =>
    cases event with
    | enter node => exact ih (knows_enter h node)
    | leave node => exact ih (knows_leave h node)

theorem knows_empty : schema.Knows .empty :=
  nofun

/-- The parent at an event of a visit. -/
theorem definition?_parent {events : List Event} {parent : TypeDefinition}
    (h : (schema.scopeAfter .empty events).parent = some parent) :
    schema.definition? parent.name = some parent ∧ parent.isComposite = true := by
  refine knows_scopeAfter knows_empty events parent ?_
  rw [Scope.parent, Option.join_eq_some_iff] at h
  exact List.mem_of_mem_head? h

end Schema

namespace Access.Visit

variable {registry : Registry} {schema : Schema} {scope : Scope} {memory : Memory}

/-- The state of a visit that one rule follows. -/
def single (registry : Registry) (scope : Scope) (memory : Memory) : Visit :=
  ⟨scope, [(registry, memory)]⟩

theorem run_enter (node : Node) (rest : List Event) :
    run schema (single registry scope memory) (.enter node :: rest) =
      (enter registry schema (schema.enter scope node) memory node).2 ++
        run schema (single registry (schema.enter scope node)
          (enter registry schema (schema.enter scope node) memory node).1) rest := by
  simp [run, step, single]

theorem run_leave (node : Node) (rest : List Event) :
    run schema (single registry scope memory) (.leave node :: rest) =
      run schema (single registry (scope.leave node) (leave memory node)) rest := rfl

/-- What is denied after some events, with whatever the rule then remembers. -/
theorem run_append (events rest : List Event) : ∀ (scope : Scope) (memory : Memory),
    ∃ inside : Memory, run schema (single registry scope memory) (events ++ rest) =
      run schema (single registry scope memory) events ++
        run schema (single registry (schema.scopeAfter scope events) inside) rest := by
  induction events with
  | nil => exact fun scope memory => ⟨memory, rfl⟩
  | cons event events ih =>
    intro scope memory
    cases event with
    | enter node =>
      obtain ⟨inside, h⟩ := ih (schema.enter scope node)
        (enter registry schema (schema.enter scope node) memory node).1
      refine ⟨inside, ?_⟩
      rw [List.cons_append, run_enter, run_enter, h, List.append_assoc]
      rfl
    | leave node => exact ih (scope.leave node) (leave memory node)

/-! ### Rules side by side -/

/-- What rules deny together is, in another order, what each of them denies alone. -/
theorem run_perm (events : List Event) : ∀ (scope : Scope) (rules : List (Registry × Memory)),
    (run schema ⟨scope, rules⟩ events).Perm
      (rules.flatMap fun rule => run schema ⟨scope, [rule]⟩ events) := by
  induction events with
  | nil =>
    intro scope rules
    simp [run]
  | cons event events ih =>
    intro scope rules
    cases event with
    | enter node =>
      -- the denials at this node, and those of the visit that goes on from it
      have hrest := ih (schema.enter scope node)
        (rules.map fun rule => (rule.1,
          (enter rule.1 schema (schema.enter scope node) rule.2 node).1))
      rw [List.flatMap_map] at hrest
      simp only [run, step, List.map_map, List.flatMap_map, List.map_cons, List.map_nil,
        List.flatMap_cons, List.flatMap_nil, List.append_nil]
      exact (hrest.append_left _).trans (List.flatMap_append_perm rules _ _)
    | leave node =>
      have hrest := ih (scope.leave node) (rules.map fun rule => (rule.1, leave rule.2 node))
      rw [List.flatMap_map] at hrest
      exact hrest

end Access.Visit

namespace Access

theorem denials_perm (schema : Schema) (registries : List Registry) (document : Document) :
    (denials schema registries document).Perm
      (registries.flatMap fun registry => denials schema [registry] document) := by
  have h : (denials schema registries document).Perm _ := Visit.run_perm document.events .empty
    (registries.map fun registry => (registry, []))
  rwa [List.flatMap_map] at h

/-- Copies of a rule repeat what it denies. -/
theorem denials_replicate_perm (schema : Schema) (registry : Registry) (document : Document)
    (copies : ℕ) :
    (denials schema (List.replicate copies registry) document).Perm
      (List.replicate copies (denials schema [registry] document)).flatten := by
  have h := denials_perm schema (List.replicate copies registry) document
  rwa [List.flatMap_def, List.map_replicate] at h

end Access

end SchemaVisibility
