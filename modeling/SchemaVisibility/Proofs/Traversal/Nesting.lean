import SchemaVisibility.Proofs.Access.Visit

/-! # The nodes around a point of a visit

A visit enters nodes and leaves them again. At every point of it there are nodes that were entered
and not left, the nodes around that point (`Event.enclosing`). A scope is kept up along the whole
visit, but it says no more than what these nodes say: leaving a node undoes what entering it did, so
the scope at a point is the one in which its nodes are entered one after the other and nothing else
is (`scopeAfter_eq_scopeIn`).

What is expected of a value can then be read off the nodes around it. `Schema.expected` and
`Schema.argumentAround` do so by recursion, from the inside out.
-/

namespace SchemaVisibility

open GraphQL

namespace GraphQL.Event

/-- The nodes around the visit after one more event, innermost first. -/
def enclose (around : List Node) : Event → List Node
  | .enter node => node :: around
  | .leave _ => around.tail

/-- The nodes that events enter and do not leave, innermost first. -/
def enclosing (events : List Event) : List Node :=
  events.foldl enclose []

end GraphQL.Event

namespace Schema

variable {schema : Schema} {around : List Node}

/-- The scope inside nodes: they are entered from the outermost to the innermost. -/
def scopeIn (schema : Schema) : List Node → Scope
  | [] => .empty
  | node :: around => schema.enter (schema.scopeIn around) node

/-! ### What is expected of a value -/

/-- What the schema says about an argument that is given inside nodes. -/
def argumentAt (schema : Schema) (around : List Node) (label : Label) : Option InputDefinition :=
  (schema.scopeIn around).argumentsHere.find? fun argument => argument.name = label.text

/-- The type that is expected of a value inside nodes. An argument and a variable say themselves
what they expect, items what the list around them does, and the value of an object field what the
literal around it does. -/
def expected (schema : Schema) : List Node → Option TypeRef
  | [] => none
  | .argument label :: around =>
    (schema.argumentAt around label).bind fun argument => schema.asInput argument.type
  | .declaredVariable _ type :: _ => schema.variableType type
  | .list :: around => schema.itemType (schema.expected around)
  | .objectField label :: around => schema.objectFieldType (schema.expected around) label.text
  | _ :: around => schema.expected around

/-- What the schema says about the innermost argument around a point. -/
def argumentAround (schema : Schema) : List Node → Option InputDefinition
  | [] => none
  | .argument label :: around => schema.argumentAt around label
  | _ :: around => schema.argumentAround around

/-- **The type that a scope expects is the one that the nodes around expect.** -/
theorem input_scopeIn (schema : Schema) (around : List Node) :
    (schema.scopeIn around).input = schema.expected around := by
  induction around with
  | nil => rfl
  | cons node around ih =>
    cases node with
    | argument | declaredVariable => rfl
    | list =>
      rw [expected, ← ih]
      rfl
    | objectField label =>
      rw [expected, ← ih]
      rfl
    | inline condition => cases condition <;> exact ih
    | operation | fragment | selectionSet | field | directive | enumValue => exact ih

theorem argument_scopeIn (schema : Schema) (around : List Node) :
    (schema.scopeIn around).argument = schema.argumentAround around := by
  induction around with
  | nil => rfl
  | cons node around ih =>
    cases node with
    | argument => rfl
    | inline condition => cases condition <;> exact ih
    | _ => exact ih

/-! ### Visits in which leaving undoes entering -/

/-- Inside nodes these events go on: every node is left that was entered last, and then all is as
before it was entered. -/
inductive Follows (schema : Schema) : List Node → List Event → Prop
  | nil {around : List Node} : Follows schema around []
  | enter {around : List Node} {node : Node} {rest : List Event} :
      Follows schema (node :: around) rest → Follows schema around (.enter node :: rest)
  | leave {around : List Node} {node : Node} {rest : List Event} :
      (schema.scopeIn (node :: around)).leave node = schema.scopeIn around →
      Follows schema around rest → Follows schema (node :: around) (.leave node :: rest)

/-- The scope after the first events is the one inside the nodes that are then around. -/
theorem Follows.scopeAfter {before after : List Event}
    (h : schema.Follows around (before ++ after)) :
    schema.scopeAfter (schema.scopeIn around) before =
      schema.scopeIn (before.foldl Event.enclose around) := by
  induction before generalizing around with
  | nil => rfl
  | cons event before ih =>
    cases h with
    | enter h => exact ih h
    | @leave around node _ hundo h =>
      have hrest := ih h
      rw [← hundo] at hrest
      exact hrest

/-- Events that can be put in front of any others inside the nodes. -/
def Nests (schema : Schema) (around : List Node) (events : List Event) : Prop :=
  ∀ rest, schema.Follows around rest → schema.Follows around (events ++ rest)

namespace Nests

theorem nil : schema.Nests around [] :=
  fun _ h => h

theorem append {events more : List Event} (h : schema.Nests around events)
    (hmore : schema.Nests around more) : schema.Nests around (events ++ more) := by
  intro rest hrest
  rw [List.append_assoc]
  exact h _ (hmore _ hrest)

theorem flatMap {α : Type} {events : α → List Event}
    (h : ∀ part, schema.Nests around (events part)) (parts : List α) :
    schema.Nests around (parts.flatMap events) := by
  induction parts with
  | nil => exact nil
  | cons part parts ih => exact (h part).append ih

/-- A node around its parts, if leaving it undoes what entering it did. -/
theorem node {node : Node} {parts : List Event} {outside : List Node}
    (hundo : (schema.scopeIn (node :: outside)).leave node = schema.scopeIn outside)
    (h : schema.Nests (node :: outside) parts) :
    schema.Nests outside (Event.around node parts) := by
  intro rest hrest
  rw [Event.around, List.cons_append, List.cons_append, List.append_assoc]
  exact .enter (h _ (.leave hundo hrest))

end Nests

/-! ### The visit of a document -/

mutual

theorem nests_value (around : List Node) : ∀ value : Value, schema.Nests around value.events
  | .list items => .node rfl (nests_items _ items)
  | .object fields => nests_objectFields around fields
  | .enum _ => .node rfl .nil
  | .var _ | .int _ | .float _ | .str _ | .bool _ | .null => .nil

theorem nests_items (around : List Node) : ∀ items : List Value,
    schema.Nests around (Value.eventsOfItems items)
  | [] => .nil
  | item :: rest => (nests_value around item).append (nests_items around rest)

theorem nests_objectFields (around : List Node) : ∀ fields : List (Label × Value),
    schema.Nests around (Value.eventsOfFields fields)
  | [] => .nil
  | (_, value) :: rest =>
    (Nests.node rfl (nests_value _ value)).append (nests_objectFields around rest)

end

theorem nests_default (around : List Node) (value : Option Value) :
    schema.Nests around (Value.eventsOfDefault value) := by
  cases value with
  | none => exact .nil
  | some value => exact nests_value around value

/-- No directive and no argument is around. Neither is kept on a stack, so leaving one undoes
entering it only where there was none before. -/
structure Vacant (schema : Schema) (around : List Node) : Prop where
  directive : (schema.scopeIn around).directive = none
  argument : (schema.scopeIn around).argument = none

theorem vacant_nil : schema.Vacant [] :=
  ⟨rfl, rfl⟩

/-- A node that is no directive and no argument leaves both as they are. -/
theorem Vacant.inside {node : Node} (h : schema.Vacant around)
    (hdirective : (schema.scopeIn (node :: around)).directive = (schema.scopeIn around).directive)
    (hargument : (schema.scopeIn (node :: around)).argument = (schema.scopeIn around).argument) :
    schema.Vacant (node :: around) :=
  ⟨hdirective.trans h.directive, hargument.trans h.argument⟩

theorem nests_argument (h : (schema.scopeIn around).argument = none) (argument : Argument) :
    schema.Nests around argument.events := by
  refine .node ?_ (nests_value _ argument.value)
  rw [Scope.leave, ← h]
  rfl

theorem nests_directives (h : schema.Vacant around) (directives : List Directive) :
    schema.Nests around (Directive.eventsOfAll directives) := by
  refine .flatMap (fun directive => .node ?_ ?_) directives
  · rw [Scope.leave, ← h.directive]
    rfl
  · have hargument : (schema.scopeIn (.directive directive.name :: around)).argument = none :=
      h.argument
    exact .flatMap (nests_argument hargument) directive.arguments

theorem Vacant.inline (h : schema.Vacant around) (condition : Option String) :
    schema.Vacant (.inline condition :: around) := by
  cases condition <;> exact h.inside rfl rfl

mutual

theorem nests_selection {around : List Node} (h : schema.Vacant around) :
    ∀ selection : Selection, schema.Nests around selection.events
  | .field head selections => by
    have hfield : schema.Vacant (.field head :: around) := h.inside rfl rfl
    have hbelow : schema.Nests (.field head :: around)
        (if selections.isEmpty then []
          else Event.around .selectionSet (Selection.eventsOfAll selections)) := by
      cases selections with
      | nil => exact .nil
      | cons selection rest =>
        exact .node rfl (nests_selections (hfield.inside rfl rfl) (selection :: rest))
    exact .node rfl (((Nests.flatMap (nests_argument hfield.argument) head.arguments).append
      (nests_directives hfield head.directives)).append hbelow)
  | .inline condition directives selections => by
    have hinline := h.inline condition
    have hset : schema.Vacant (.selectionSet :: .inline condition :: around) :=
      hinline.inside rfl rfl
    have hparts := (nests_directives hinline directives).append
      (.node rfl (nests_selections hset selections))
    cases condition <;> exact .node rfl hparts
  | .spread _ directives => nests_directives h directives

theorem nests_selections {around : List Node} (h : schema.Vacant around) :
    ∀ selections : List Selection, schema.Nests around (Selection.eventsOfAll selections)
  | [] => .nil
  | selection :: rest => (nests_selection h selection).append (nests_selections h rest)

end

theorem nests_variable (h : schema.Vacant around) (definition : VariableDefinition) :
    schema.Nests around definition.events :=
  .node rfl ((nests_default _ definition.default).append
    (nests_directives (h.inside rfl rfl) definition.directives))

theorem nests_input (definition : InputDefinition) : schema.Nests [] definition.events :=
  (nests_default [] definition.default).append (nests_directives vacant_nil definition.directives)

theorem nests_content : ∀ content : TypeContent, schema.Nests [] content.events
  | .scalar | .union _ => .nil
  | .object _ fields | .interface _ fields => .flatMap (fun field =>
    (Nests.flatMap nests_input field.arguments).append
      (nests_directives vacant_nil field.directives)) fields
  | .enum values => .flatMap (fun value => nests_directives vacant_nil value.directives) values
  | .input fields => .flatMap nests_input fields

theorem nests_definition : ∀ definition : Definition, schema.Nests [] definition.events
  | .operation operation => by
    have hinside : schema.Vacant [.operation operation.kind] := ⟨rfl, rfl⟩
    exact .node rfl (((Nests.flatMap (nests_variable hinside)
      operation.variableDefinitions).append (nests_directives hinside operation.directives)).append
      (.node rfl (nests_selections ⟨rfl, rfl⟩ operation.selections)))
  | .fragment named => by
    have hinside : schema.Vacant [.fragment named.condition] := ⟨rfl, rfl⟩
    exact .node rfl ((nests_directives hinside named.directives).append
      (.node rfl (nests_selections ⟨rfl, rfl⟩ named.selections)))
  | .root definition | .rootExtension definition =>
    nests_directives vacant_nil definition.directives
  | .type named | .typeExtension named =>
    (nests_directives vacant_nil named.directives).append (nests_content named.content)
  | .directive definition => .flatMap nests_input definition.arguments

/-- In the visit of a document, leaving undoes entering. -/
theorem follows_events (schema : Schema) (document : Document) :
    schema.Follows [] document.events := by
  have h : schema.Nests [] document.events := .flatMap nests_definition document.definitions
  have hfollows := h [] .nil
  rwa [List.append_nil] at hfollows

/-- **A scope says what the nodes around say.** At every point of the visit of a document the scope
is the one inside the nodes that were entered and not left. -/
theorem scopeAfter_eq_scopeIn (schema : Schema) {document : Document} {before after : List Event}
    (h : document.events = before ++ after) :
    schema.scopeAfter .empty before = schema.scopeIn (Event.enclosing before) :=
  (h ▸ schema.follows_events document).scopeAfter

end Schema

end SchemaVisibility
