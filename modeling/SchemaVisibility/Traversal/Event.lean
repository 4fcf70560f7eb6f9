import SchemaVisibility.GraphQL.Document

/-! # Traversal of a document

A document is visited depth first in the order of its text, fragments and operations alike whether
they are used or not. The visit is a list of events: a node is entered, its parts are visited, and
the node is left. Only nodes that types or rules depend on have events.
-/

namespace SchemaVisibility.GraphQL

/-- A node of a document that is entered and left. -/
inductive Node where
  | operation (kind : OperationKind)
  | fragment (condition : String)
  | inline (condition : Option String)
  | selectionSet
  | field (head : FieldHead)
  | directive (name : String)
  | argument (label : Label)
  | declaredVariable (label : Label) (type : TypeRef)
  | list
  | objectField (label : Label)
  | enumValue (label : Label)
  deriving Repr

/-- A step of the visit. -/
inductive Event where
  | enter (node : Node)
  | leave (node : Node)
  deriving Repr

/-- A node around the visit of its parts. -/
def Event.around (node : Node) (parts : List Event) : List Event :=
  .enter node :: parts ++ [.leave node]

mutual

/-- The visit of a literal. -/
def Value.events : Value → List Event
  | .list items => Event.around .list (Value.eventsOfItems items)
  | .object fields => Value.eventsOfFields fields
  | .enum label => Event.around (.enumValue label) []
  | _ => []

/-- The visit of the items of a list literal. -/
def Value.eventsOfItems : List Value → List Event
  | [] => []
  | item :: rest => Value.events item ++ Value.eventsOfItems rest

/-- The visit of the fields of an object literal. -/
def Value.eventsOfFields : List (Label × Value) → List Event
  | [] => []
  | (label, value) :: rest =>
    Event.around (.objectField label) (Value.events value) ++ Value.eventsOfFields rest

end

/-- The visit of a default value, if there is one. -/
def Value.eventsOfDefault (value : Option Value) : List Event :=
  (value.map Value.events).getD []

/-- The visit of an argument. -/
def Argument.events (argument : Argument) : List Event :=
  Event.around (.argument argument.label) argument.value.events

/-- The visit of a directive. -/
def Directive.events (directive : Directive) : List Event :=
  Event.around (.directive directive.name) (directive.arguments.flatMap Argument.events)

/-- The visit of directives. -/
def Directive.eventsOfAll (directives : List Directive) : List Event :=
  directives.flatMap Directive.events

mutual

/-- The visit of a selection. A field has a selection set only if something is selected. -/
def Selection.events : Selection → List Event
  | .field head selections =>
    let below := Selection.eventsOfAll selections
    Event.around (.field head) (head.arguments.flatMap Argument.events ++
      Directive.eventsOfAll head.directives ++
      if selections.isEmpty then [] else Event.around .selectionSet below)
  | .inline condition directives selections =>
    Event.around (.inline condition) (Directive.eventsOfAll directives ++
      Event.around .selectionSet (Selection.eventsOfAll selections))
  | .spread _ directives => Directive.eventsOfAll directives

/-- The visit of selections. -/
def Selection.eventsOfAll : List Selection → List Event
  | [] => []
  | selection :: rest => Selection.events selection ++ Selection.eventsOfAll rest

end

/-- The visit of the declaration of a variable. -/
def VariableDefinition.events (definition : VariableDefinition) : List Event :=
  Event.around (.declaredVariable definition.label definition.type)
    (Value.eventsOfDefault definition.default ++ Directive.eventsOfAll definition.directives)

/-- The visit of an operation. -/
def Operation.events (operation : Operation) : List Event :=
  Event.around (.operation operation.kind)
    (operation.variableDefinitions.flatMap VariableDefinition.events ++
      Directive.eventsOfAll operation.directives ++
      Event.around .selectionSet (Selection.eventsOfAll operation.selections))

/-- The visit of a fragment. -/
def Fragment.events (fragment : Fragment) : List Event :=
  Event.around (.fragment fragment.condition)
    (Directive.eventsOfAll fragment.directives ++
      Event.around .selectionSet (Selection.eventsOfAll fragment.selections))

/-- The visit of an argument or input field definition. -/
def InputDefinition.events (definition : InputDefinition) : List Event :=
  Value.eventsOfDefault definition.default ++ Directive.eventsOfAll definition.directives

/-- The visit of a field definition. -/
def FieldDefinition.events (definition : FieldDefinition) : List Event :=
  definition.arguments.flatMap InputDefinition.events ++
    Directive.eventsOfAll definition.directives

/-- The visit of what a type consists of. -/
def TypeContent.events : TypeContent → List Event
  | .scalar | .union _ => []
  | .object _ fields | .interface _ fields => fields.flatMap FieldDefinition.events
  | .enum values => values.flatMap fun value => Directive.eventsOfAll value.directives
  | .input fields => fields.flatMap InputDefinition.events

/-- The visit of a definition. -/
def Definition.events : Definition → List Event
  | .operation op => op.events
  | .fragment named => named.events
  | .root schema | .rootExtension schema => Directive.eventsOfAll schema.directives
  | .type named | .typeExtension named =>
    Directive.eventsOfAll named.directives ++ named.content.events
  | .directive named => named.arguments.flatMap InputDefinition.events

/-- The visit of a document. -/
def Document.events (document : Document) : List Event :=
  document.definitions.flatMap Definition.events

end SchemaVisibility.GraphQL
