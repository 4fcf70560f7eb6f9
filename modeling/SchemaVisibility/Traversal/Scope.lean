import SchemaVisibility.Schema.Basic
import SchemaVisibility.Traversal.Event

/-! # Scopes

While a document is visited, a scope tells what the types around the visit are: the types that are
answered, the parents of selections, the fields that are entered, the types of the values that are
given, and the directive and the argument that the visit is in. Entering a node puts something on
top of these stacks and leaving it takes it away again. Where a name is not known, the stack holds
`none`.
-/

namespace SchemaVisibility.GraphQL

/-- What is known about types at a point of the visit. Stacks have their top in front. -/
structure Scope where
  /-- Types of the answers. -/
  outputs : List (Option TypeRef)
  /-- Parent types of the selections. -/
  parents : List (Option TypeDefinition)
  /-- Definitions of the entered fields. -/
  fields : List (Option FieldDefinition)
  /-- Types of the given values. -/
  inputs : List (Option TypeRef)
  /-- The directive that was entered last, if it is known and was not left. -/
  directive : Option DirectiveDefinition
  /-- The argument that was entered last, if it is known and was not left. -/
  argument : Option InputDefinition

namespace Scope

/-- The scope outside every definition. -/
def empty : Scope :=
  ⟨[], [], [], [], none, none⟩

/-- The type answered here. -/
def output (scope : Scope) : Option TypeRef :=
  scope.outputs.head?.join

/-- The type whose fields are selected here. -/
def parent (scope : Scope) : Option TypeDefinition :=
  scope.parents.head?.join

/-- The definition of the innermost field. -/
def field (scope : Scope) : Option FieldDefinition :=
  scope.fields.head?.join

/-- The type of the value given here. -/
def input (scope : Scope) : Option TypeRef :=
  scope.inputs.head?.join

/-- The type of the value around the one given here. -/
def outerInput (scope : Scope) : Option TypeRef :=
  (scope.inputs.drop 1).head?.join

/-- The arguments that are taken here: those of the directive, else those of the field. -/
def argumentsHere (scope : Scope) : List InputDefinition :=
  match scope.directive with
  | some directive => directive.arguments
  | none => (scope.field.map FieldDefinition.arguments).getD []

/-- The scope after a node is left. -/
def leave (scope : Scope) : Node → Scope
  | .operation _ | .fragment _ | .inline _ => { scope with outputs := scope.outputs.drop 1 }
  | .selectionSet => { scope with parents := scope.parents.drop 1 }
  | .field _ =>
    { scope with fields := scope.fields.drop 1, outputs := scope.outputs.drop 1 }
  | .directive _ => { scope with directive := none }
  | .argument _ => { scope with argument := none, inputs := scope.inputs.drop 1 }
  | .declaredVariable .. | .list | .objectField _ =>
    { scope with inputs := scope.inputs.drop 1 }
  | .enumValue _ => scope

end Scope

end GraphQL

namespace Schema

open GraphQL

/-- A reference, if the type at its core can be answered. -/
def asOutput (schema : Schema) (type : TypeRef) : Option TypeRef :=
  if (schema.definition? type.core).any TypeDefinition.isOutput then some type else none

/-- A reference, if values of the type at its core can be given. -/
def asInput (schema : Schema) (type : TypeRef) : Option TypeRef :=
  if (schema.definition? type.core).any TypeDefinition.isInput then some type else none

/-- The type that a condition names, if it can be answered. -/
def conditionType (schema : Schema) (name : String) : Option TypeRef :=
  if (schema.named? name).any TypeDefinition.isOutput then some (.named name) else none

/-- The type that a variable is declared with, if its name is known and values can be given. -/
def variableType (schema : Schema) (type : TypeRef) : Option TypeRef :=
  if (schema.named? type.core).any TypeDefinition.isInput then some type else none

/-- The root type of a kind of operation, if it is an object. -/
def rootType (schema : Schema) (kind : OperationKind) : Option TypeRef :=
  match schema.root? kind with
  | some name =>
    if (schema.definition? name).any TypeDefinition.isObject then some (.named name) else none
  | none => none

/-- The definition of a field of a parent type. The fields of introspection belong to the query root
and `__typename` to every composite type. -/
def fieldOf? (schema : Schema) (parent : TypeDefinition) (name : String) :
    Option FieldDefinition :=
  let isQueryRoot := schema.root? .query = some parent.name
  if name = "__schema" && isQueryRoot then some Standard.schemaField
  else if name = "__type" && isQueryRoot then some Standard.typeField
  else if name = "__typename" && parent.isComposite then some Standard.typenameField
  else parent.field? name

/-- The type of an object literal's field: that of the input object's field of its name. -/
def objectFieldType (schema : Schema) (object : Option TypeRef) (name : String) :
    Option TypeRef := do
  let object ← object
  let definition ← schema.definition? object.core
  let fields ← definition.inputFields?
  let field ← fields.find? fun field => field.name = name
  schema.asInput field.type

/-- The type of the items where a value of the given type is expected: the item type of a list, and
the type itself, never null, where it is no list. -/
def itemType (schema : Schema) (list : Option TypeRef) : Option TypeRef := do
  let list ← list
  match list.nullable with
  | .list item => schema.asInput item
  | other => schema.asInput other

/-- The scope after a node is entered. -/
def enter (schema : Schema) (scope : Scope) : Node → Scope
  | .operation kind => { scope with outputs := schema.rootType kind :: scope.outputs }
  | .fragment condition => { scope with outputs := schema.conditionType condition :: scope.outputs }
  | .inline (some condition) =>
    { scope with outputs := schema.conditionType condition :: scope.outputs }
  | .inline none =>
    let type := scope.output.bind fun type => schema.asOutput (.named type.core)
    { scope with outputs := type :: scope.outputs }
  | .selectionSet =>
    let parent := (scope.output.bind fun type => schema.definition? type.core).filter
      TypeDefinition.isComposite
    { scope with parents := parent :: scope.parents }
  | .field head =>
    let field := scope.parent.bind fun parent => schema.fieldOf? parent head.name
    let type := field.bind fun field => schema.asOutput field.type
    { scope with fields := field :: scope.fields, outputs := type :: scope.outputs }
  | .directive name => { scope with directive := schema.directive? name }
  | .argument label =>
    let argument := scope.argumentsHere.find? fun argument => argument.name = label.text
    let type := argument.bind fun argument => schema.asInput argument.type
    { scope with argument, inputs := type :: scope.inputs }
  | .declaredVariable _ type =>
    { scope with inputs := schema.variableType type :: scope.inputs }
  | .list => { scope with inputs := schema.itemType scope.input :: scope.inputs }
  | .objectField label =>
    { scope with inputs := schema.objectFieldType scope.input label.text :: scope.inputs }
  | .enumValue _ => scope

end Schema

end SchemaVisibility
