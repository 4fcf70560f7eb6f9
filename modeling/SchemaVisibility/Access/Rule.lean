import SchemaVisibility.Access.Denial
import SchemaVisibility.Registry
import SchemaVisibility.Traversal.Scope

/-! # The access rule

The rule follows the visit of a document and denies every use of a declaration that the registry
holds: fields, arguments, input fields and enum values, and types where they are answered, taken or
declared. A field counts on every type that its parent can stand for, and on the interfaces of
these, so what is private on an interface is private on everything that implements it.

Introspection is exempt: what is private is taken out of its results and not denied.
-/

namespace SchemaVisibility.Access

open GraphQL

/-- What the rule remembers: the name of every entered field and whether it is exempt, innermost
first. -/
abbrev Memory := List (String × Bool)

/-- The object types that declare an interface, in the order of the type map. -/
def implementers (schema : Schema) (interface : String) : List TypeDefinition :=
  schema.types.filter fun type => type.isObject && type.interfaces.contains interface

/-- The object types that a composite type can stand for. -/
def objectsOf (schema : Schema) (parent : TypeDefinition) : List TypeDefinition :=
  match parent.content with
  | .object .. => [parent]
  | .union members => members.filterMap schema.definition?
  | .interface .. => implementers schema parent.name
  | _ => []

/-- The owners under which a field of a parent type may be private, each once: an interface itself,
then every object that the parent can stand for and the interfaces of that object. -/
def ownerNames (schema : Schema) (parent : TypeDefinition) : List String :=
  let own : List String :=
    match parent.content with
    | .interface .. => [parent.name]
    | _ => []
  (own ++ (objectsOf schema parent).flatMap fun object =>
    object.name :: object.interfaces).eraseDups

/-- Whether a field is exempt: it or its parent belongs to introspection, or its parent is
unknown. -/
def isExempt (scope : Scope) : Bool :=
  scope.output.any (fun type => Standard.isIntrospection type.core) ||
    match scope.parent with
    | none => true
    | some parent => Standard.isIntrospection parent.name

/-- Denies the use of a type that is private as a whole. -/
def checkType (registry : Registry) (position : Position) (type : Option TypeRef)
    (place : Place) : List Denial :=
  match type with
  | none => []
  | some type =>
    if registry.isPrivate Record.topLevel type.core then [⟨position, .type type.core place⟩]
    else []

/-- Denies the use of a private member of a type. -/
def checkMember (registry : Registry) (label : Label) (owner : String) : List Denial :=
  if registry.isPrivate owner label.text then [⟨label.position, .member label.text owner⟩] else []

/-- Denies a field on each of its owners, and then its type. -/
def checkField (registry : Registry) (schema : Schema) (scope : Scope) (head : FieldHead) :
    List Denial :=
  let owners := (scope.parent.map (ownerNames schema)).getD []
  owners.flatMap (checkMember registry ⟨head.position, head.name⟩) ++
    checkType registry head.position scope.output (.field head.name)

/-- Denies an argument of the innermost field, and then its type. Arguments of known directives are
no arguments of the field. -/
def checkArgument (registry : Registry) (scope : Scope) (memory : Memory) (label : Label) :
    List Denial :=
  match memory, scope.directive, scope.argument with
  | (field, false) :: _, none, some argument =>
    (if registry.isPrivate field label.text then
      [⟨label.position, .argument label.text field⟩] else []) ++
    checkType registry label.position (some argument.type) (.argument label.text)
  | _, _, _ => []

/-- Denies a field of an object literal. The literal stands for the type around the field's own,
else for the type of the argument. -/
def checkObjectField (registry : Registry) (schema : Schema) (scope : Scope) (label : Label) :
    List Denial :=
  match scope.outerInput.or (scope.argument.map InputDefinition.type) with
  | none => []
  | some type =>
    match schema.definition? type.core with
    | some ⟨name, _, .input _⟩ => checkMember registry label name
    | _ => []

/-- Denies an enum literal where a value of an enum is expected. -/
def checkEnumValue (registry : Registry) (schema : Schema) (scope : Scope) (label : Label) :
    List Denial :=
  match scope.input with
  | none => []
  | some type =>
    match schema.definition? type.core with
    | some ⟨name, _, .enum _⟩ => checkMember registry label name
    | _ => []

/-- What the rule does when a node was entered: what it remembers and denies. -/
def enter (registry : Registry) (schema : Schema) (scope : Scope) (memory : Memory) :
    Node → Memory × List Denial
  | .field head =>
    let exempt := isExempt scope
    ((head.name, exempt) :: memory,
      if exempt then [] else checkField registry schema scope head)
  | .argument label => (memory, checkArgument registry scope memory label)
  | .declaredVariable label _ =>
    (memory, checkType registry label.position scope.input (.variable label.text))
  | .objectField label => (memory, checkObjectField registry schema scope label)
  | .enumValue label => (memory, checkEnumValue registry schema scope label)
  | _ => (memory, [])

/-- What the rule remembers when a node is left. -/
def leave (memory : Memory) : Node → Memory
  | .field _ => memory.drop 1
  | _ => memory

end SchemaVisibility.Access
