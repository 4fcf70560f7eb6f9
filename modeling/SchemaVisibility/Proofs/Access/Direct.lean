import SchemaVisibility.Access.Validation
import SchemaVisibility.Proofs.Traversal.Static

/-! # Denials by direct recursion

What the access rule denies, written down along the structure of a document. No state is kept:
everything that a denial depends on is passed down as an argument, namely the type that a selection
set is answered with and the parent type of its fields, the innermost field around a part of the
document, the directive around it if it is known, the argument around it, and the type of the value
that is expected. What is private is read off the records themselves.

`Direct.ofDocument` is the list of all denials. The rule itself sees a document only as a sequence
of nodes that are entered and left; that it comes to the same list is `denials_eq_direct` of
`Proofs.Access.Refinement`.
-/

namespace SchemaVisibility.Access

open GraphQL

/-- The innermost field around a part of a document. -/
structure Innermost where
  name : String
  exempt : Bool
  /-- What the schema says about the field, if its parent type has it. -/
  definition : Option FieldDefinition

namespace Direct

variable (registry : Registry) (schema : Schema)

/-- Whether a field is exempt: its parent is unknown, or it or its parent belongs to
introspection. -/
def exempt (parent : Option TypeDefinition) (type : Option TypeRef) : Bool :=
  type.any (fun type => Standard.isIntrospection type.core) ||
    parent.all fun parent => Standard.isIntrospection parent.name

/-! ## What is denied at a node -/

/-- A denial, if there is a record of this owner and this name. -/
def due (owner name : String) (denial : Denial) : List Denial :=
  if ⟨owner, name⟩ ∈ registry.records then [denial] else []

/-- A type is denied if there is a record of it as a whole. -/
def deniedType (position : Position) (type : Option TypeRef) (place : Place) : List Denial :=
  match type with
  | some type => due registry Record.topLevel type.core ⟨position, .type type.core place⟩
  | none => []

/-- An object type and its interfaces. -/
def objectNames (object : TypeDefinition) : List String :=
  object.name :: object.interfaces

/-- The owners of the fields of a parent type, each once, where it stands first. Those of an object
are the object and its interfaces, those of a union are those of its members, and those of an
interface are the interface and the owners of every object type that implements it. -/
def owners (parent : TypeDefinition) : List String :=
  let all : List String :=
    match parent.content with
    | .object .. => objectNames parent
    | .union members =>
      members.flatMap fun member => ((schema.definition? member).map objectNames).getD []
    | .interface .. =>
      let objects := schema.types.filter fun type =>
        type.isObject && type.interfaces.contains parent.name
      parent.name :: objects.flatMap objectNames
    | _ => []
  all.eraseDups

/-- A field is denied once for each of its owners that has a record of it, and then for its type. -/
def deniedField (head : FieldHead) (parent : TypeDefinition) (type : Option TypeRef) :
    List Denial :=
  ((owners schema parent).flatMap fun owner =>
      due registry owner head.name ⟨head.position, .member head.name owner⟩) ++
    deniedType registry head.position type (.field head.name)

/-- The arguments that can be given in a known directive, and where there is none in the innermost
field. -/
def declaredArguments (innermost : Option Innermost) (directive : Option DirectiveDefinition) :
    List InputDefinition :=
  match directive with
  | some directive => directive.arguments
  | none => ((innermost.bind Innermost.definition).map FieldDefinition.arguments).getD []

/-- An argument that the innermost field declares is denied for its record under the name of the
field, and then for its type, unless the field is exempt or a known directive stands between. -/
def deniedArgument (label : Label) (innermost : Option Innermost)
    (directive : Option DirectiveDefinition) (definition : Option InputDefinition) :
    List Denial :=
  match innermost, directive, definition with
  | some ⟨field, false, _⟩, none, some definition =>
    due registry field label.text ⟨label.position, .argument label.text field⟩ ++
      deniedType registry label.position (some definition.type) (.argument label.text)
  | _, _, _ => []

/-- A field of an object literal is denied for its record under the input object that the literal
stands for. -/
def deniedObjectField (label : Label) (object : Option TypeRef) : List Denial :=
  match object.bind fun type => schema.definition? type.core with
  | some ⟨owner, _, .input _⟩ =>
    due registry owner label.text ⟨label.position, .member label.text owner⟩
  | _ => []

/-- An enum literal is denied for its record under the enum that is expected. -/
def deniedEnumValue (label : Label) (type : Option TypeRef) : List Denial :=
  match type.bind fun type => schema.definition? type.core with
  | some ⟨owner, _, .enum _⟩ =>
    due registry owner label.text ⟨label.position, .member label.text owner⟩
  | _ => []

/-! ## What is denied in the parts of a document -/

mutual

/-- The denials in a literal where a value of `type` is expected. An object literal whose type is
not known stands for the type of the argument around it. -/
def ofValue (argument : Option InputDefinition) (type : Option TypeRef) : Value → List Denial
  | .list items => ofItems argument (schema.itemType type) items
  | .object fields => ofObjectFields argument type fields
  | .enum label => deniedEnumValue registry schema label type
  | _ => []

/-- The denials in the items of a list literal. -/
def ofItems (argument : Option InputDefinition) (type : Option TypeRef) :
    List Value → List Denial
  | [] => []
  | item :: rest => ofValue argument type item ++ ofItems argument type rest

/-- The denials in the fields of an object literal. -/
def ofObjectFields (argument : Option InputDefinition) (type : Option TypeRef) :
    List (Label × Value) → List Denial
  | [] => []
  | (label, value) :: rest =>
    deniedObjectField registry schema label (type.or (argument.map InputDefinition.type)) ++
      ofValue argument (schema.objectFieldType type label.text) value ++
      ofObjectFields argument type rest

end

/-- The denials in a default value. -/
def ofDefault (type : Option TypeRef) (value : Option Value) : List Denial :=
  (value.map (ofValue registry schema none type)).getD []

/-- The denials at and in an argument. -/
def ofArgument (innermost : Option Innermost) (directive : Option DirectiveDefinition)
    (argument : Argument) : List Denial :=
  let definition := (declaredArguments innermost directive).find? fun input =>
    input.name = argument.label.text
  deniedArgument registry argument.label innermost directive definition ++
    ofValue registry schema definition (definition.bind fun input => schema.asInput input.type)
      argument.value

/-- The denials in directives. -/
def ofDirectives (innermost : Option Innermost) (directives : List Directive) : List Denial :=
  directives.flatMap fun directive =>
    directive.arguments.flatMap
      (ofArgument registry schema innermost (schema.directive? directive.name))

mutual

/-- The denials in a selection of a set that is answered with `type` and whose fields belong to
`parent`. -/
def ofSelection (type : Option TypeRef) (parent : Option TypeDefinition)
    (innermost : Option Innermost) : Selection → List Denial
  | .field head selections =>
    let type := schema.fieldType parent head.name
    let field : Innermost := ⟨head.name, exempt parent type, schema.selectedField parent head.name⟩
    (match parent with
      | some parent =>
        if exempt (some parent) type then [] else deniedField registry schema head parent type
      | none => []) ++
      head.arguments.flatMap (ofArgument registry schema (some field) none) ++
      ofDirectives registry schema (some field) head.directives ++
      ofSelections type (schema.parentOf type) (some field) selections
  | .inline condition directives selections =>
    let type := schema.inlineType type condition
    ofDirectives registry schema innermost directives ++
      ofSelections type (schema.parentOf type) innermost selections
  | .spread _ directives => ofDirectives registry schema innermost directives

/-- The denials in selections. -/
def ofSelections (type : Option TypeRef) (parent : Option TypeDefinition)
    (innermost : Option Innermost) : List Selection → List Denial
  | [] => []
  | selection :: rest =>
    ofSelection type parent innermost selection ++ ofSelections type parent innermost rest

end

/-- The denials at and in the declaration of a variable. -/
def ofVariable (definition : VariableDefinition) : List Denial :=
  let type := schema.variableType definition.type
  deniedType registry definition.label.position type (.variable definition.label.text) ++
    ofDefault registry schema type definition.default ++
    ofDirectives registry schema none definition.directives

/-- The denials in an argument or input field of a type system. -/
def ofInput (definition : InputDefinition) : List Denial :=
  ofDefault registry schema none definition.default ++
    ofDirectives registry schema none definition.directives

/-- The denials in what a type consists of. -/
def ofContent : TypeContent → List Denial
  | .scalar | .union _ => []
  | .object _ fields | .interface _ fields => fields.flatMap fun field =>
    field.arguments.flatMap (ofInput registry schema) ++
      ofDirectives registry schema none field.directives
  | .enum values => values.flatMap fun value => ofDirectives registry schema none value.directives
  | .input fields => fields.flatMap (ofInput registry schema)

/-- The denials in a definition. -/
def ofDefinition : Definition → List Denial
  | .operation operation =>
    let type := schema.rootType operation.kind
    operation.variableDefinitions.flatMap (ofVariable registry schema) ++
      ofDirectives registry schema none operation.directives ++
      ofSelections registry schema type (schema.parentOf type) none operation.selections
  | .fragment named =>
    let type := schema.conditionType named.condition
    ofDirectives registry schema none named.directives ++
      ofSelections registry schema type (schema.parentOf type) none named.selections
  | .root definition | .rootExtension definition =>
    ofDirectives registry schema none definition.directives
  | .type named | .typeExtension named =>
    ofDirectives registry schema none named.directives ++ ofContent registry schema named.content
  | .directive definition => definition.arguments.flatMap (ofInput registry schema)

/-- The denials in a document. -/
def ofDocument (document : Document) : List Denial :=
  document.definitions.flatMap (ofDefinition registry schema)

end Direct

end SchemaVisibility.Access
