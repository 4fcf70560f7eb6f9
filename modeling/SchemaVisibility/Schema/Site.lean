import SchemaVisibility.Schema.Basic

/-! # Where directives stand

Directives stand at definitions of a type system and at the parts of operations. `sites` lists all
places of a document with the directives that stand there and the word for the kind of place.
Directives of a type and of its extensions stand at one place, and so do those of the schema as a
whole.
-/

namespace SchemaVisibility

open GraphQL

/-- Directives that stand together at one place. -/
structure Site where
  location : String
  directives : List Directive

namespace GraphQL

/-- The kind of a type, as a word. -/
def TypeDefinition.kindWord (type : TypeDefinition) : String :=
  match type.content with
  | .scalar => "SCALAR"
  | .object .. => "OBJECT"
  | .interface .. => "INTERFACE"
  | .union .. => "UNION"
  | .enum .. => "ENUM"
  | .input .. => "INPUT_OBJECT"

/-- The kind of an operation, as a word. -/
def OperationKind.word : OperationKind → String
  | .query => "QUERY"
  | .mutation => "MUTATION"
  | .subscription => "SUBSCRIPTION"

namespace Document

/-- The types and extensions of types in order. -/
def allTypes (document : Document) : List TypeDefinition :=
  document.definitions.filterMap fun
    | .type type | .typeExtension type => some type
    | _ => none

/-- The declared types in order. -/
def declaredTypes (document : Document) : List TypeDefinition :=
  document.definitions.filterMap fun
    | .type type => some type
    | _ => none

/-- The extensions of types in order. -/
def typeExtensions (document : Document) : List TypeDefinition :=
  document.definitions.filterMap fun
    | .typeExtension type => some type
    | _ => none

/-- The definitions and extensions of operation roots in order. -/
def rootDefinitions (document : Document) : List RootDefinition :=
  document.definitions.filterMap fun
    | .root root | .rootExtension root => some root
    | _ => none

/-- The directives that a document declares, in order. -/
def declaredDirectives (document : Document) : List DirectiveDefinition :=
  document.definitions.filterMap fun
    | .directive directive => some directive
    | _ => none

end Document

end GraphQL

namespace Site

/-- The places of arguments. -/
def ofArguments (arguments : List InputDefinition) : List Site :=
  arguments.map fun argument => ⟨"ARGUMENT_DEFINITION", argument.directives⟩

/-- The places inside a type or an extension; `inputField` is the word for input fields. -/
def ofMembers (inputField : String) (type : TypeDefinition) : List Site :=
  match type.content with
  | .object _ fields | .interface _ fields =>
    fields.flatMap fun field =>
      ⟨"FIELD_DEFINITION", field.directives⟩ :: ofArguments field.arguments
  | .enum values => values.map fun value => ⟨"ENUM_VALUE", value.directives⟩
  | .input fields => fields.map fun field => ⟨inputField, field.directives⟩
  | _ => []

/-- The places of the types and of the schema as a whole. -/
def ofDefinitions (document : Document) : List Site :=
  ⟨"SCHEMA", document.rootDefinitions.flatMap RootDefinition.directives⟩ ::
  document.declaredTypes.map fun type =>
    ⟨type.kindWord, (document.allTypes.filter fun other => other.name = type.name).flatMap
      TypeDefinition.directives⟩

mutual

/-- The places of a selection and below it. -/
def ofSelection : Selection → List Site
  | .field head selections => ⟨"FIELD", head.directives⟩ :: ofSelections selections
  | .inline _ directives selections =>
    ⟨"INLINE_FRAGMENT", directives⟩ :: ofSelections selections
  | .spread _ directives => [⟨"FRAGMENT_SPREAD", directives⟩]

/-- The places of selections and below them. -/
def ofSelections : List Selection → List Site
  | [] => []
  | selection :: rest => ofSelection selection ++ ofSelections rest

end

/-- The places of an operation. -/
def ofOperation (operation : Operation) : List Site :=
  ⟨operation.kind.word, operation.directives⟩ ::
  (operation.variableDefinitions.map fun definition =>
    ⟨"VARIABLE_DEFINITION", definition.directives⟩) ++
  ofSelections operation.selections

/-- The places of a fragment. -/
def ofFragment (fragment : Fragment) : List Site :=
  ⟨"FRAGMENT_DEFINITION", fragment.directives⟩ :: ofSelections fragment.selections

end Site

/-- All places of a document. An input field that an extension adds counts as an argument. -/
def GraphQL.Document.sites (document : Document) : List Site :=
  Site.ofDefinitions document ++
  document.declaredTypes.flatMap (Site.ofMembers "INPUT_FIELD_DEFINITION") ++
  document.typeExtensions.flatMap (Site.ofMembers "ARGUMENT_DEFINITION") ++
  document.declaredDirectives.flatMap (fun directive => Site.ofArguments directive.arguments) ++
  document.operations.flatMap Site.ofOperation ++ document.fragments.flatMap Site.ofFragment

end SchemaVisibility
