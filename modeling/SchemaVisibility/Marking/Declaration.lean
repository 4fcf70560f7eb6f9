import SchemaVisibility.Marking.Basic
import SchemaVisibility.Registry
import SchemaVisibility.Schema.Basic

/-! # Declarations

Everything in a schema that can be private: types, their members, and the arguments of fields. Each
declaration has a coordinate, the record that stands for it, and the directives written on it.
`declarations` lists those of one type in the order in which they are declared.
-/

namespace SchemaVisibility

open GraphQL

/-- A declaration of a schema. -/
structure Declaration where
  coordinate : Coordinate
  /-- The record that stands for the declaration when it is private. -/
  record : Record
  directives : List Directive

namespace Declaration

/-- A whole type. -/
def ofType (type : TypeDefinition) : Declaration :=
  ⟨.type type.name, ⟨Record.topLevel, type.name⟩, type.directives⟩

/-- A member of a type. -/
def ofMember (type name : String) (directives : List Directive) : Declaration :=
  ⟨.member type name, ⟨type, name⟩, directives⟩

/-- An argument of a field; its record is owned by the field, whatever the type. -/
def ofArgument (type field : String) (argument : InputDefinition) : Declaration :=
  ⟨.argument type field argument.name, ⟨field, argument.name⟩, argument.directives⟩

/-- A field and its arguments. -/
def ofField (type : String) (field : FieldDefinition) : List Declaration :=
  ofMember type field.name field.directives :: field.arguments.map (ofArgument type field.name)

end Declaration

/-- The declarations of a type in order: the type, then member by member. -/
def GraphQL.TypeDefinition.declarations (type : TypeDefinition) : List Declaration :=
  Declaration.ofType type ::
    match type.content with
    | .scalar | .union _ => []
    | .object _ fields | .interface _ fields => fields.flatMap (Declaration.ofField type.name)
    | .enum values => values.map fun value =>
      Declaration.ofMember type.name value.name value.directives
    | .input fields => fields.map fun field =>
      Declaration.ofMember type.name field.name field.directives

/-- Why a text names no declaration of a schema. -/
inductive CoordinateError where
  | unknownType (type coordinate : String)
  | unknownEnumValue (coordinate : String)
  | noFields (type : String)
  | unknownField (type member : String)
  | unknownArgument (coordinate : String)
  deriving DecidableEq, Repr

/-- The wording of an error. -/
def CoordinateError.message : CoordinateError → String
  | unknownType type coordinate => s!"Unknown type '{type}' in coordinate '{coordinate}'"
  | unknownEnumValue coordinate => s!"Unknown enum value '{coordinate}'"
  | noFields type => s!"Type '{type}' has no fields"
  | unknownField type member => s!"Unknown field '{type}.{member}'"
  | unknownArgument coordinate => s!"Unknown argument '{coordinate}'"

namespace GraphQL.TypeDefinition

/-- The enum value that a reference names. -/
def resolveValue (type : TypeDefinition) (values : List EnumValueDefinition) (text : String)
    (reference : Coordinate.Reference) : Except CoordinateError Declaration :=
  match values.find? fun value => value.name = reference.member with
  | some value => .ok (Declaration.ofMember type.name value.name value.directives)
  | none => .error (.unknownEnumValue text)

/-- The field or argument that a reference names. -/
def resolveField (type : TypeDefinition) (fields : List FieldDefinition) (text : String)
    (reference : Coordinate.Reference) : Except CoordinateError Declaration :=
  match fields.find? fun field => field.name = reference.member with
  | none => .error (.unknownField reference.type reference.member)
  | some field =>
    match reference.argument with
    | none => .ok (Declaration.ofMember type.name field.name field.directives)
    | some name =>
      match field.arguments.find? fun argument => argument.name = name with
      | some argument => .ok (Declaration.ofArgument type.name field.name argument)
      | none => .error (.unknownArgument text)

/-- The input field that a reference names; input fields have no arguments. -/
def resolveInput (type : TypeDefinition) (fields : List InputDefinition) (text : String)
    (reference : Coordinate.Reference) : Except CoordinateError Declaration :=
  match fields.find? fun field => field.name = reference.member with
  | none => .error (.unknownField reference.type reference.member)
  | some field =>
    match reference.argument with
    | none => .ok (Declaration.ofMember type.name field.name field.directives)
    | some _ => .error (.unknownArgument text)

/-- The declaration of a type that a reference names. -/
def resolve (type : TypeDefinition) (text : String) (reference : Coordinate.Reference) :
    Except CoordinateError Declaration :=
  if reference.member = "" && reference.argument.isNone then .ok (Declaration.ofType type)
  else
    match type.content, reference.argument with
    | .enum values, none => type.resolveValue values text reference
    | .object _ fields, _ | .interface _ fields, _ => type.resolveField fields text reference
    | .input fields, _ => type.resolveInput fields text reference
    | _, _ => .error (.noFields reference.type)

end GraphQL.TypeDefinition

namespace Schema

/-- The declaration that the text of a coordinate names. A type of unknown kind has no members. -/
def resolve (schema : Schema) (text : String) : Except CoordinateError Declaration :=
  let reference := Coordinate.Reference.ofText text
  let unknown : Except CoordinateError Declaration :=
    .error (.unknownType reference.type text)
  match schema.entries.get? reference.type with
  | none => unknown
  | some .unknownKind =>
    if reference.member = "" && reference.argument.isNone then
      .ok ⟨.type reference.type, ⟨Record.topLevel, reference.type⟩, []⟩
    else .error (.noFields reference.type)
  | some .known =>
    match schema.definition? reference.type with
    | some type => type.resolve text reference
    | none => unknown

end Schema

end SchemaVisibility
