/-! # GraphQL documents

The two halves of the language: operations and fragments, and definitions of a type system. A
document may hold both. What a report may point at carries its position: fields, arguments, declared
variables, the fields of object literals and enum literals.

A field without a selection set has an empty list of selections, since the language has no empty
selection set.
-/

namespace SchemaVisibility.GraphQL

/-- A place in a source text. Lines and columns count from one, columns in characters. -/
structure Position where
  line : Nat
  column : Nat
  deriving DecidableEq, Repr, Inhabited

/-- A name and the place where it is written. -/
structure Label where
  position : Position
  text : String
  deriving DecidableEq, Repr, Inhabited

/-- A reference to a type. -/
inductive TypeRef where
  | named (name : String)
  | list (item : TypeRef)
  | nonNull (inner : TypeRef)
  deriving DecidableEq, Repr, Inhabited

/-- The type at the core of a reference. -/
def TypeRef.core : TypeRef → String
  | named name => name
  | list item => item.core
  | nonNull inner => inner.core

/-- The reference without an outermost non-null mark. -/
def TypeRef.nullable : TypeRef → TypeRef
  | nonNull inner => inner.nullable
  | other => other

/-- A literal or a variable. -/
inductive Value where
  | var (name : String)
  | int (text : String)
  | float (text : String)
  | str (text : String)
  | bool (value : Bool)
  | null
  | enum (label : Label)
  | list (items : List Value)
  | object (fields : List (Label × Value))
  deriving Inhabited, Repr

/-- An argument of a field or a directive. -/
structure Argument where
  label : Label
  value : Value
  deriving Inhabited, Repr

/-- An applied directive. -/
structure Directive where
  name : String
  arguments : List Argument
  deriving Inhabited, Repr

/-- A field without what is selected below it. -/
structure FieldHead where
  position : Position
  /-- The name that the response uses instead of the field's own. -/
  rename : Option String
  name : String
  arguments : List Argument
  directives : List Directive
  deriving Inhabited, Repr

/-- One entry of a selection set. -/
inductive Selection where
  | field (head : FieldHead) (selections : List Selection)
  | inline (condition : Option String) (directives : List Directive)
      (selections : List Selection)
  | spread (fragment : String) (directives : List Directive)
  deriving Inhabited, Repr

/-- A field with its selection set. -/
structure Field where
  head : FieldHead
  selections : List Selection
  deriving Inhabited, Repr

/-- The key under which a response holds the field. -/
def Field.responseKey (field : Field) : String :=
  field.head.rename.getD field.head.name

/-- The field's own name. -/
def Field.name (field : Field) : String :=
  field.head.name

/-- The three kinds of operation. -/
inductive OperationKind where
  | query
  | mutation
  | subscription
  deriving DecidableEq, Repr, Inhabited

/-- The keyword of a kind of operation. -/
def OperationKind.keyword : OperationKind → String
  | query => "query"
  | mutation => "mutation"
  | subscription => "subscription"

/-- The variable that an operation declares, placed where its declaration starts. -/
structure VariableDefinition where
  label : Label
  type : TypeRef
  default : Option Value
  directives : List Directive
  deriving Inhabited, Repr

/-- An operation. -/
structure Operation where
  kind : OperationKind
  name : Option String
  variableDefinitions : List VariableDefinition
  directives : List Directive
  selections : List Selection
  deriving Inhabited, Repr

/-- A named fragment. -/
structure Fragment where
  name : String
  condition : String
  directives : List Directive
  selections : List Selection
  deriving Inhabited, Repr

/-- An argument that a field or directive takes, or a field of an input object. -/
structure InputDefinition where
  name : String
  type : TypeRef
  default : Option Value
  directives : List Directive
  deriving Inhabited, Repr

/-- A field of an object or interface. -/
structure FieldDefinition where
  name : String
  arguments : List InputDefinition
  type : TypeRef
  directives : List Directive
  deriving Inhabited, Repr

/-- A value of an enum. -/
structure EnumValueDefinition where
  name : String
  directives : List Directive
  deriving Inhabited, Repr

/-- What a type consists of, by its kind. -/
inductive TypeContent where
  | scalar
  | object (interfaces : List String) (fields : List FieldDefinition)
  | interface (interfaces : List String) (fields : List FieldDefinition)
  | union (members : List String)
  | enum (values : List EnumValueDefinition)
  | input (fields : List InputDefinition)
  deriving Inhabited, Repr

/-- A named type, or what an extension adds to one. -/
structure TypeDefinition where
  name : String
  directives : List Directive
  content : TypeContent
  deriving Inhabited, Repr

/-- A directive and where it may stand. -/
structure DirectiveDefinition where
  name : String
  arguments : List InputDefinition
  repeatable : Bool
  locations : List String
  deriving Inhabited, Repr

/-- The root operation types, or what an extension adds to them. -/
structure RootDefinition where
  directives : List Directive
  roots : List (OperationKind × String)
  deriving Inhabited, Repr

/-- A definition of a document. -/
inductive Definition where
  | operation (operation : Operation)
  | fragment (fragment : Fragment)
  | root (definition : RootDefinition)
  | rootExtension (definition : RootDefinition)
  | type (definition : TypeDefinition)
  | typeExtension (definition : TypeDefinition)
  | directive (definition : DirectiveDefinition)
  deriving Inhabited, Repr

/-- What one source text holds. -/
structure Document where
  definitions : List Definition
  deriving Inhabited, Repr

namespace Document

/-- The operations in order. -/
def operations (document : Document) : List Operation :=
  document.definitions.filterMap fun
    | .operation operation => some operation
    | _ => none

/-- The fragments in order. -/
def fragments (document : Document) : List Fragment :=
  document.definitions.filterMap fun
    | .fragment fragment => some fragment
    | _ => none

/-- The operation that a request selects: without a name the only one there is, with a name the
first one that bears it. -/
def selectedOperation? (document : Document) : Option String → Option Operation
  | none =>
    match document.operations with
    | [operation] => some operation
    | _ => none
  | some name => document.operations.find? fun operation => operation.name = some name

end Document

end SchemaVisibility.GraphQL
