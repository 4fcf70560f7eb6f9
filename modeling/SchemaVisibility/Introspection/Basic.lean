import SchemaVisibility.GraphQL.Collection
import SchemaVisibility.GraphQL.Parser

/-! # Introspection

A service describes its schema through two fields at the root of a query, `__schema` and `__type`.
Below them stand objects of the introspection types; `Kind.fields?` says which field leads from
which type to which. `selectsIntrospection` tells whether some operation of a document asks for such
a root field.
-/

namespace SchemaVisibility.Introspection

open GraphQL

/-- The introspection types; `leaf` stands for the scalars and enums among them. -/
inductive Kind where
  | schema
  | directive
  | type
  | field
  | inputValue
  | enumValue
  | leaf
  deriving DecidableEq, Repr

/-- The fields of an introspection type that lead on, and where; a leaf has no fields at all. -/
def Kind.fields? : Kind → Option (Table Kind)
  | schema => some [("description", leaf), ("types", type), ("queryType", type),
      ("mutationType", type), ("subscriptionType", type), ("directives", directive)]
  | directive => some [("name", leaf), ("description", leaf), ("isRepeatable", leaf),
      ("locations", leaf), ("args", inputValue), ("isDeprecated", leaf),
      ("deprecationReason", leaf)]
  | type => some [("kind", leaf), ("name", leaf), ("description", leaf),
      ("specifiedByURL", leaf), ("fields", field), ("interfaces", type), ("possibleTypes", type),
      ("enumValues", enumValue), ("inputFields", inputValue), ("ofType", type), ("isOneOf", leaf)]
  | field => some [("name", leaf), ("description", leaf), ("args", inputValue), ("type", type),
      ("isDeprecated", leaf), ("deprecationReason", leaf)]
  | inputValue => some [("name", leaf), ("description", leaf), ("type", type),
      ("defaultValue", leaf), ("isDeprecated", leaf), ("deprecationReason", leaf)]
  | enumValue => some [("name", leaf), ("description", leaf), ("isDeprecated", leaf),
      ("deprecationReason", leaf)]
  | leaf => none

/-- The root fields of introspection. -/
def rootFields : Table Kind :=
  [("__schema", .schema), ("__type", .type)]

/-- The type that a field leads to at the root, if it is a root field of introspection. -/
def rootKind? (field : Field) : Option Kind :=
  rootFields.get? field.name

/-- The name that a `__type` field asks for, if it is written out as a string. -/
def literalTypeName? (field : Field) : Option String :=
  if field.name = "__type" then
    field.head.arguments.findSome? fun argument =>
      match argument.label.text, argument.value with
      | "name", .str text => some text
      | _, _ => none
  else none

/-- Whether some operation of a document selects a root field of introspection. -/
def selectsIntrospection (document : Document) : Bool :=
  document.operations.any fun operation =>
    (collect document.fragmentTable operation.selections).any fun field =>
      (rootKind? field).isSome

/-- The document of an operation text; text that is empty or does not parse has none. -/
def document? (query : String) : Option Document :=
  if query = "" then none
  else
    match Document.parse query with
    | .ok document => some document
    | .error _ => none

end SchemaVisibility.Introspection
