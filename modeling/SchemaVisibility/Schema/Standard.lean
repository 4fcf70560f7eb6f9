import SchemaVisibility.GraphQL.Document

/-! # Standard declarations

The types and directives that every schema may use without declaring them: five scalars, the types
of introspection, and the directives of the language. They are one stock that all schemas share.
-/

namespace SchemaVisibility.Standard

open GraphQL

/-- A reference to a type that is never null. -/
def required (name : String) : TypeRef :=
  .nonNull (.named name)

/-- A reference to a list without null items. -/
def listOf (name : String) : TypeRef :=
  .list (required name)

/-- A reference to a list that is never null and has no null items. -/
def requiredListOf (name : String) : TypeRef :=
  .nonNull (listOf name)

/-- An argument without a default. -/
def input (name : String) (type : TypeRef) : InputDefinition :=
  ⟨name, type, none, []⟩

/-- A field without arguments. -/
def field (name : String) (type : TypeRef) : FieldDefinition :=
  ⟨name, [], type, []⟩

/-- A field that lists deprecated entries only on demand. -/
def listing (name : String) (type : TypeRef) : FieldDefinition :=
  ⟨name, [⟨"includeDeprecated", .named "Boolean", some (.bool false), []⟩], type, []⟩

/-- A field of text. -/
def text (name : String) : FieldDefinition :=
  field name (.named "String")

/-- A field of text that is never null. -/
def requiredText (name : String) : FieldDefinition :=
  field name (required "String")

/-- The two fields that say whether and why something is deprecated. -/
def deprecation : List FieldDefinition :=
  [field "isDeprecated" (required "Boolean"), text "deprecationReason"]

/-- An object without interfaces. -/
def object (name : String) (fields : List FieldDefinition) : TypeDefinition :=
  ⟨name, [], .object [] fields⟩

/-- An enum. -/
def enum (name : String) (values : List String) : TypeDefinition :=
  ⟨name, [], .enum (values.map fun value => ⟨value, []⟩)⟩

/-- The names of the standard scalars. -/
def scalarNames : List String :=
  ["String", "Int", "Float", "Boolean", "ID"]

/-- The types of introspection. -/
def introspectionTypes : List TypeDefinition :=
  [object "__Schema" [text "description", field "types" (requiredListOf "__Type"),
      field "queryType" (required "__Type"), field "mutationType" (.named "__Type"),
      field "subscriptionType" (.named "__Type"),
      listing "directives" (requiredListOf "__Directive")],
    object "__Directive" ([requiredText "name", text "description",
      field "isRepeatable" (required "Boolean"),
      field "locations" (requiredListOf "__DirectiveLocation"),
      listing "args" (requiredListOf "__InputValue")] ++ deprecation),
    enum "__DirectiveLocation" ["QUERY", "MUTATION", "SUBSCRIPTION", "FIELD",
      "FRAGMENT_DEFINITION", "FRAGMENT_SPREAD", "INLINE_FRAGMENT", "VARIABLE_DEFINITION", "SCHEMA",
      "SCALAR", "OBJECT", "FIELD_DEFINITION", "ARGUMENT_DEFINITION", "INTERFACE", "UNION", "ENUM",
      "ENUM_VALUE", "INPUT_OBJECT", "INPUT_FIELD_DEFINITION", "DIRECTIVE_DEFINITION"],
    object "__Type" [field "kind" (required "__TypeKind"), text "name", text "description",
      text "specifiedByURL", listing "fields" (listOf "__Field"),
      field "interfaces" (listOf "__Type"), field "possibleTypes" (listOf "__Type"),
      listing "enumValues" (listOf "__EnumValue"), listing "inputFields" (listOf "__InputValue"),
      field "ofType" (.named "__Type"), field "isOneOf" (.named "Boolean")],
    object "__Field" ([requiredText "name", text "description",
      listing "args" (requiredListOf "__InputValue"), field "type" (required "__Type")] ++
      deprecation),
    object "__InputValue" ([requiredText "name", text "description",
      field "type" (required "__Type"), text "defaultValue"] ++ deprecation),
    object "__EnumValue" ([requiredText "name", text "description"] ++ deprecation),
    enum "__TypeKind" ["SCALAR", "OBJECT", "INTERFACE", "UNION", "ENUM", "INPUT_OBJECT", "LIST",
      "NON_NULL"]]

/-- The standard types. -/
def types : List TypeDefinition :=
  scalarNames.map (fun name => ⟨name, [], .scalar⟩) ++ introspectionTypes

/-- The standard type of a name. -/
def type? (name : String) : Option TypeDefinition :=
  types.find? fun type => type.name = name

/-- Whether a name belongs to a standard type. -/
def isStandard (name : String) : Bool :=
  (type? name).isSome

/-- Whether a name belongs to a type of introspection. -/
def isIntrospection (name : String) : Bool :=
  introspectionTypes.any fun type => type.name = name

/-- The directives of the language. -/
def directives : List DirectiveDefinition :=
  [⟨"include", [input "if" (required "Boolean")], false,
      ["FIELD", "FRAGMENT_SPREAD", "INLINE_FRAGMENT"]⟩,
    ⟨"skip", [input "if" (required "Boolean")], false,
      ["FIELD", "FRAGMENT_SPREAD", "INLINE_FRAGMENT"]⟩,
    ⟨"deprecated", [⟨"reason", .named "String", some (.str "No longer supported"), []⟩], false,
      ["FIELD_DEFINITION", "ARGUMENT_DEFINITION", "INPUT_FIELD_DEFINITION", "ENUM_VALUE",
        "DIRECTIVE_DEFINITION"]⟩,
    ⟨"specifiedBy", [input "url" (required "String")], false, ["SCALAR"]⟩,
    ⟨"oneOf", [], false, ["INPUT_OBJECT"]⟩]

/-- The field through which a query reads the whole schema. -/
def schemaField : FieldDefinition :=
  field "__schema" (required "__Schema")

/-- The field through which a query reads one type. -/
def typeField : FieldDefinition :=
  ⟨"__type", [input "name" (required "String")], .named "__Type", []⟩

/-- The field that every composite type has. -/
def typenameField : FieldDefinition :=
  requiredText "__typename"

end SchemaVisibility.Standard
