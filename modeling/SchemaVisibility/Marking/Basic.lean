import SchemaVisibility.GraphQL.Document
import SchemaVisibility.Json.Basic

/-! # Marks

A declaration is private if its definition or an extension of it carries the directive `@private`,
or if its extension data hold a flag that counts as set.
-/

namespace SchemaVisibility.Marking

/-- The directive that marks a declaration. -/
def directiveName : String := "private"

/-- Where the directive may stand. -/
def directiveLocations : List String :=
  ["SCALAR", "OBJECT", "FIELD_DEFINITION", "ARGUMENT_DEFINITION", "INTERFACE", "UNION", "ENUM",
    "ENUM_VALUE", "INPUT_OBJECT", "INPUT_FIELD_DEFINITION"]

/-- What the directive does, for readers of a schema. -/
def directiveDescription : String :=
  "Hides the declaration from introspection and rejects operations using it."

/-- The definition of the directive, to be put in front of the text of a schema. -/
def directiveText : String :=
  "directive @private on " ++ String.intercalate " | " directiveLocations

/-- The keys of extension data that flag a declaration. -/
def extensionKeys : List String :=
  ["is_private", "isPrivate"]

/-- Whether extension data flag a declaration. -/
def flagged (extensions : Table Json) : Bool :=
  extensionKeys.any fun key => ((Table.get? extensions key).getD .null).truthy

/-- Whether directives mark a declaration. -/
def directed (directives : List GraphQL.Directive) : Bool :=
  directives.any fun directive => directive.name = directiveName

/-- Extension data with the flag set and all else kept. -/
def withFlag (extensions : Table Json) : Table Json :=
  extensions.insert "is_private" (.bool true)

theorem flagged_withFlag (extensions : Table Json) : flagged (withFlag extensions) = true := by
  simp [flagged, extensionKeys, withFlag, Table.get?_insert, Json.truthy]

end SchemaVisibility.Marking
