import SchemaVisibility.Introspection.Redaction
import SchemaVisibility.Marking.Basic
import SchemaVisibility.Settings.Basic

/-! # What the library tells about itself

The constants that a client may ask for, as one JSON object.
-/

namespace SchemaVisibility.About

/-- The version of the library and of its plugin. -/
def version : String := "1.0.0"

/-- The public names of the library. -/
def publicNames : List String :=
  ["PRIVATE_DIRECTIVE_NAME", "PRIVATE_DIRECTIVE_SDL", "PrivateFieldRecord",
    "PrivateFieldValidationRule", "SchemaScanner", "TOP_LEVEL_OWNER", "VisibilityRegistry",
    "create_private_field_rule", "is_marked_private", "mark_private", "private_directive",
    "redact_introspection_result", "scan_schema", "selects_introspection"]

/-- The label of the application and its name for people. -/
def application : List String :=
  ["public_schema", "GraphQL Public Schema"]

/-- The error code of reports on private declarations. -/
def errorCode : String := "PRIVATE_FIELD"

/-- The names of the introspection types that root fields lead to. -/
def rootTypes : List (String × String) :=
  [("__schema", "__Schema"), ("__type", "__Type")]

/-- A list of strings as a JSON value. -/
def strings (texts : List String) : Json :=
  .arr (texts.map .str)

/-- All constants. -/
def constants : Json :=
  .obj [
    ("version", .str version),
    ("plugin_version", .str version),
    ("all", strings publicNames),
    ("app", strings application),
    ("code", .str errorCode),
    ("defaults", .obj Settings.defaults),
    ("directive", .obj [
      ("name", .str Marking.directiveName),
      ("description", .str Marking.directiveDescription),
      ("locations", strings Marking.directiveLocations),
      ("args", .arr []),
      ("repeatable", .bool false)]),
    ("keys", strings Marking.extensionKeys),
    ("members", strings Introspection.memberLists),
    ("name", .str Marking.directiveName),
    ("roots", .obj (rootTypes.map fun (field, type) => (field, .str type))),
    ("sdl", .str Marking.directiveText),
    ("settings_name", .str Settings.settingName),
    ("test_setting", .obj [("enabled", .bool true)]),
    ("top", .str Record.topLevel)]

end SchemaVisibility.About
