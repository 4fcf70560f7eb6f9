import SchemaVisibility.Json.Basic
import SchemaVisibility.Notice
import SchemaVisibility.Settings.Placeholder

/-! # Settings

The settings are a mapping laid over the defaults. The only setting that the library itself reads
is `enabled`: a boolean counts as it is, and text switches the library on exactly if it becomes
`true` once its placeholders are replaced.
-/

namespace SchemaVisibility.Settings

/-- The name of the setting that holds the mapping. -/
def settingName : String := "PUBLIC_SCHEMA"

/-- What holds where nothing is configured: the library is switched off. -/
def defaults : Table Json := [("enabled", .bool false)]

/-- The meaning of an `enabled` value; `none` for a value that has none. -/
def enabled? (env : Environment) : Json → Option Bool
  | .bool value => some value
  | .null => some false
  | .str text => some (interpolate env text == "true")
  | _ => none

/-- Whether an `enabled` value switches the library on, with a notice if it has no meaning. -/
def resolveEnabled (env : Environment) (value : Json) : Bool × List Notice :=
  match enabled? env value with
  | some enabled => (enabled, [])
  | none => (false, [.unsupportedEnabled])

/-- The words for the kinds of value. -/
def kindName : Json → String
  | .null => "NoneType"
  | .bool _ => "bool"
  | .int _ => "int"
  | .decimal _ => "float"
  | .str _ => "str"
  | .arr _ => "list"
  | .obj _ => "dict"

/-- The configured mapping over the defaults. A value that does not count as set is an empty
mapping, and so, with a notice, is one that is no mapping. -/
def merged (configured : Json) : Table Json × List Notice :=
  if configured.truthy then
    match configured with
    | .obj members => (defaults.insertAll members, [])
    | other => (defaults, [.settingsNoMapping (kindName other)])
  else (defaults, [])

/-- The value of a setting, `null` if it is not there. -/
def lookup (settings : Table Json) (name : String) : Json :=
  (settings.get? name).getD .null

end SchemaVisibility.Settings
