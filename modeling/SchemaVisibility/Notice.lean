/-! # Notices

What the library reports while it works, with the level and the wording of each report.
-/

namespace SchemaVisibility

/-- How much attention a notice asks for. -/
inductive Level where
  | info
  | warning
  deriving DecidableEq, Repr

/-- The written form of a level. -/
def Level.label : Level → String
  | .info => "INFO"
  | .warning => "WARNING"

/-- A report of the library. -/
inductive Notice where
  /-- The `enabled` setting is neither a boolean nor text. -/
  | unsupportedEnabled
  /-- The settings are no mapping but a value of the named kind. -/
  | settingsNoMapping (kind : String)
  /-- The shared plugin was built. -/
  | pluginLoaded (enabled : Bool)
  /-- The application started with the plugin switched off. -/
  | pluginDisabled
  /-- A schema was scanned and its registry published. -/
  | registryRebuilt (count : Nat)
  deriving DecidableEq, Repr

namespace Notice

/-- Doubtful settings are warnings, all else is information. -/
def level : Notice → Level
  | unsupportedEnabled | settingsNoMapping _ => .warning
  | pluginLoaded _ | pluginDisabled | registryRebuilt _ => .info

/-- The wording of a notice. -/
def message : Notice → String
  | unsupportedEnabled => "Unsupported value for PUBLIC_SCHEMA['enabled']"
  | settingsNoMapping kind => s!"PUBLIC_SCHEMA must be a mapping, got {kind}"
  | pluginLoaded true => "Loaded plugin: public_schema v1.0.0 (enabled)"
  | pluginLoaded false => "Loaded plugin: public_schema v1.0.0 (disabled)"
  | pluginDisabled => "Public schema plugin is disabled"
  | registryRebuilt count => s!"Public schema registry rebuilt: {count} private declarations"

end Notice

end SchemaVisibility
