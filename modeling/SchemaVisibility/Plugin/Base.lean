import SchemaVisibility.Plugin.Execution

/-! # Plugins that do nothing

What every plugin is before it does anything of its own: it keeps its configuration, tells its name
and version, and takes part in nothing.
-/

namespace SchemaVisibility

/-- A plugin that takes part in nothing. -/
structure IdlePlugin where
  name : String
  version : String
  config : Table Json
  /-- The configured value, `true` if nothing is configured. -/
  enabled : Json

namespace IdlePlugin

/-- The version of a plugin that has none of its own. -/
def defaultVersion : String := "1.0.0"

/-- A plugin with a configuration. -/
def create (name : String) (version : Option String) (config : Table Json) : IdlePlugin :=
  ⟨name, version.getD defaultVersion, config, (config.get? "enabled").getD (.bool true)⟩

/-- A schema change means nothing to it. -/
def change (plugin : IdlePlugin) (_schema : Handle) : IdlePlugin :=
  plugin

/-- It takes no operation over. -/
def execute {σ : Type} (_plugin : IdlePlugin)
    (_run : σ → Except Fault (Option ExecutionResult) × σ) (state : σ) : Handling × σ :=
  (.passed, state)

/-- It offers no rules. -/
def rules (_plugin : IdlePlugin) : List RuleRef :=
  []

end IdlePlugin

end SchemaVisibility
