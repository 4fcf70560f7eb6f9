import SchemaVisibility.Plugin.Basic

/-! # The plugins of a host

The application that hosts the library has one shared plugin, built from the settings when it is
first needed. Somebody may also work with a plugin that is not the shared one, or hold on to the
shared plugin after the host has dropped it.
-/

namespace SchemaVisibility

/-- The plugin that somebody works with. -/
inductive Held where
  | nothing
  /-- The shared plugin of the host. -/
  | shared
  | own (plugin : Plugin)

/-- The shared plugin of an application and the one that somebody works with. -/
structure Host where
  environment : Settings.Environment
  /-- The configured mapping, as it was set. -/
  configured : Json
  shared : Option Plugin
  held : Held

namespace Host

/-- A host before any plugin is needed. -/
def start (environment : Settings.Environment) (configured : Json) : Host :=
  ⟨environment, configured, none, .nothing⟩

/-- The plugin that somebody works with. -/
def plugin? (host : Host) : Option Plugin :=
  match host.held with
  | .nothing => none
  | .shared => host.shared
  | .own plugin => some plugin

/-- Puts the plugin that somebody works with into a new state. -/
def setPlugin (host : Host) (plugin : Plugin) : Host :=
  match host.held with
  | .shared => { host with shared := some plugin }
  | _ => { host with held := .own plugin }

/-- The shared plugin, which is built from the settings if there is none. -/
def sharedPlugin (host : Host) : Plugin × Host × List Notice :=
  match host.shared with
  | some plugin => (plugin, host, [])
  | none =>
    let (settings, doubts) := Settings.merged host.configured
    let (plugin, notices) := Plugin.create host.environment settings
    (plugin, { host with shared := some plugin },
      doubts ++ notices ++ [.pluginLoaded plugin.enabled])

/-- Works with the shared plugin from now on. -/
def holdShared (host : Host) : Host × List Notice :=
  let (_, host, notices) := host.sharedPlugin
  ({ host with held := .shared }, notices)

/-- Works with a new plugin from now on. -/
def holdNew (host : Host) (config : Table Json) : Host × List Notice :=
  let (plugin, notices) := Plugin.create host.environment config
  ({ host with held := .own plugin }, notices)

/-- Drops the shared plugin; who works with it goes on doing so. -/
def dropShared (host : Host) : Host :=
  match host.held, host.shared with
  | .shared, some plugin => { host with shared := none, held := .own plugin }
  | _, _ => { host with shared := none }

/-- Tells the shared plugin that a schema has changed. Without a schema nothing happens. -/
def signal (host : Host) (catalog : Catalog) (schema : Option Handle) :
    Except ScanError Unit × Host × List Notice :=
  match schema with
  | none => (.ok (), host, [])
  | some schema =>
    let (plugin, host, loaded) := host.sharedPlugin
    match plugin.change catalog schema with
    | .error error => (.error error, host, loaded)
    | .ok step => (.ok (), { host with shared := some step.plugin }, loaded ++ step.notices)

/-- Checks the settings when the application starts. -/
def ready (host : Host) : List Notice :=
  let (settings, doubts) := Settings.merged host.configured
  let (enabled, notices) :=
    Settings.resolveEnabled host.environment (Settings.lookup settings "enabled")
  doubts ++ notices ++ if enabled then [] else [.pluginDisabled]

end Host

end SchemaVisibility
