import SchemaVisibility.Catalog
import SchemaVisibility.Plugin.Store
import SchemaVisibility.Settings.Basic

/-! # The plugin

The plugin keeps one registry for each schema that it has scanned, with a rule that reads it. A
schema is scanned when it is said to have changed, and otherwise when it is first asked for; it is
bound to its registry for good, and later scans replace the records only. The registry of the
schema that changed last is the current one; before any schema is scanned that is a registry bound
to none. A scan that fails leaves the plugin as it was.

A plugin that is switched off scans nothing and offers nothing but the registry that it started
with.
-/

namespace SchemaVisibility

/-- The registries of the schemas that are served. -/
structure Plugin where
  config : Table Json
  enabled : Bool
  store : Store

/-- What an operation of a plugin gives: its value, the plugin afterwards, and what was reported. -/
structure Step (α : Type) where
  value : α
  plugin : Plugin
  notices : List Notice

namespace Plugin

/-- The name under which the plugin is known. -/
def name : String := "public_schema"

/-- The version of the plugin. -/
def version : String := "1.0.0"

/-- A new plugin with a configuration. -/
def create (env : Settings.Environment) (config : Table Json) : Plugin × List Notice :=
  let (enabled, notices) := Settings.resolveEnabled env (Settings.lookup config "enabled")
  ({ config, enabled, store := .start }, notices)

/-- The binding of a schema, if it was scanned. -/
def binding? (plugin : Plugin) (key : String) : Option Binding :=
  plugin.store.binding? key

/-- Whether a schema was scanned. -/
def isBound (plugin : Plugin) (key : String) : Bool :=
  (plugin.binding? key).isSome

/-- The binding of the schema that changed last. -/
def current (plugin : Plugin) : Binding :=
  plugin.store.current

/-- What a registry holds now. -/
def registryAt (plugin : Plugin) (registry : RegistryRef) : Registry :=
  plugin.store.heap.registryAt registry

/-- What an access rule reads now. -/
def readBy (plugin : Plugin) (rule : RuleRef) : Registry :=
  plugin.store.heap.readBy rule

/-- The registry of the schema that changed last. -/
def registry (plugin : Plugin) : Registry :=
  plugin.registryAt plugin.current.registry

/-- Replaces the records of the current registry. -/
def replaceRecords (plugin : Plugin) (records : List Record) : Plugin :=
  { plugin with store := plugin.store.replace plugin.current.registry records }

/-- Publishes the records of a scan in the registry of a schema. -/
def publish (plugin : Plugin) (key : String) (records : List Record) : Plugin :=
  { plugin with store := (plugin.store.publish key records).2 }

/-- Scans a schema and publishes its records. -/
def rebuild (plugin : Plugin) (catalog : Catalog) (key : String) :
    Except ScanError (Step Binding) := do
  let records ← catalog.scan key
  let binding := (plugin.store.publish key records).1
  return ⟨binding, plugin.publish key records, [.registryRebuilt records.length]⟩

/-- A schema has changed: it is scanned anew. -/
def change (plugin : Plugin) (catalog : Catalog) (schema : Handle) :
    Except ScanError (Step Unit) := do
  if plugin.enabled then
    let step ← plugin.rebuild catalog schema.key
    return ⟨(), step.plugin, step.notices⟩
  else return ⟨(), plugin, []⟩

/-- The binding of a schema; a schema that was never scanned is scanned now. A plugin that is
switched off has no binding for it. -/
def sync (plugin : Plugin) (catalog : Catalog) (schema : Handle) :
    Except ScanError (Step (Option Binding)) := do
  if plugin.enabled then
    match plugin.binding? schema.key with
    | some binding => return ⟨some binding, plugin, []⟩
    | none =>
      let step ← plugin.rebuild catalog schema.key
      return ⟨some step.value, step.plugin, step.notices⟩
  else return ⟨none, plugin, []⟩

/-- The binding that serves a schema; without a schema, and for a plugin that is switched off, the
current one. -/
def bindingFor (plugin : Plugin) (catalog : Catalog) (schema : Option Handle) :
    Except ScanError (Step Binding) := do
  match schema with
  | none => return ⟨plugin.current, plugin, []⟩
  | some schema =>
    let step ← plugin.sync catalog schema
    return ⟨step.value.getD step.plugin.current, step.plugin, step.notices⟩

/-- The access rules for operations on a schema. -/
def rules (plugin : Plugin) (catalog : Catalog) (schema : Option Handle) :
    Except ScanError (Step (List RuleRef)) := do
  if plugin.enabled then
    let step ← plugin.bindingFor catalog schema
    return ⟨[step.value.rule], step.plugin, step.notices⟩
  else return ⟨[], plugin, []⟩

end Plugin

end SchemaVisibility
