import Jellyrin.Defs.Data.Collation
import Jellyrin.Defs.Data.JsonFields
import Jellyrin.Defs.Data.RowTable
import Jellyrin.Defs.Data.EntityId

/-! The tables of the plugin platform. -/

namespace Jellyrin.Plugins

structure InstalledPlugin (Time : Type) where
  pluginId : String
  name : String
  version : String
  runtime : String
  runtimeVersion : String
  targetAbi : String
  serverCompatibility : Json
  status : String
  capabilities : Json
  permissions : Json
  configurationState : String
  lastError : Option String
  health : Json
  manifest : Json
  installedAt : Option Time
  updatedAt : Time
  deriving DecidableEq

/-- A row of `plugin_manifests`, `plugin_configurations` or `plugin_permissions`. -/
structure PluginDocument (Time : Type) where
  pluginId : String
  document : Json
  updatedAt : Time
  deriving DecidableEq

structure PluginRuntimeInstance (Time : Type) where
  instanceId : Uuid
  pluginId : Option String
  runtime : String
  runtimeVersion : String
  status : String
  processId : Option Int64
  endpoint : Option String
  health : Json
  lastError : Option String
  startedAt : Option Time
  updatedAt : Time
  deriving DecidableEq

structure PluginHostEvent (Time : Type) where
  id : Uuid
  pluginId : Option String
  runtime : Option String
  eventType : String
  severity : String
  message : String
  payload : Json
  createdAt : Time
  deriving DecidableEq

structure PluginAuditEntry (Time : Type) where
  id : Uuid
  pluginId : Option String
  action : String
  actorUserId : Option Uuid
  status : String
  payload : Json
  createdAt : Time
  deriving DecidableEq

structure PackageInstallation (Time : Type) where
  id : Uuid
  packageName : String
  packageGuid : Option String
  version : String
  runtime : String
  status : String
  sourceUrl : Option String
  payload : Json
  installedAt : Option Time
  updatedAt : Time
  deriving DecidableEq

structure PluginRepository where
  name : String
  url : String
  enabled : Bool
  payload : Json
  deriving DecidableEq

structure CatalogPackage where
  repositoryUrl : String
  packageGuid : Option String
  packageName : String
  packageVersion : String
  runtime : String
  targetAbi : String
  payload : Json
  deriving DecidableEq

structure PluginTables (Time : Type) where
  installed : List (InstalledPlugin Time)
  manifests : List (PluginDocument Time)
  configurations : List (PluginDocument Time)
  permissions : List (PluginDocument Time)
  instances : List (PluginRuntimeInstance Time)
  hostEvents : List (PluginHostEvent Time)
  auditLog : List (PluginAuditEntry Time)
  installations : List (PackageInstallation Time)
  repositories : List PluginRepository
  catalog : List CatalogPackage
  deriving DecidableEq

def PluginTables.empty (Time : Type) : PluginTables Time where
  installed := []
  manifests := []
  configurations := []
  permissions := []
  instances := []
  hostEvents := []
  auditLog := []
  installations := []
  repositories := []
  catalog := []

/-- What the platform is given: the texts and times of the database, and the vault that keeps the
credentials of the Xtream provider out of its configuration. -/
structure Platform (Time : Type) where
  collation : Collation
  compareTime : Time → Time → Ordering
  formatTime : Time → String
  parseTime : String → Option Time
  inheritProviderSecretReference : Json → Option Json → Json
  protectProviderConfiguration : Json → Except String Json

def constrained {α : Type} : Option α → Except String α
  | none => .error "duplicate key value violates unique constraint"
  | some value => .ok value

theorem constrained_eq_ok {α : Type} {value : Option α} {a : α} :
    constrained value = .ok a ↔ value = some a := by
  cases value <;> simp [constrained]

end Jellyrin.Plugins
