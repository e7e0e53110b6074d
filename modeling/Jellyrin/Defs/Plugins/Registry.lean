import Jellyrin.Defs.Data.Rows
import Jellyrin.Defs.Data.SortBy
import Jellyrin.Defs.Plugins.Tables
import Jellyrin.Defs.Transition.Machine

/-! The transactions of the plugin registry. -/

namespace Jellyrin.Plugins

open Ascii Json RowTable

structure InstallPluginPackage where
  pluginId : String
  name : String
  version : String
  runtime : String
  targetAbi : String
  package : Json
  manifest : Json

structure DiscoveredPluginPackage where
  pluginId : String
  name : String
  version : String
  runtime : String
  targetAbi : String
  manifest : Json
  installPath : String

structure PluginRuntimeInstanceUpsert where
  pluginId : String
  runtime : String
  runtimeVersion : String
  status : String
  processId : Option Int64
  endpoint : Option String
  health : Json
  capabilities : List String
  lastError : Option String

structure NewIds where
  row : Uuid
  audit : Uuid
  event : Uuid

def optionalText (value : Option String) : Json := value.elim .null .string

def textArray (values : List String) : Json := .array (values.map .string)

section Registry

variable {Time : Type} (platform : Platform Time)

def sameId (a b : String) : Bool := platform.collation.lower a = platform.collation.lower b

namespace PluginTables

/-! The statements that several transactions share. -/

def canonicalPluginId (s : PluginTables Time) (pluginId : String) : Option String :=
  (s.installed.find? fun plugin => sameId platform plugin.pluginId pluginId).map (·.pluginId)

def canonicalManifestPluginId (s : PluginTables Time) (pluginId : String) : Option String :=
  (s.manifests.find? fun row => sameId platform row.pluginId pluginId).map (·.pluginId)

def canonicalPluginReference (s : PluginTables Time) (pluginId : String) : Option String :=
  (s.canonicalManifestPluginId platform pluginId).or (s.canonicalPluginId platform pluginId)

/-- `INSERT INTO installed_plugins … ON CONFLICT (plugin_id) DO UPDATE`. -/
def putPlugin (merge : InstalledPlugin Time → InstalledPlugin Time) (plugin : InstalledPlugin Time)
    (s : PluginTables Time) : Except String (PluginTables Time) := do
  let installed ← constrained (upsert (·.pluginId)
    (fun row : InstalledPlugin Time => platform.collation.lower row.pluginId) merge plugin
    s.installed)
  .ok { s with installed }

def insertPlugin (plugin : InstalledPlugin Time) (s : PluginTables Time) :
    Except String (PluginTables Time) := do
  let installed ← constrained (insert
    (fun row : InstalledPlugin Time => platform.collation.lower row.pluginId) plugin s.installed)
  .ok { s with installed }

/-- `ON CONFLICT (plugin_id) DO UPDATE` of a document. -/
def putDocument (row : PluginDocument Time) (table : List (PluginDocument Time)) :
    Except String (List (PluginDocument Time)) :=
  constrained (upsert (·.pluginId)
    (fun row : PluginDocument Time => platform.collation.lower row.pluginId)
    (fun old => { old with document := row.document, updatedAt := row.updatedAt }) row table)

def addDocument (row : PluginDocument Time) (table : List (PluginDocument Time)) :
    Except String (List (PluginDocument Time)) :=
  constrained (upsert (·.pluginId)
    (fun row : PluginDocument Time => platform.collation.lower row.pluginId) (fun old => old) row
    table)

def logAudit (id : Uuid) (pluginId action : String) (actorUserId : Option Uuid) (status : String)
    (payload : Json) (now : Time) (s : PluginTables Time) : Except String (PluginTables Time) := do
  let auditLog ← constrained (insert (·.id)
    { id, pluginId := some pluginId, action, actorUserId, status, payload, createdAt := now }
    s.auditLog)
  .ok { s with auditLog }

def logHostEvent (id : Uuid) (pluginId runtime eventType severity message : String)
    (payload : Json) (now : Time) (s : PluginTables Time) : Except String (PluginTables Time) := do
  let hostEvents ← constrained (insert (·.id)
    { id, pluginId := some pluginId, runtime := some runtime, eventType, severity, message, payload,
      createdAt := now } s.hostEvents)
  .ok { s with hostEvents }

end PluginTables

open PluginTables

def newPlugin (pluginId name version runtime targetAbi status : String) (capabilities : Json)
    (lastError : Option String) (health manifest : Json) (now : Time) : InstalledPlugin Time where
  pluginId
  name
  version
  runtime
  runtimeVersion := ""
  targetAbi
  serverCompatibility := .object []
  status
  capabilities
  permissions := .array []
  configurationState := "Default"
  lastError
  health
  manifest
  installedAt := some now
  updatedAt := now

def ensureBuiltinPlugin (pluginId name version : String) (manifest : Json)
    (capabilities : List String) (now : Time) (s : PluginTables Time) :
    Except String (Bool × PluginTables Time) := do
  let normalized := trim pluginId
  if normalized = "" then .error "plugin id must not be empty"
  else
    let existing := s.installed.find? fun plugin => sameId platform plugin.pluginId normalized
    let canonical := (existing.map (·.pluginId)).getD normalized
    let status := ((existing.map (·.status)).filter (· ≠ "")).getD "Active"
    let plugin := newPlugin canonical name version "Builtin" "" status (textArray capabilities) none
      (.object []) manifest now
    let s ← putPlugin platform (fun old =>
      { old with
        name := plugin.name
        version := plugin.version
        runtime := plugin.runtime
        capabilities := plugin.capabilities
        manifest := plugin.manifest
        status := plugin.status
        updatedAt := plugin.updatedAt }) plugin s
    .ok (true, s)

def packageSourceUrl (package : InstallPluginPackage) : Option String :=
  (((package.package.fieldCaseInsensitive "Versions").bind asArray).bind fun versions =>
    (versions.find? fun version =>
      (version.stringField "Version").any (eqIgnoreAsciiCase · package.version)).bind
        (·.stringField "SourceUrl")).or (package.package.stringField "SourceUrl")

def runtimeMissing (runtime : String) : String :=
  runtime ++ " runtime host is not implemented yet."

def notSupported (message : String) : Json :=
  Json.ofFields [("Status", .string "NotSupported"), ("Message", .string message)]

namespace PluginTables

def supersede (pluginId version : String) (now : Time) (s : PluginTables Time) : PluginTables Time :=
  { s with
    installations := updateWhere (fun row =>
      row.packageGuid.any (sameId platform · pluginId) && !sameId platform row.version version &&
        row.status == "Installed")
      (fun row => { row with status := "Superseded", updatedAt := now }) s.installations }

def installationId (s : PluginTables Time) (pluginId version : String) : Option Uuid :=
  (minOf (compareChain [fun a b => platform.compareTime b.updatedAt a.updatedAt]
    fun a b => compare a.id.toNat b.id.toNat)
      (s.installations.filter fun row =>
        row.packageGuid.any (sameId platform · pluginId) && sameId platform row.version version)).map
    (·.id)

def putInstallation (row : PackageInstallation Time) (s : PluginTables Time) :
    Except String (PluginTables Time) := do
  let installations ← constrained (upsert (·.id) (·.id)
    (fun old => { row with id := old.id, installedAt := old.installedAt.or row.installedAt }) row
    s.installations)
  .ok { s with installations }

def addPluginRows (addManifest : PluginDocument Time → List (PluginDocument Time) →
      Except String (List (PluginDocument Time)))
    (pluginId : String) (manifest : Json) (now : Time) (s : PluginTables Time) :
    Except String (PluginTables Time) := do
  let manifests ← addManifest ⟨pluginId, manifest, now⟩ s.manifests
  let configurations ← addDocument platform ⟨pluginId, .object [], now⟩ s.configurations
  let permissions ← addDocument platform ⟨pluginId, .array [], now⟩ s.permissions
  .ok { s with manifests, configurations, permissions }

end PluginTables

def installPluginPackage (package : InstallPluginPackage) (actorUserId : Option Uuid) (ids : NewIds)
    (now : Time) (s : PluginTables Time) : Except String (PluginTables Time) := do
  let pluginId := trim package.pluginId
  if pluginId = "" then .error "plugin id must not be empty"
  else
    let missing := runtimeMissing package.runtime
    let canonical := (s.canonicalPluginId platform pluginId).getD pluginId
    let s := s.supersede platform canonical package.version now
    let installId := (s.installationId platform canonical package.version).getD ids.row
    let s ← s.putInstallation
      { id := installId
        packageName := package.name
        packageGuid := some canonical
        version := package.version
        runtime := package.runtime
        status := "Installed"
        sourceUrl := packageSourceUrl package
        payload := package.package
        installedAt := some now
        updatedAt := now }
    let plugin := newPlugin canonical package.name package.version package.runtime
      package.targetAbi "NotSupported" (.array []) (some missing) (notSupported missing)
      package.manifest now
    let s ← s.putPlugin platform (fun old =>
      { old with
        name := plugin.name
        version := plugin.version
        runtime := plugin.runtime
        targetAbi := plugin.targetAbi
        status := plugin.status
        lastError := plugin.lastError
        health := plugin.health
        manifest := plugin.manifest
        installedAt := old.installedAt.or plugin.installedAt
        updatedAt := plugin.updatedAt }) plugin
    let s ← s.addPluginRows platform (putDocument platform) canonical package.manifest now
    let s ← s.logAudit ids.audit canonical "Install" actorUserId "NotSupported"
      (Json.ofFields
        [("Name", .string package.name), ("Version", .string package.version),
          ("Runtime", .string package.runtime), ("Reason", .string missing)]) now
    s.logHostEvent ids.event canonical package.runtime "RuntimeUnavailable" "Warning" missing
      (Json.ofFields
        [("Name", .string package.name), ("Version", .string package.version),
          ("Runtime", .string package.runtime), ("Status", .string "NotSupported")]) now

def discoveredManifest (package : DiscoveredPluginPackage) : Json :=
  let manifest := if package.manifest.isObject then package.manifest else .object []
  ((((((manifest.set "Guid" (.string (trim package.pluginId))).set "Name"
    (.string package.name)).set "Version" (.string package.version)).set "Runtime"
      (.string package.runtime)).set "TargetAbi" (.string package.targetAbi)).set "Installation"
        (Json.ofFields
          [("Mode", .string "filesystem-discovered"), ("InstallPath", .string package.installPath)]))

def upsertDiscoveredPluginPackage (package : DiscoveredPluginPackage) (ids : NewIds) (now : Time)
    (s : PluginTables Time) : Except String (Bool × PluginTables Time) := do
  let pluginId := trim package.pluginId
  if pluginId = "" then .error "plugin id must not be empty"
  else if (s.canonicalPluginId platform pluginId).isSome then .ok (false, s)
  else
    let missing := runtimeMissing package.runtime
    let manifest := discoveredManifest package
    let s ← s.insertPlugin platform (newPlugin pluginId package.name package.version package.runtime
      package.targetAbi "NotSupported" (.array []) (some missing) (notSupported missing) manifest now)
    let s ← s.addPluginRows platform (addDocument platform) pluginId manifest now
    let s ← s.logHostEvent ids.event pluginId package.runtime "Discovery" "Information"
      (package.name ++ " " ++ package.version ++ " discovered from filesystem.")
      (Json.ofFields
        [("InstallPath", .string package.installPath), ("Runtime", .string package.runtime)]) now
    let s ← s.logAudit ids.audit pluginId "Discover" none "NotSupported"
      (Json.ofFields
        [("Name", .string package.name), ("Version", .string package.version),
          ("Runtime", .string package.runtime), ("InstallPath", .string package.installPath)]) now
    .ok (true, s)

def xtreamPluginId : String := "jellyrin-xtream-provider"

def storedConfiguration (normalized : String) (configuration : Json) (s : PluginTables Time) :
    Except String Json :=
  if eqIgnoreAsciiCase normalized xtreamPluginId then
    let existing := s.configurations.find? fun row => sameId platform row.pluginId normalized
    platform.protectProviderConfiguration (platform.inheritProviderSecretReference configuration
      (existing.map (·.document)))
  else .ok configuration

def updatePluginConfigurationJson (pluginId : String) (configuration : Json) (now : Time)
    (s : PluginTables Time) : Except String (Bool × PluginTables Time) :=
  let normalized := trim pluginId
  match s.canonicalPluginReference platform normalized with
  | none => .ok (false, s)
  | some canonical => do
    let configuration ← storedConfiguration platform normalized configuration s
    let configurations ← putDocument platform ⟨canonical, configuration, now⟩ s.configurations
    .ok (true, { s with configurations })

def updatePluginPermissionsJson (pluginId : String) (permissions : Json)
    (actorUserId : Option Uuid) (ids : NewIds) (now : Time) (s : PluginTables Time) :
    Except String (Bool × PluginTables Time) :=
  match s.canonicalManifestPluginId platform (trim pluginId) with
  | none => .ok (false, s)
  | some canonical => do
    let rows ← putDocument platform ⟨canonical, permissions, now⟩ s.permissions
    let installed := updateWhere (fun plugin => sameId platform plugin.pluginId canonical)
      (fun plugin => { plugin with permissions, updatedAt := now }) s.installed
    let s ← logAudit ids.audit canonical "UpdatePermissions" actorUserId "Updated" permissions now
      { s with permissions := rows, installed }
    .ok (true, s)

def setInstalledPluginStatus (pluginId status : String) (lastError : Option String)
    (actorUserId : Option Uuid) (ids : NewIds) (now : Time) (s : PluginTables Time) :
    Except String (Bool × PluginTables Time) :=
  let normalized := trim pluginId
  match s.canonicalPluginId platform normalized with
  | none => .ok (false, s)
  | some canonical => do
    let installed := updateWhere (fun plugin => sameId platform plugin.pluginId normalized)
      (fun plugin => { plugin with status, lastError, updatedAt := now }) s.installed
    let s ← logAudit ids.audit canonical "SetStatus" actorUserId status
      (Json.ofFields [("LastError", optionalText lastError)]) now { s with installed }
    .ok (true, s)

namespace PluginTables

def runtimeInstanceId (s : PluginTables Time) (pluginId runtime : String) : Option Uuid :=
  (minOf (compareChain [fun a b => platform.compareTime b.updatedAt a.updatedAt]
    fun a b => compare a.instanceId.toNat b.instanceId.toNat)
      (s.instances.filter fun row =>
        row.pluginId.any (sameId platform · pluginId) && sameId platform row.runtime runtime)).map
    (·.instanceId)

def putInstance (row : PluginRuntimeInstance Time) (s : PluginTables Time) :
    Except String (PluginTables Time) := do
  let instances ← constrained (upsert (·.instanceId) (·.instanceId)
    (fun old =>
      { row with
        instanceId := old.instanceId
        pluginId := old.pluginId
        runtime := old.runtime
        startedAt := old.startedAt.or row.startedAt }) row s.instances)
  .ok { s with instances }

end PluginTables

def upsertPluginRuntimeInstance (new : PluginRuntimeInstanceUpsert) (actorUserId : Option Uuid)
    (ids : NewIds) (now : Time) (s : PluginTables Time) :
    Except String (Bool × PluginTables Time) :=
  let normalized := trim new.pluginId
  match s.canonicalPluginId platform normalized with
  | none => .ok (false, s)
  | some canonical => do
    let installed := updateWhere (fun plugin => sameId platform plugin.pluginId normalized)
      (fun plugin =>
        { plugin with
          runtimeVersion := new.runtimeVersion
          status := new.status
          capabilities := textArray new.capabilities
          lastError := new.lastError
          health := new.health
          updatedAt := now }) s.installed
    let s := { s with installed }
    let instanceId := (s.runtimeInstanceId platform canonical new.runtime).getD ids.row
    let s ← s.putInstance
      { instanceId
        pluginId := some canonical
        runtime := new.runtime
        runtimeVersion := new.runtimeVersion
        status := new.status
        processId := new.processId
        endpoint := new.endpoint
        health := new.health
        lastError := new.lastError
        startedAt := some now
        updatedAt := now }
    let s ← s.logHostEvent ids.event canonical new.runtime "RuntimeStatus"
      (if eqIgnoreAsciiCase new.status "Active" then "Information" else "Warning")
      (new.runtime ++ " runtime status changed to " ++ new.status ++ ".")
      (Json.ofFields
        [("InstanceId", .string instanceId.hyphenated),
          ("RuntimeVersion", .string new.runtimeVersion),
          ("ProcessId", new.processId.elim .null fun id => .number id.toInt),
          ("Endpoint", optionalText new.endpoint), ("Health", new.health),
          ("LastError", optionalText new.lastError)]) now
    let s ← s.logAudit ids.audit canonical "RuntimeStatus" actorUserId new.status
      (Json.ofFields
        [("Runtime", .string new.runtime), ("RuntimeVersion", .string new.runtimeVersion),
          ("Capabilities", textArray new.capabilities)]) now
    .ok (true, s)

def uninstallPluginState (pluginId : String) (actorUserId : Option Uuid) (ids : NewIds)
    (now : Time) (s : PluginTables Time) : Except String (Bool × PluginTables Time) :=
  let normalized := trim pluginId
  match s.canonicalPluginId platform normalized with
  | none => .ok (false, s)
  | some canonical => do
    let ofPlugin := fun row : PluginDocument Time => sameId platform row.pluginId canonical
    let s ← logAudit ids.audit canonical "Uninstall" actorUserId "Deleted" (.object []) now
      { s with
        installed := deleteWhere (fun plugin => sameId platform plugin.pluginId normalized)
          s.installed
        manifests := deleteWhere ofPlugin s.manifests
        configurations := deleteWhere ofPlugin s.configurations
        permissions := deleteWhere ofPlugin s.permissions
        instances := deleteWhere (fun row => row.pluginId.any (sameId platform · canonical))
          s.instances
        installations := deleteWhere (fun row => row.packageGuid.any (sameId platform · canonical))
          s.installations }
    .ok (true, s)

/-! Runs of the registry. -/

inductive PluginOperation where
  | ensureBuiltin (pluginId name version : String) (manifest : Json) (capabilities : List String)
  | install (package : InstallPluginPackage) (actorUserId : Option Uuid)
  | discover (package : DiscoveredPluginPackage)
  | updateConfiguration (pluginId : String) (configuration : Json)
  | updatePermissions (pluginId : String) (permissions : Json) (actorUserId : Option Uuid)
  | setStatus (pluginId status : String) (lastError : Option String) (actorUserId : Option Uuid)
  | upsertInstance (new : PluginRuntimeInstanceUpsert) (actorUserId : Option Uuid)
  | uninstall (pluginId : String) (actorUserId : Option Uuid)

structure PluginTransaction (Time : Type) where
  operation : PluginOperation
  ids : NewIds
  now : Time

def PluginTransaction.run (transaction : PluginTransaction Time) (s : PluginTables Time) :
    Except String (PluginTables Time) :=
  match transaction.operation with
  | .ensureBuiltin pluginId name version manifest capabilities =>
    (ensureBuiltinPlugin platform pluginId name version manifest capabilities transaction.now s).map
      Prod.snd
  | .install package actor =>
    installPluginPackage platform package actor transaction.ids transaction.now s
  | .discover package =>
    (upsertDiscoveredPluginPackage platform package transaction.ids transaction.now s).map Prod.snd
  | .updateConfiguration pluginId configuration =>
    (updatePluginConfigurationJson platform pluginId configuration transaction.now s).map Prod.snd
  | .updatePermissions pluginId permissions actor =>
    (updatePluginPermissionsJson platform pluginId permissions actor transaction.ids transaction.now
      s).map Prod.snd
  | .setStatus pluginId status lastError actor =>
    (setInstalledPluginStatus platform pluginId status lastError actor transaction.ids
      transaction.now s).map Prod.snd
  | .upsertInstance new actor =>
    (upsertPluginRuntimeInstance platform new actor transaction.ids transaction.now s).map Prod.snd
  | .uninstall pluginId actor =>
    (uninstallPluginState platform pluginId actor transaction.ids transaction.now s).map Prod.snd

def NewIds.IsFresh (ids : NewIds) (s : PluginTables Time) : Prop :=
  (∀ row ∈ s.installations, row.id ≠ ids.row) ∧ ∀ row ∈ s.instances, row.instanceId ≠ ids.row

instance (ids : NewIds) (s : PluginTables Time) : Decidable (ids.IsFresh s) :=
  inferInstanceAs (Decidable (_ ∧ _))

def pluginRegistry : Transition.Machine (PluginTables Time) (PluginTransaction Time) where
  init := .empty Time
  step s transaction :=
    if transaction.ids.IsFresh s then
      some ((transaction.run platform s).toOption.getD s)
    else none

end Registry

end Jellyrin.Plugins
