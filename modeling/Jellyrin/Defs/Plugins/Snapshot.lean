import Jellyrin.Defs.Data.JsonObject
import Jellyrin.Defs.Plugins.Registry

/-! The backup of the plugin platform. -/

namespace Jellyrin.Plugins

open Ascii Json RowTable

/-! The catalogue of packages is made from the system configuration. -/

def arrayField (value : Json) (field : String) : Option (List Json) :=
  (value.fieldCaseInsensitive field).bind asArray

def pluginRepositoryModelsFromConfig (value : Json) : List PluginRepository :=
  (value.asArray.getD []).filterMap fun value => do
    let name ← value.stringField "Name"
    let url ← value.stringField "Url"
    let enabled := (((value.get "Enabled").or (value.get "enabled")).bind asBool).getD true
    some { name, url, enabled, payload := value }

def packageCatalogVersion (repository : PluginRepository) (package : Json) (packageName : String)
    (version : Json) : CatalogPackage where
  repositoryUrl := repository.url
  packageGuid := ((package.stringField "Guid").or (package.stringField "Id")).or
    (package.stringField "AssemblyGuid")
  packageName
  packageVersion := (version.stringField "Version").getD "0.0.0.0"
  runtime := (version.stringField "Runtime").getD
    ((package.stringField "Runtime").getD "DotNetJellyfin")
  targetAbi := ((version.stringField "TargetAbi").or (package.stringField "TargetAbi")).getD ""
  payload := Json.ofFields
    [("RepositoryName", .string repository.name), ("RepositoryUrl", .string repository.url),
      ("Package", package), ("Version", version)]

def packageCatalogModelsFromRepositories (repositories : List PluginRepository) :
    List CatalogPackage :=
  (repositories.filter (·.enabled)).flatMap fun repository =>
    ((arrayField repository.payload "Packages").getD []).flatMap fun package =>
      match package.stringField "Name" with
      | none => []
      | some packageName =>
        ((arrayField package "Versions").getD [package]).map
          (packageCatalogVersion repository package packageName)

def catalogKey (row : CatalogPackage) : String × String × String :=
  (row.repositoryUrl, row.packageName, row.packageVersion)

section Snapshot

variable {Time : Type}

def insertAll {R I : Type} [DecidableEq I] (index : R → I) (rows : List R) :
    Except String (List R) :=
  constrained (rows.foldlM (fun table row => insert index row table) [])

def replaceCatalogFromConfiguration (configuration : Json) (s : PluginTables Time) :
    Except String (PluginTables Time) := do
  let models := pluginRepositoryModelsFromConfig configuration
  let repositories ← insertAll (·.url) models
  let catalog ← insertAll catalogKey (packageCatalogModelsFromRepositories models)
  .ok { s with repositories, catalog }

variable (platform : Platform Time)

/-! The rows as they are shown. -/

def timeJson (time : Time) : Json := .string (platform.formatTime time)

def optionalTimeJson (time : Option Time) : Json := time.elim .null (timeJson platform)

def uuidJson (id : Uuid) : Json := .string id.hyphenated

def repositoryFields (row : PluginRepository) : List (String × Json) :=
  [("Name", .string row.name), ("Url", .string row.url), ("Enabled", .bool row.enabled),
    ("Payload", row.payload)]

def packageCatalogFields (row : CatalogPackage) : List (String × Json) :=
  [("RepositoryUrl", .string row.repositoryUrl), ("Guid", optionalText row.packageGuid),
    ("Name", .string row.packageName), ("Version", .string row.packageVersion),
    ("Runtime", .string row.runtime), ("TargetAbi", .string row.targetAbi),
    ("Payload", row.payload)]

def packageInstallationFields (row : PackageInstallation Time) : List (String × Json) :=
  [("Name", .string row.packageName), ("Guid", optionalText row.packageGuid),
    ("Version", .string row.version), ("Runtime", .string row.runtime),
    ("Status", .string row.status), ("SourceUrl", optionalText row.sourceUrl),
    ("Payload", row.payload), ("InstalledAt", optionalTimeJson platform row.installedAt),
    ("UpdatedAt", timeJson platform row.updatedAt)]

def pluginFields (row : InstalledPlugin Time) : List (String × Json) :=
  [("Id", .string row.pluginId), ("Guid", .string row.pluginId), ("Name", .string row.name),
    ("Version", .string row.version), ("Runtime", .string row.runtime),
    ("RuntimeVersion", .string row.runtimeVersion), ("TargetAbi", .string row.targetAbi),
    ("ServerCompatibility", row.serverCompatibility), ("Status", .string row.status),
    ("Capabilities", row.capabilities), ("Permissions", row.permissions),
    ("ConfigurationState", .string row.configurationState),
    ("LastError", optionalText row.lastError), ("Health", row.health),
    ("Manifest", row.manifest), ("InstalledAt", optionalTimeJson platform row.installedAt),
    ("UpdatedAt", timeJson platform row.updatedAt)]

def documentFields (name : String) (row : PluginDocument Time) : List (String × Json) :=
  [("PluginId", .string row.pluginId), (name, row.document),
    ("UpdatedAt", timeJson platform row.updatedAt)]

def pluginRuntimeFields (row : PluginRuntimeInstance Time) : List (String × Json) :=
  [("InstanceId", uuidJson row.instanceId), ("PluginId", optionalText row.pluginId),
    ("Runtime", .string row.runtime), ("RuntimeVersion", .string row.runtimeVersion),
    ("Status", .string row.status),
    ("ProcessId", row.processId.elim .null fun id => .number id.toInt),
    ("Endpoint", optionalText row.endpoint), ("Health", row.health),
    ("LastError", optionalText row.lastError),
    ("StartedAt", optionalTimeJson platform row.startedAt),
    ("UpdatedAt", timeJson platform row.updatedAt)]

def pluginHostEventFields (row : PluginHostEvent Time) : List (String × Json) :=
  [("Id", uuidJson row.id), ("PluginId", optionalText row.pluginId),
    ("Runtime", optionalText row.runtime), ("EventType", .string row.eventType),
    ("Severity", .string row.severity), ("Message", .string row.message),
    ("Payload", row.payload), ("CreatedAt", timeJson platform row.createdAt)]

def pluginAuditFields (row : PluginAuditEntry Time) : List (String × Json) :=
  [("Id", uuidJson row.id), ("PluginId", optionalText row.pluginId),
    ("Action", .string row.action), ("ActorUserId", row.actorUserId.elim .null uuidJson),
    ("Status", .string row.status), ("Payload", row.payload),
    ("CreatedAt", timeJson platform row.createdAt)]

/-! The order of the rows.  Rows of the catalogue that agree are in the order of the identifiers
that they were given at random. -/

def compareLower (a b : String) : Ordering :=
  platform.collation.compare (platform.collation.lower a) (platform.collation.lower b)

def compareRepositories : PluginRepository → PluginRepository → Ordering :=
  compareChain
    [fun a b => compareLower platform a.name b.name, fun a b => compareLower platform a.url b.url]
    fun _ _ => .eq

def comparePackages : CatalogPackage → CatalogPackage → Ordering :=
  compareChain
    [fun a b => compareLower platform a.packageName b.packageName,
      fun a b => compareLower platform a.packageVersion b.packageVersion]
    fun _ _ => .eq

def compareInstallations : PackageInstallation Time → PackageInstallation Time → Ordering :=
  compareChain
    [fun a b => compareLower platform a.packageName b.packageName,
      fun a b => compareLower platform a.version b.version]
    fun a b => compare a.id.toNat b.id.toNat

def comparePlugins : InstalledPlugin Time → InstalledPlugin Time → Ordering :=
  compareChain
    [fun a b => compareLower platform a.name b.name,
      fun a b => compareLower platform a.version b.version]
    fun a b => platform.collation.compare a.pluginId b.pluginId

def compareInstances : PluginRuntimeInstance Time → PluginRuntimeInstance Time → Ordering :=
  compareChain
    [fun a b => compareNullsLast (compareLower platform) a.pluginId b.pluginId]
    fun a b => compare a.instanceId.toNat b.instanceId.toNat

def compareHostEvents : PluginHostEvent Time → PluginHostEvent Time → Ordering :=
  compareChain [fun a b => platform.compareTime a.createdAt b.createdAt]
    fun a b => compare a.id.toNat b.id.toNat

def compareAuditEntries : PluginAuditEntry Time → PluginAuditEntry Time → Ordering :=
  compareChain [fun a b => platform.compareTime a.createdAt b.createdAt]
    fun a b => compare a.id.toNat b.id.toNat

/-! The snapshot. -/

def snapshotSection (items : List Json) : Json :=
  Json.ofFields [("Count", .number items.length), ("Items", .array items)]

def documentItems (name : String) (rows : List (PluginDocument Time)) : List Json :=
  (sortBy (fun a b => compareLower platform a.pluginId b.pluginId) rows).map fun row =>
    Json.ofFields (documentFields platform name row)

def snapshotSections (s : PluginTables Time) : List (String × List Json) :=
  [("Repositories", (sortBy (compareRepositories platform) s.repositories).map fun row =>
      Json.ofFields (repositoryFields row)),
    ("PackageCatalogCache", (sortBy (comparePackages platform) s.catalog).map fun row =>
      Json.ofFields (packageCatalogFields row)),
    ("PackageInstallations", (sortBy (compareInstallations platform) s.installations).map fun row =>
      Json.ofFields (packageInstallationFields platform row)),
    ("InstalledPlugins", (sortBy (comparePlugins platform) s.installed).map fun row =>
      Json.ofFields (pluginFields platform row)),
    ("PluginManifests", documentItems platform "Manifest" s.manifests),
    ("PluginConfigurations", documentItems platform "Configuration" s.configurations),
    ("PluginPermissions", documentItems platform "Permissions" s.permissions),
    ("PluginRuntimeInstances", (sortBy (compareInstances platform) s.instances).map fun row =>
      Json.ofFields (pluginRuntimeFields platform row)),
    ("PluginHostEvents", (sortBy (compareHostEvents platform) s.hostEvents).map fun row =>
      Json.ofFields (pluginHostEventFields platform row)),
    ("PluginAuditLog", (sortBy (compareAuditEntries platform) s.auditLog).map fun row =>
      Json.ofFields (pluginAuditFields platform row))]

def snapshotHeader : List (String × Json) :=
  [("ModelVersion", .number 1), ("Mode", .string "metadata-only"), ("Supported", .bool true),
    ("PackageBinaries", Json.ofFields
      [("Mode", .string "not-restored"), ("Supported", .bool false),
        ("Reason", .string "Backup restores plugin state and metadata; package binary directories are intentionally not copied.")])]

def snapshotJson (s : PluginTables Time) : Json :=
  Json.ofFields (snapshotHeader ++ (snapshotSections platform s).map fun entry =>
    (entry.1, snapshotSection entry.2))

def pluginPlatformSnapshot (configuration : Json) (s : PluginTables Time) :
    Except String (Json × PluginTables Time) := do
  let s ← replaceCatalogFromConfiguration configuration s
  .ok (snapshotJson platform s, s)

/-! The items as they are read back. -/

def pluginSnapshotItems (snapshot : Json) (name : String) : Except String (List Json) :=
  match ((snapshot.get name).bind (·.get "Items")).bind asArray with
  | none => .error ("plugin snapshot section " ++ name ++ ".Items must be an array")
  | some items => .ok items

def pluginSnapshotOptionalString (item : Json) (field : String) : Option String :=
  item.stringField field

def pluginSnapshotString (item : Json) (field : String) : Except String String :=
  match pluginSnapshotOptionalString item field with
  | none => .error ("plugin snapshot item is missing " ++ field)
  | some text => .ok text

def pluginSnapshotBool (item : Json) (field : String) : Option Bool :=
  (item.fieldCaseInsensitive field).bind asBool

def pluginSnapshotJson (item : Json) (field : String) (default : Json) : Json :=
  (item.fieldCaseInsensitive field).getD default

def pluginSnapshotOptionalUuid (item : Json) (field : String) : Except String (Option Uuid) :=
  match pluginSnapshotOptionalString item field with
  | none => .ok none
  | some text =>
    match Uuid.parseStr text with
    | none => .error ("plugin snapshot " ++ field ++ " is not a valid UUID")
    | some id => .ok (some id)

def pluginSnapshotInternalUuid (item : Json) (field : String) (new : Uuid) : Uuid :=
  ((pluginSnapshotOptionalString item field).bind Uuid.parseStr).getD new

def pluginSnapshotOptionalTimestamp (item : Json) (field : String) :
    Except String (Option Time) :=
  match pluginSnapshotOptionalString item field with
  | none => .ok none
  | some text =>
    match platform.parseTime text with
    | none => .error ("plugin snapshot " ++ field ++ " is not a valid timestamp")
    | some time => .ok (some time)

def pluginSnapshotTimestampOr (item : Json) (field : String) (default : Time) :
    Except String Time :=
  (pluginSnapshotOptionalTimestamp platform item field).map (·.getD default)

def asI64 : Json → Option Int64
  | .number value => if -2 ^ 63 ≤ value ∧ value < 2 ^ 63 then some (Int64.ofInt value) else none
  | _ => none

def readRepository (item : Json) : Except String PluginRepository := do
  let name ← pluginSnapshotString item "Name"
  let url ← pluginSnapshotString item "Url"
  let enabled := (pluginSnapshotBool item "Enabled").getD true
  let payload := pluginSnapshotJson item "Payload" (Json.ofFields
    [("Name", .string name), ("Url", .string url), ("Enabled", .bool enabled)])
  .ok { name, url, enabled, payload }

def readPackageCatalog (item : Json) : Except String CatalogPackage := do
  let repositoryUrl ← pluginSnapshotString item "RepositoryUrl"
  let packageName ← pluginSnapshotString item "Name"
  let packageVersion ← pluginSnapshotString item "Version"
  .ok
    { repositoryUrl
      packageGuid := pluginSnapshotOptionalString item "Guid"
      packageName
      packageVersion
      runtime := (pluginSnapshotOptionalString item "Runtime").getD "Unknown"
      targetAbi := (pluginSnapshotOptionalString item "TargetAbi").getD ""
      payload := pluginSnapshotJson item "Payload" (.object []) }

section Read

variable (now : Time)

def readPackageInstallation (new : Uuid) (item : Json) :
    Except String (PackageInstallation Time) := do
  let packageName ← pluginSnapshotString item "Name"
  let version ← pluginSnapshotString item "Version"
  let installedAt ← pluginSnapshotOptionalTimestamp platform item "InstalledAt"
  let updatedAt ← pluginSnapshotTimestampOr platform item "UpdatedAt" now
  .ok
    { id := new
      packageName
      packageGuid := pluginSnapshotOptionalString item "Guid"
      version
      runtime := (pluginSnapshotOptionalString item "Runtime").getD "Unknown"
      status := (pluginSnapshotOptionalString item "Status").getD "Installed"
      sourceUrl := pluginSnapshotOptionalString item "SourceUrl"
      payload := pluginSnapshotJson item "Payload" (.object [])
      installedAt
      updatedAt }

def readPluginId (item : Json) : Except String String :=
  match pluginSnapshotString item "Id" with
  | .ok pluginId => .ok pluginId
  | .error _ => pluginSnapshotString item "Guid"

def readPlugin (item : Json) : Except String (InstalledPlugin Time) := do
  let pluginId ← readPluginId item
  let name ← pluginSnapshotString item "Name"
  let version ← pluginSnapshotString item "Version"
  let installedAt ← pluginSnapshotOptionalTimestamp platform item "InstalledAt"
  let updatedAt ← pluginSnapshotTimestampOr platform item "UpdatedAt" now
  .ok
    { pluginId
      name
      version
      runtime := (pluginSnapshotOptionalString item "Runtime").getD "Unknown"
      runtimeVersion := (pluginSnapshotOptionalString item "RuntimeVersion").getD ""
      targetAbi := (pluginSnapshotOptionalString item "TargetAbi").getD ""
      serverCompatibility := pluginSnapshotJson item "ServerCompatibility" (.object [])
      status := (pluginSnapshotOptionalString item "Status").getD "NotSupported"
      capabilities := pluginSnapshotJson item "Capabilities" (.array [])
      permissions := pluginSnapshotJson item "Permissions" (.array [])
      configurationState := (pluginSnapshotOptionalString item "ConfigurationState").getD "Default"
      lastError := pluginSnapshotOptionalString item "LastError"
      health := pluginSnapshotJson item "Health" (.object [])
      manifest := pluginSnapshotJson item "Manifest" (.object [])
      installedAt
      updatedAt }

def readDocument (name : String) (default item : Json) : Except String (PluginDocument Time) := do
  let pluginId ← pluginSnapshotString item "PluginId"
  let updatedAt ← pluginSnapshotTimestampOr platform item "UpdatedAt" now
  .ok { pluginId, document := pluginSnapshotJson item name default, updatedAt }

def protectRestored (row : PluginDocument Time) : Except String (PluginDocument Time) :=
  if eqIgnoreAsciiCase row.pluginId xtreamPluginId then
    (platform.protectProviderConfiguration row.document).map fun document => { row with document }
  else .ok row

def readConfiguration (item : Json) : Except String (PluginDocument Time) := do
  let row ← readDocument platform now "Configuration" (.object []) item
  protectRestored platform row

def readRuntimeInstance (new : Uuid) (item : Json) :
    Except String (PluginRuntimeInstance Time) := do
  let startedAt ← pluginSnapshotOptionalTimestamp platform item "StartedAt"
  let updatedAt ← pluginSnapshotTimestampOr platform item "UpdatedAt" now
  .ok
    { instanceId := pluginSnapshotInternalUuid item "InstanceId" new
      pluginId := pluginSnapshotOptionalString item "PluginId"
      runtime := (pluginSnapshotOptionalString item "Runtime").getD "Unknown"
      runtimeVersion := (pluginSnapshotOptionalString item "RuntimeVersion").getD ""
      status := (pluginSnapshotOptionalString item "Status").getD "Stopped"
      processId := (item.fieldCaseInsensitive "ProcessId").bind asI64
      endpoint := pluginSnapshotOptionalString item "Endpoint"
      health := pluginSnapshotJson item "Health" (.object [])
      lastError := pluginSnapshotOptionalString item "LastError"
      startedAt
      updatedAt }

def readHostEvent (new : Uuid) (item : Json) : Except String (PluginHostEvent Time) := do
  let eventType ← pluginSnapshotString item "EventType"
  let createdAt ← pluginSnapshotTimestampOr platform item "CreatedAt" now
  .ok
    { id := pluginSnapshotInternalUuid item "Id" new
      pluginId := pluginSnapshotOptionalString item "PluginId"
      runtime := pluginSnapshotOptionalString item "Runtime"
      eventType
      severity := (pluginSnapshotOptionalString item "Severity").getD "Information"
      message := (pluginSnapshotOptionalString item "Message").getD ""
      payload := pluginSnapshotJson item "Payload" (.object [])
      createdAt }

def readAuditEntry (new : Uuid) (item : Json) : Except String (PluginAuditEntry Time) := do
  let action ← pluginSnapshotString item "Action"
  let actorUserId ← pluginSnapshotOptionalUuid item "ActorUserId"
  let createdAt ← pluginSnapshotTimestampOr platform item "CreatedAt" now
  .ok
    { id := pluginSnapshotInternalUuid item "Id" new
      pluginId := pluginSnapshotOptionalString item "PluginId"
      action
      actorUserId
      status := (pluginSnapshotOptionalString item "Status").getD "Unknown"
      payload := pluginSnapshotJson item "Payload" (.object [])
      createdAt }

/-- The items of a section are read and inserted one by one, with new identifiers where they are
needed. -/
def restoreTable {R I : Type} [DecidableEq I] (index : R → I)
    (read : Uuid → Json → Except String R) (newIds : Nat → Uuid) (items : List Json) :
    Except String (List R) :=
  items.zipIdx.foldlM (fun table entry => do
    let row ← read (newIds entry.2) entry.1
    constrained (insert index row table)) []

def documentIndex (row : PluginDocument Time) : String := platform.collation.lower row.pluginId

def restorePluginPlatformSnapshot (newIds : Nat → Uuid) (snapshot : Json) :
    Except String (PluginTables Time) :=
  match (snapshot.get "ModelVersion").bind asI64 with
  | none => .error "plugin snapshot ModelVersion is missing"
  | some version =>
    if version ≠ 1 then .error "unsupported plugin snapshot ModelVersion"
    else do
      let configurationItems ← pluginSnapshotItems snapshot "PluginConfigurations"
      let restoredConfigurations ← configurationItems.mapM (readConfiguration platform now)
      let repositories ← restoreTable (·.url) (fun _ => readRepository) newIds
        (← pluginSnapshotItems snapshot "Repositories")
      let catalog ← restoreTable catalogKey (fun _ => readPackageCatalog) newIds
        (← pluginSnapshotItems snapshot "PackageCatalogCache")
      let installations ← restoreTable (·.id) (readPackageInstallation platform now) newIds
        (← pluginSnapshotItems snapshot "PackageInstallations")
      let installed ← restoreTable (fun row => platform.collation.lower row.pluginId)
        (fun _ => readPlugin platform now) newIds
        (← pluginSnapshotItems snapshot "InstalledPlugins")
      let manifests ← restoreTable (documentIndex platform)
        (fun _ => readDocument platform now "Manifest" (.object [])) newIds
        (← pluginSnapshotItems snapshot "PluginManifests")
      let configurations ← insertAll (documentIndex platform) restoredConfigurations
      let permissions ← restoreTable (documentIndex platform)
        (fun _ => readDocument platform now "Permissions" (.array [])) newIds
        (← pluginSnapshotItems snapshot "PluginPermissions")
      let instances ← restoreTable (·.instanceId) (readRuntimeInstance platform now) newIds
        (← pluginSnapshotItems snapshot "PluginRuntimeInstances")
      let hostEvents ← restoreTable (·.id) (readHostEvent platform now) newIds
        (← pluginSnapshotItems snapshot "PluginHostEvents")
      let auditLog ← restoreTable (·.id) (readAuditEntry platform now) newIds
        (← pluginSnapshotItems snapshot "PluginAuditLog")
      .ok
        { installed, manifests, configurations, permissions, instances, hostEvents, auditLog,
          installations, repositories, catalog }

end Read

end Snapshot

end Jellyrin.Plugins
