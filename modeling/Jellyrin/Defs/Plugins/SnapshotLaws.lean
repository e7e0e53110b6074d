import Jellyrin.Defs.Plugins.RegistryRuns
import Jellyrin.Defs.Plugins.Snapshot

/-! A backup is read back as it was written. -/

namespace Jellyrin.Plugins

open Ascii Json RowTable

/-! Rows whose texts the readers leave as they are. -/

section Rows

variable {Time : Type}

structure InstalledPlugin.IsRestorable (row : InstalledPlugin Time) : Prop where
  pluginId : Filled row.pluginId
  name : Filled row.name
  version : Filled row.version
  runtime : Filled row.runtime
  runtimeVersion : Trimmed row.runtimeVersion
  targetAbi : Trimmed row.targetAbi
  status : Filled row.status
  configurationState : Filled row.configurationState
  lastError : ∀ text ∈ row.lastError, Filled text

def PluginDocument.IsRestorable (row : PluginDocument Time) : Prop := Filled row.pluginId

structure PluginRuntimeInstance.IsRestorable (row : PluginRuntimeInstance Time) : Prop where
  pluginId : ∀ id ∈ row.pluginId, Filled id
  runtime : Filled row.runtime
  runtimeVersion : Trimmed row.runtimeVersion
  status : Filled row.status
  endpoint : ∀ text ∈ row.endpoint, Filled text
  lastError : ∀ text ∈ row.lastError, Filled text

structure PluginHostEvent.IsRestorable (row : PluginHostEvent Time) : Prop where
  pluginId : ∀ id ∈ row.pluginId, Filled id
  runtime : ∀ text ∈ row.runtime, Filled text
  eventType : Filled row.eventType
  severity : Filled row.severity
  message : Trimmed row.message

structure PluginAuditEntry.IsRestorable (row : PluginAuditEntry Time) : Prop where
  pluginId : ∀ id ∈ row.pluginId, Filled id
  action : Filled row.action
  status : Filled row.status

structure PackageInstallation.IsRestorable (row : PackageInstallation Time) : Prop where
  packageName : Filled row.packageName
  packageGuid : ∀ id ∈ row.packageGuid, Filled id
  version : Filled row.version
  runtime : Filled row.runtime
  status : Filled row.status
  sourceUrl : ∀ text ∈ row.sourceUrl, Filled text

structure PluginRepository.IsRestorable (row : PluginRepository) : Prop where
  name : Filled row.name
  url : Filled row.url

structure CatalogPackage.IsRestorable (row : CatalogPackage) : Prop where
  repositoryUrl : Filled row.repositoryUrl
  packageGuid : ∀ id ∈ row.packageGuid, Filled id
  packageName : Filled row.packageName
  packageVersion : Filled row.packageVersion
  runtime : Filled row.runtime
  targetAbi : Trimmed row.targetAbi

end Rows

/-! One field. -/

structure Platform.KeepsTimes {Time : Type} (platform : Platform Time) : Prop where
  parse_format : ∀ time, platform.parseTime (platform.formatTime time) = some time
  filled_format : ∀ time, Filled (platform.formatTime time)

theorem filled_hyphenated (id : Uuid) : Filled id.hyphenated := by
  have hhex := Uuid.isHex_simple id
  refine ⟨trim_of_forall fun c hc => ?_, fun hempty => ?_⟩
  · obtain rfl | hc := Uuid.mem_hyphenated hc
    · decide
    · exact Uuid.isWhitespace_of_hexValue (hhex.2 c hc)
  · have hparse := Uuid.parseStr_hyphenated id
    rw [hempty] at hparse
    cases (show Uuid.parseStr "" = none by decide).symm.trans hparse

section Fields

variable {Time : Type} {platform : Platform Time} {fields : List (String × Json)} {field : String}

def NamesDiffer (fields : List (String × Json)) : Prop :=
  (fields.map fun entry => toAsciiLowercase entry.1).Nodup

def itemFieldNames : List String :=
  ["Name", "Url", "Enabled", "Payload", "RepositoryUrl", "Guid", "Version", "Runtime",
    "TargetAbi", "Status", "SourceUrl", "InstalledAt", "UpdatedAt", "Id", "RuntimeVersion",
    "ServerCompatibility", "Capabilities", "Permissions", "ConfigurationState", "LastError",
    "Health", "Manifest", "InstanceId", "PluginId", "ProcessId", "Endpoint", "StartedAt",
    "EventType", "Severity", "Message", "CreatedAt", "Action", "ActorUserId", "Configuration"]

theorem itemFieldNames_differ : (itemFieldNames.map toAsciiLowercase).Nodup := by decide

theorem namesDiffer_of_names (names : List String) (h : fields.map Prod.fst = names)
    (hnodup : names.Nodup) (hnames : ∀ name ∈ names, name ∈ itemFieldNames) :
    NamesDiffer fields := by
  have hlower : (names.map toAsciiLowercase).Nodup := by
    refine hnodup.map_on fun a ha b hb heq => ?_
    exact List.inj_on_of_nodup_map itemFieldNames_differ (hnames a ha) (hnames b hb) heq
  rw [← h, List.map_map] at hlower
  exact hlower

theorem namesDiffer_documentFields {name : String} (hnodup : ["PluginId", name, "UpdatedAt"].Nodup)
    (hname : name ∈ itemFieldNames) {row : PluginDocument Time} :
    NamesDiffer (documentFields platform name row) := by
  refine namesDiffer_of_names ["PluginId", name, "UpdatedAt"] rfl hnodup ?_
  simp only [List.forall_mem_cons, List.not_mem_nil, false_imp_iff, implies_true, and_true]
  exact ⟨by simp [itemFieldNames], hname, by simp [itemFieldNames]⟩

theorem readString {text : String} (h : NamesDiffer fields) (htext : Filled text)
    (hmem : (field, .string text) ∈ fields) :
    pluginSnapshotString (Json.ofFields fields) field = .ok text := by
  rw [pluginSnapshotString, pluginSnapshotOptionalString, stringField_ofFields h hmem htext]

theorem readOptionalString {text : Option String} (h : NamesDiffer fields)
    (htext : ∀ value ∈ text, Filled value) (hmem : (field, optionalText text) ∈ fields) :
    pluginSnapshotOptionalString (Json.ofFields fields) field = text := by
  cases text with
  | none => exact stringField_ofFields_null h hmem
  | some value => exact stringField_ofFields h hmem (htext value rfl)

theorem readStringOr {text default : String} (h : NamesDiffer fields) (htext : Filled text)
    (hmem : (field, .string text) ∈ fields) :
    (pluginSnapshotOptionalString (Json.ofFields fields) field).getD default = text := by
  rw [pluginSnapshotOptionalString, stringField_ofFields h hmem htext, Option.getD_some]

theorem readStringOrEmpty {text : String} (h : NamesDiffer fields) (htext : Trimmed text)
    (hmem : (field, .string text) ∈ fields) :
    (pluginSnapshotOptionalString (Json.ofFields fields) field).getD "" = text :=
  getD_stringField_ofFields h hmem htext

theorem readJson {default : Json} (h : NamesDiffer fields) (value : Json)
    (hmem : (field, value) ∈ fields) :
    pluginSnapshotJson (Json.ofFields fields) field default = value := by
  rw [pluginSnapshotJson, fieldCaseInsensitive_ofFields h hmem, Option.getD_some]

theorem readOptionalUuid (h : NamesDiffer fields) (id : Option Uuid)
    (hmem : (field, id.elim .null uuidJson) ∈ fields) :
    pluginSnapshotOptionalUuid (Json.ofFields fields) field = .ok id := by
  cases id with
  | none => rw [pluginSnapshotOptionalUuid, pluginSnapshotOptionalString,
      stringField_ofFields_null h hmem]
  | some id =>
    rw [pluginSnapshotOptionalUuid, pluginSnapshotOptionalString,
      stringField_ofFields h hmem (filled_hyphenated id)]
    simp only [Uuid.parseStr_hyphenated]

theorem readInternalUuid {new : Uuid} (h : NamesDiffer fields) (id : Uuid)
    (hmem : (field, uuidJson id) ∈ fields) :
    pluginSnapshotInternalUuid (Json.ofFields fields) field new = id := by
  rw [pluginSnapshotInternalUuid, pluginSnapshotOptionalString,
    stringField_ofFields h hmem (filled_hyphenated id), Option.bind_some,
    Uuid.parseStr_hyphenated, Option.getD_some]

theorem readOptionalTime (hplatform : platform.KeepsTimes) (h : NamesDiffer fields)
    (time : Option Time) (hmem : (field, optionalTimeJson platform time) ∈ fields) :
    pluginSnapshotOptionalTimestamp platform (Json.ofFields fields) field = .ok time := by
  cases time with
  | none => rw [pluginSnapshotOptionalTimestamp, pluginSnapshotOptionalString,
      stringField_ofFields_null h hmem]
  | some time =>
    rw [pluginSnapshotOptionalTimestamp, pluginSnapshotOptionalString,
      stringField_ofFields h hmem (hplatform.filled_format time)]
    simp only [hplatform.parse_format]

theorem readTime (hplatform : platform.KeepsTimes) {now : Time} (h : NamesDiffer fields)
    (time : Time) (hmem : (field, timeJson platform time) ∈ fields) :
    pluginSnapshotTimestampOr platform (Json.ofFields fields) field now = .ok time := by
  have hsome : (field, optionalTimeJson platform (some time)) ∈ fields := hmem
  rw [pluginSnapshotTimestampOr, readOptionalTime hplatform h _ hsome]
  rfl

theorem readProcessId (h : NamesDiffer fields) (id : Option Int64)
    (hmem : (field, id.elim .null fun id => .number id.toInt) ∈ fields) :
    ((Json.ofFields fields).fieldCaseInsensitive field).bind asI64 = id := by
  rw [fieldCaseInsensitive_ofFields h hmem, Option.bind_some]
  cases id with
  | none => rfl
  | some id =>
    have hrange : -2 ^ 63 ≤ id.toInt ∧ id.toInt < 2 ^ 63 := ⟨id.le_toInt, id.toInt_lt⟩
    rw [Option.elim_some, asI64, if_pos hrange, Int64.ofInt_toInt]

end Fields

/-! One row. -/

section Rows

theorem readRepository_repositoryFields {row : PluginRepository} (h : row.IsRestorable) :
    readRepository (Json.ofFields (repositoryFields row)) = .ok row := by
  have hnames : NamesDiffer (repositoryFields row) :=
    namesDiffer_of_names ["Name", "Url", "Enabled", "Payload"] rfl (by simp)
      (by simp [itemFieldNames])
  have henabled : ("Enabled", .bool row.enabled) ∈ repositoryFields row := by
    simp [repositoryFields]
  simp (disch := rw [repositoryFields]; simp) only [readRepository, pluginSnapshotBool,
    readString hnames h.name, readString hnames h.url,
    fieldCaseInsensitive_ofFields hnames henabled, readJson hnames row.payload]
  rfl

theorem readPackageCatalog_packageCatalogFields {row : CatalogPackage} (h : row.IsRestorable) :
    readPackageCatalog (Json.ofFields (packageCatalogFields row)) = .ok row := by
  have hnames : NamesDiffer (packageCatalogFields row) :=
    namesDiffer_of_names
      ["RepositoryUrl", "Guid", "Name", "Version", "Runtime", "TargetAbi", "Payload"] rfl (by simp)
      (by simp [itemFieldNames])
  simp (disch := rw [packageCatalogFields]; simp) only [readPackageCatalog,
    readString hnames h.repositoryUrl, readOptionalString hnames h.packageGuid,
    readString hnames h.packageName, readString hnames h.packageVersion,
    readStringOr hnames h.runtime, readStringOrEmpty hnames h.targetAbi,
    readJson hnames row.payload]
  rfl

variable {Time : Type} {platform : Platform Time} (hplatform : platform.KeepsTimes)
include hplatform

theorem readPackageInstallation_packageInstallationFields (now : Time) (new : Uuid)
    {row : PackageInstallation Time} (h : row.IsRestorable) :
    readPackageInstallation platform now new
        (Json.ofFields (packageInstallationFields platform row)) = .ok { row with id := new } := by
  have hnames : NamesDiffer (packageInstallationFields platform row) :=
    namesDiffer_of_names
      ["Name", "Guid", "Version", "Runtime", "Status", "SourceUrl", "Payload", "InstalledAt",
        "UpdatedAt"] rfl (by simp)
      (by simp [itemFieldNames])
  simp (disch := rw [packageInstallationFields]; simp) only [readPackageInstallation,
    readString hnames h.packageName, readOptionalString hnames h.packageGuid,
    readString hnames h.version, readStringOr hnames h.runtime, readStringOr hnames h.status,
    readOptionalString hnames h.sourceUrl, readJson hnames row.payload,
    readOptionalTime hplatform hnames row.installedAt, readTime hplatform hnames row.updatedAt]
  rfl

theorem readPlugin_pluginFields (now : Time) {row : InstalledPlugin Time} (h : row.IsRestorable) :
    readPlugin platform now (Json.ofFields (pluginFields platform row)) = .ok row := by
  have hnames : NamesDiffer (pluginFields platform row) :=
    namesDiffer_of_names
      ["Id", "Guid", "Name", "Version", "Runtime", "RuntimeVersion", "TargetAbi",
        "ServerCompatibility", "Status", "Capabilities", "Permissions", "ConfigurationState",
        "LastError", "Health", "Manifest", "InstalledAt", "UpdatedAt"] rfl (by simp)
      (by simp [itemFieldNames])
  simp (disch := rw [pluginFields]; simp) only [readPlugin, readPluginId,
    readString hnames h.pluginId, readString hnames h.name, readString hnames h.version,
    readStringOr hnames h.runtime,
    readStringOrEmpty hnames h.runtimeVersion, readStringOrEmpty hnames h.targetAbi,
    readJson hnames row.serverCompatibility, readStringOr hnames h.status,
    readJson hnames row.capabilities, readJson hnames row.permissions,
    readStringOr hnames h.configurationState, readOptionalString hnames h.lastError,
    readJson hnames row.health, readJson hnames row.manifest,
    readOptionalTime hplatform hnames row.installedAt, readTime hplatform hnames row.updatedAt]
  rfl

theorem readDocument_documentFields (now : Time) {name : String} (default : Json)
    (hnodup : ["PluginId", name, "UpdatedAt"].Nodup) (hname : name ∈ itemFieldNames)
    {row : PluginDocument Time} (h : row.IsRestorable) :
    readDocument platform now name default (Json.ofFields (documentFields platform name row)) =
      .ok row := by
  have hnames : NamesDiffer (documentFields platform name row) :=
    namesDiffer_documentFields hnodup hname
  simp (disch := rw [documentFields]; simp) only [readDocument, readString hnames h,
    readJson hnames row.document, readTime hplatform hnames row.updatedAt]
  rfl

theorem readRuntimeInstance_pluginRuntimeFields (now : Time) (new : Uuid)
    {row : PluginRuntimeInstance Time} (h : row.IsRestorable) :
    readRuntimeInstance platform now new (Json.ofFields (pluginRuntimeFields platform row)) =
      .ok row := by
  have hnames : NamesDiffer (pluginRuntimeFields platform row) :=
    namesDiffer_of_names
      ["InstanceId", "PluginId", "Runtime", "RuntimeVersion", "Status", "ProcessId",
        "Endpoint", "Health", "LastError", "StartedAt", "UpdatedAt"] rfl (by simp)
      (by simp [itemFieldNames])
  simp (disch := rw [pluginRuntimeFields]; simp) only [readRuntimeInstance,
    readInternalUuid hnames row.instanceId, readOptionalString hnames h.pluginId,
    readStringOr hnames h.runtime, readStringOrEmpty hnames h.runtimeVersion,
    readStringOr hnames h.status, readProcessId hnames row.processId,
    readOptionalString hnames h.endpoint, readJson hnames row.health,
    readOptionalString hnames h.lastError, readOptionalTime hplatform hnames row.startedAt,
    readTime hplatform hnames row.updatedAt]
  rfl

theorem readHostEvent_pluginHostEventFields (now : Time) (new : Uuid)
    {row : PluginHostEvent Time} (h : row.IsRestorable) :
    readHostEvent platform now new (Json.ofFields (pluginHostEventFields platform row)) =
      .ok row := by
  have hnames : NamesDiffer (pluginHostEventFields platform row) :=
    namesDiffer_of_names
      ["Id", "PluginId", "Runtime", "EventType", "Severity", "Message", "Payload", "CreatedAt"]
      rfl (by simp)
      (by simp [itemFieldNames])
  simp (disch := rw [pluginHostEventFields]; simp) only [readHostEvent,
    readInternalUuid hnames row.id, readOptionalString hnames h.pluginId,
    readOptionalString hnames h.runtime,
    readString hnames h.eventType, readStringOr hnames h.severity,
    readStringOrEmpty hnames h.message, readJson hnames row.payload,
    readTime hplatform hnames row.createdAt]
  rfl

theorem readAuditEntry_pluginAuditFields (now : Time) (new : Uuid)
    {row : PluginAuditEntry Time} (h : row.IsRestorable) :
    readAuditEntry platform now new (Json.ofFields (pluginAuditFields platform row)) = .ok row := by
  have hnames : NamesDiffer (pluginAuditFields platform row) :=
    namesDiffer_of_names
      ["Id", "PluginId", "Action", "ActorUserId", "Status", "Payload", "CreatedAt"] rfl (by simp)
      (by simp [itemFieldNames])
  simp (disch := rw [pluginAuditFields]; simp) only [readAuditEntry, readInternalUuid hnames row.id,
    readOptionalString hnames h.pluginId, readString hnames h.action,
    readOptionalUuid hnames row.actorUserId, readStringOr hnames h.status,
    readJson hnames row.payload, readTime hplatform hnames row.createdAt]
  rfl

end Rows

end Jellyrin.Plugins
