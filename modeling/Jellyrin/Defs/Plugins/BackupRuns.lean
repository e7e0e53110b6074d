import Jellyrin.Defs.Plugins.SnapshotRuns

/-! What the registry holds can be restored, when it was given texts without blanks around them. -/

namespace Jellyrin.Plugins

open Ascii Json RowTable

section Backup

def ownTexts : List String :=
  ["Active", "Builtin", "Default", "Deleted", "Discover", "Discovery", "Information", "Install",
    "Installed", "NotSupported", "RuntimeStatus", "RuntimeUnavailable", "SetStatus", "Superseded",
    "Uninstall", "UpdatePermissions", "Updated", "Warning"]

theorem filled_ownTexts : ∀ text ∈ ownTexts, Filled text := by decide

def ownEndings : List String :=
  [" runtime host is not implemented yet.", " discovered from filesystem.", "."]

theorem endsFilled_ownEndings : ∀ text ∈ ownEndings, EndsFilled text := by decide

variable {Time : Type} {platform : Platform Time} {s s' : PluginTables Time}

namespace PluginTables

theorem isRestorable_empty : (empty Time).IsRestorable := by
  constructor <;> simp [empty]

/-! What a statement leaves of it. -/

variable {pluginId : String} {actor : Option Uuid} {now : Time}

theorem IsRestorable.logAudit (h : s.IsRestorable) {id : Uuid} {action : String} {status : String}
    {payload : Json} (hlog : s.logAudit id pluginId action actor status payload now = .ok s')
    (hid : Filled pluginId) (haction : Filled action) (hstatus : Filled status) :
    s'.IsRestorable := by
  obtain ⟨auditLog, hinsert, hs⟩ := exists_of_bind_eq_ok hlog
  obtain rfl := Except.ok.inj hs
  obtain ⟨hnew, rfl⟩ := insert_eq_some_iff.mp (constrained_eq_ok.mp hinsert)
  refine { h with auditLog := ?_, auditIds := ?_ }
  · simp only [List.mem_append, List.mem_singleton, or_imp, forall_and, forall_eq]
    refine ⟨h.auditLog, ?_, haction, hstatus⟩
    simpa using hid
  · simpa [List.nodup_append, h.auditIds] using hnew

theorem IsRestorable.logHostEvent (h : s.IsRestorable) {id : Uuid}
    {runtime eventType severity message : String} {payload : Json}
    (hlog : s.logHostEvent id pluginId runtime eventType severity message payload now = .ok s')
    (hid : Filled pluginId) (hruntime : Filled runtime) (htype : Filled eventType)
    (hseverity : Filled severity) (hmessage : Trimmed message) : s'.IsRestorable := by
  obtain ⟨hostEvents, hinsert, hs⟩ := exists_of_bind_eq_ok hlog
  obtain rfl := Except.ok.inj hs
  obtain ⟨hnew, rfl⟩ := insert_eq_some_iff.mp (constrained_eq_ok.mp hinsert)
  refine { h with hostEvents := ?_, hostEventIds := ?_ }
  · simp only [List.mem_append, List.mem_singleton, or_imp, forall_and, forall_eq]
    refine ⟨h.hostEvents, ?_, ?_, htype, hseverity, hmessage⟩
    · simpa using hid
    · simpa using hruntime
  · simpa [List.nodup_append, h.hostEventIds] using hnew

theorem IsRestorable.putPlugin (h : s.IsRestorable)
    {merge : InstalledPlugin Time → InstalledPlugin Time} {plugin : InstalledPlugin Time}
    (hput : s.putPlugin platform merge plugin = .ok s') (hplugin : plugin.IsRestorable)
    (hmerge : ∀ old : InstalledPlugin Time, old.IsRestorable → plugin.IsRestorable →
      (merge old).IsRestorable) : s'.IsRestorable := by
  obtain ⟨installed, hupsert, hs⟩ := exists_of_bind_eq_ok hput
  obtain rfl := Except.ok.inj hs
  refine { h with installed := ?_ }
  refine forall_upsert (constrained_eq_ok.mp hupsert) h.installed ?_ hplugin
  exact fun old _ hold => hmerge old hold hplugin

theorem IsRestorable.insertPlugin (h : s.IsRestorable) {plugin : InstalledPlugin Time}
    (hput : s.insertPlugin platform plugin = .ok s') (hplugin : plugin.IsRestorable) :
    s'.IsRestorable := by
  obtain ⟨installed, hinsert, hs⟩ := exists_of_bind_eq_ok hput
  obtain rfl := Except.ok.inj hs
  obtain ⟨-, rfl⟩ := insert_eq_some_iff.mp (constrained_eq_ok.mp hinsert)
  refine { h with installed := ?_ }
  simpa [or_imp, forall_and] using ⟨h.installed, hplugin⟩

theorem IsRestorable.updateInstalled (h : s.IsRestorable) {p : InstalledPlugin Time → Bool}
    {f : InstalledPlugin Time → InstalledPlugin Time}
    (hf : ∀ old : InstalledPlugin Time, old.IsRestorable → (f old).IsRestorable) :
    IsRestorable { s with installed := updateWhere p f s.installed } :=
  { h with installed := forall_updateWhere h.installed fun old _ => hf old }

section Documents

variable {row : PluginDocument Time} {table table' : List (PluginDocument Time)}

theorem restorable_putDocument (h : putDocument platform row table = .ok table')
    (htable : ∀ old ∈ table, old.IsRestorable) (hrow : Filled row.pluginId) :
    ∀ row ∈ table', row.IsRestorable :=
  forall_upsert (constrained_eq_ok.mp h) htable (fun _ _ hold => hold) hrow

theorem restorable_addDocument (h : addDocument platform row table = .ok table')
    (htable : ∀ old ∈ table, old.IsRestorable) (hrow : Filled row.pluginId) :
    ∀ row ∈ table', row.IsRestorable :=
  forall_upsert (constrained_eq_ok.mp h) htable (fun _ _ hold => hold) hrow

end Documents

theorem IsRestorable.addPluginRows (h : s.IsRestorable) {addManifest} {id : String}
    {manifest : Json} (hid : Filled id) (hmanifest : ∀ {row : PluginDocument Time} {table table'},
      addManifest row table = .ok table' → (∀ old ∈ table, old.IsRestorable) →
        Filled row.pluginId → ∀ row ∈ table', row.IsRestorable)
    (hadd : s.addPluginRows platform addManifest id manifest now = .ok s') : s'.IsRestorable := by
  obtain ⟨manifests, hmanifests, hadd⟩ := exists_of_bind_eq_ok hadd
  obtain ⟨configurations, hconfigurations, hadd⟩ := exists_of_bind_eq_ok hadd
  obtain ⟨permissions, hpermissions, hs⟩ := exists_of_bind_eq_ok hadd
  obtain rfl := Except.ok.inj hs
  exact { h with
    manifests := hmanifest hmanifests h.manifests hid
    configurations := restorable_addDocument hconfigurations h.configurations hid
    permissions := restorable_addDocument hpermissions h.permissions hid }

theorem IsRestorable.supersede (h : s.IsRestorable) (pluginId version : String) (now : Time) :
    (s.supersede platform pluginId version now).IsRestorable := by
  refine { h with installations := ?_ }
  refine forall_updateWhere h.installations fun old _ hold => ?_
  exact { hold with status := filled_ownTexts _ (by simp [ownTexts]) }

theorem IsRestorable.putInstallation (h : s.IsRestorable) {row : PackageInstallation Time}
    (hput : s.putInstallation row = .ok s') (hrow : row.IsRestorable) : s'.IsRestorable := by
  obtain ⟨installations, hupsert, hs⟩ := exists_of_bind_eq_ok hput
  obtain rfl := Except.ok.inj hs
  refine { h with installations := ?_ }
  exact forall_upsert (constrained_eq_ok.mp hupsert) h.installations (fun _ _ _ => { hrow with })
    hrow

theorem IsRestorable.putInstance (h : s.IsRestorable) {row : PluginRuntimeInstance Time}
    (hput : s.putInstance row = .ok s') (hrow : row.IsRestorable) : s'.IsRestorable := by
  obtain ⟨instances, hupsert, hs⟩ := exists_of_bind_eq_ok hput
  obtain rfl := Except.ok.inj hs
  refine { h with instances := ?_ }
  refine forall_upsert (constrained_eq_ok.mp hupsert) h.instances ?_ hrow
  exact fun old _ hold => { hrow with pluginId := hold.pluginId, runtime := hold.runtime }

theorem IsRestorable.filled_canonicalPluginId (h : s.IsRestorable) {canonical : String}
    (hid : s.canonicalPluginId platform pluginId = some canonical) : Filled canonical := by
  obtain ⟨plugin, hfind, rfl⟩ := Option.map_eq_some_iff.mp hid
  exact (h.installed plugin (List.mem_of_find?_eq_some hfind)).pluginId

theorem IsRestorable.filled_canonicalManifestPluginId (h : s.IsRestorable) {canonical : String}
    (hid : s.canonicalManifestPluginId platform pluginId = some canonical) : Filled canonical := by
  obtain ⟨row, hfind, rfl⟩ := Option.map_eq_some_iff.mp hid
  exact h.manifests row (List.mem_of_find?_eq_some hfind)

theorem IsRestorable.filled_canonicalPluginReference (h : s.IsRestorable) {canonical : String}
    (hid : s.canonicalPluginReference platform pluginId = some canonical) : Filled canonical := by
  rw [canonicalPluginReference, Option.or_eq_some_iff] at hid
  obtain hid | ⟨-, hid⟩ := hid
  · exact h.filled_canonicalManifestPluginId hid
  · exact h.filled_canonicalPluginId hid

/-! Transactions that are given texts without blanks around them. -/

theorem restorable_newPlugin {name version runtime targetAbi status : String}
    {capabilities health manifest : Json} {lastError : Option String} (hid : Filled pluginId)
    (hname : Filled name) (hversion : Filled version) (hruntime : Filled runtime)
    (htargetAbi : Trimmed targetAbi) (hstatus : Filled status)
    (hlastError : ∀ text ∈ lastError, Filled text) :
    (newPlugin pluginId name version runtime targetAbi status capabilities lastError health manifest
      now).IsRestorable where
  pluginId := hid
  name := hname
  version := hversion
  runtime := hruntime
  runtimeVersion := trimmed_empty
  targetAbi := htargetAbi
  status := hstatus
  configurationState := filled_ownTexts "Default" (by simp [ownTexts])
  lastError := hlastError

theorem filled_getD {text : Option String} {default : String} (h : ∀ value ∈ text, Filled value)
    (hdefault : Filled default) : Filled (text.getD default) := by
  cases text with
  | none => exact hdefault
  | some value => exact h value rfl

theorem filled_runtimeMissing {runtime : String} (h : Filled runtime) :
    Filled (runtimeMissing runtime) :=
  h.append (endsFilled_ownEndings _ (by simp [ownEndings]))

theorem filled_packageSourceUrl {package : InstallPluginPackage} {url : String}
    (h : packageSourceUrl package = some url) : Filled url := by
  rw [packageSourceUrl, Option.or_eq_some_iff] at h
  obtain h | ⟨-, h⟩ := h
  · obtain ⟨versions, -, h⟩ := Option.bind_eq_some_iff.mp h
    obtain ⟨version, -, h⟩ := Option.bind_eq_some_iff.mp h
    exact filled_stringField h
  · exact filled_stringField h

theorem filled_notSupported : Filled "NotSupported" := filled_ownTexts _ (by simp [ownTexts])

variable {changed : Bool}

theorem IsRestorable.ensureBuiltinPlugin {name version : String} {manifest : Json}
    {capabilities : List String} (h : s.IsRestorable) (hname : Filled name)
    (hversion : Filled version)
    (hrun : ensureBuiltinPlugin platform pluginId name version manifest capabilities now s =
      .ok (changed, s')) : s'.IsRestorable := by
  rw [Plugins.ensureBuiltinPlugin] at hrun
  split at hrun
  · exact absurd hrun error_ne_ok
  · rename_i hne
    obtain ⟨s₁, hput, hs⟩ := exists_of_bind_eq_ok hrun
    obtain rfl := congrArg Prod.snd (Except.ok.inj hs)
    have hexisting : ∀ plugin ∈ s.installed.find?
        (fun plugin => sameId platform plugin.pluginId (trim pluginId)), plugin.IsRestorable :=
      fun plugin hfind => h.installed plugin (List.mem_of_find?_eq_some hfind)
    refine h.putPlugin hput (restorable_newPlugin ?_ hname hversion ?_ ?_ ?_ ?_) ?_
    · refine filled_getD ?_ ⟨trimmed_trim pluginId, hne⟩
      intro id hid
      obtain ⟨plugin, hfind, rfl⟩ := Option.map_eq_some_iff.mp hid
      exact (hexisting plugin hfind).pluginId
    · exact filled_ownTexts _ (by simp [ownTexts])
    · exact trimmed_empty
    · refine filled_getD ?_ (filled_ownTexts _ (by simp [ownTexts]))
      intro status hstatus
      obtain ⟨hstatus, -⟩ := Option.filter_eq_some_iff.mp hstatus
      obtain ⟨plugin, hfind, rfl⟩ := Option.map_eq_some_iff.mp hstatus
      exact (hexisting plugin hfind).status
    · simp
    · intro old hold hplugin
      exact { hold with
        name := hplugin.name
        version := hplugin.version
        runtime := hplugin.runtime
        status := hplugin.status }

theorem IsRestorable.installPluginPackage {package : InstallPluginPackage} {ids : NewIds}
    (h : s.IsRestorable) (hname : Filled package.name) (hversion : Filled package.version)
    (hruntime : Filled package.runtime) (htargetAbi : Trimmed package.targetAbi)
    (hrun : installPluginPackage platform package actor ids now s = .ok s') : s'.IsRestorable := by
  rw [Plugins.installPluginPackage] at hrun
  split at hrun
  · exact absurd hrun error_ne_ok
  · rename_i hne
    obtain ⟨s₁, hinstallation, hrun⟩ := exists_of_bind_eq_ok hrun
    obtain ⟨s₂, hplugin, hrun⟩ := exists_of_bind_eq_ok hrun
    obtain ⟨s₃, hrows, hrun⟩ := exists_of_bind_eq_ok hrun
    obtain ⟨s₄, haudit, hevent⟩ := exists_of_bind_eq_ok hrun
    have hid : Filled ((s.canonicalPluginId platform (trim package.pluginId)).getD
        (trim package.pluginId)) :=
      filled_getD (fun _ => h.filled_canonicalPluginId) ⟨trimmed_trim package.pluginId, hne⟩
    have hmissing := filled_runtimeMissing hruntime
    have hs₁ : s₁.IsRestorable := by
      refine (h.supersede _ _ _).putInstallation hinstallation ?_
      refine ⟨hname, ?_, hversion, hruntime, filled_ownTexts _ (by simp [ownTexts]), ?_⟩
      · simpa using hid
      · exact fun url hurl => filled_packageSourceUrl hurl
    have hs₂ : s₂.IsRestorable := by
      refine hs₁.putPlugin hplugin (restorable_newPlugin hid hname hversion hruntime htargetAbi
        filled_notSupported ?_) ?_
      · simpa using hmissing
      · intro old hold hplugin
        exact { hold with
          name := hplugin.name
          version := hplugin.version
          runtime := hplugin.runtime
          targetAbi := hplugin.targetAbi
          status := hplugin.status
          lastError := hplugin.lastError }
    have hs₃ := hs₂.addPluginRows hid restorable_putDocument hrows
    have hs₄ := hs₃.logAudit haudit hid (filled_ownTexts _ (by simp [ownTexts])) filled_notSupported
    exact hs₄.logHostEvent hevent hid hruntime
      (filled_ownTexts _ (by simp [ownTexts])) (filled_ownTexts _ (by simp [ownTexts])) hmissing.1

theorem IsRestorable.upsertDiscoveredPluginPackage {package : DiscoveredPluginPackage}
    {ids : NewIds} (h : s.IsRestorable) (hname : Filled package.name)
    (hversion : Filled package.version) (hruntime : Filled package.runtime)
    (htargetAbi : Trimmed package.targetAbi)
    (hrun : upsertDiscoveredPluginPackage platform package ids now s = .ok (changed, s')) :
    s'.IsRestorable := by
  rw [Plugins.upsertDiscoveredPluginPackage] at hrun
  split at hrun
  · exact absurd hrun error_ne_ok
  · rename_i hne
    split at hrun
    · obtain rfl := congrArg Prod.snd (Except.ok.inj hrun)
      exact h
    · obtain ⟨s₁, hplugin, hrun⟩ := exists_of_bind_eq_ok hrun
      obtain ⟨s₂, hrows, hrun⟩ := exists_of_bind_eq_ok hrun
      obtain ⟨s₃, hevent, hrun⟩ := exists_of_bind_eq_ok hrun
      obtain ⟨s₄, haudit, hrun⟩ := exists_of_bind_eq_ok hrun
      obtain rfl := congrArg Prod.snd (Except.ok.inj hrun)
      have hid : Filled (trim package.pluginId) := ⟨trimmed_trim package.pluginId, hne⟩
      have hmissing := filled_runtimeMissing hruntime
      have hs₁ : s₁.IsRestorable := by
        refine h.insertPlugin hplugin (restorable_newPlugin hid hname hversion hruntime htargetAbi
          filled_notSupported ?_)
        simpa using hmissing
      have hs₂ := hs₁.addPluginRows hid restorable_addDocument hrows
      have hmessage : Filled (package.name ++ " " ++ package.version ++
          " discovered from filesystem.") := by
        rw [String.append_assoc, String.append_assoc]
        have hending := endsFilled_ownEndings " discovered from filesystem." (by simp [ownEndings])
        exact hname.append ((hending.append package.version).append " ")
      have hs₃ := hs₂.logHostEvent hevent hid hruntime
        (filled_ownTexts _ (by simp [ownTexts])) (filled_ownTexts _ (by simp [ownTexts])) hmessage.1
      exact hs₃.logAudit haudit hid (filled_ownTexts _ (by simp [ownTexts])) filled_notSupported

theorem IsRestorable.updatePluginConfigurationJson {configuration : Json} (h : s.IsRestorable)
    (hrun : updatePluginConfigurationJson platform pluginId configuration now s =
      .ok (changed, s')) : s'.IsRestorable := by
  rw [Plugins.updatePluginConfigurationJson] at hrun
  split at hrun
  · obtain rfl := congrArg Prod.snd (Except.ok.inj hrun)
    exact h
  · rename_i canonical hcanonical
    obtain ⟨configuration, -, hrun⟩ := exists_of_bind_eq_ok hrun
    obtain ⟨configurations, hput, hrun⟩ := exists_of_bind_eq_ok hrun
    obtain rfl := congrArg Prod.snd (Except.ok.inj hrun)
    exact { h with
      configurations := restorable_putDocument hput h.configurations
        (h.filled_canonicalPluginReference hcanonical) }

theorem IsRestorable.updatePluginPermissionsJson {permissions : Json} {ids : NewIds}
    (h : s.IsRestorable)
    (hrun : updatePluginPermissionsJson platform pluginId permissions actor ids now s =
      .ok (changed, s')) : s'.IsRestorable := by
  rw [Plugins.updatePluginPermissionsJson] at hrun
  split at hrun
  · obtain rfl := congrArg Prod.snd (Except.ok.inj hrun)
    exact h
  · rename_i canonical hcanonical
    obtain ⟨rows, hput, hrun⟩ := exists_of_bind_eq_ok hrun
    obtain ⟨s₁, haudit, hrun⟩ := exists_of_bind_eq_ok hrun
    obtain rfl := congrArg Prod.snd (Except.ok.inj hrun)
    have hid := h.filled_canonicalManifestPluginId hcanonical
    refine IsRestorable.logAudit ?_ haudit hid
      (filled_ownTexts _ (by simp [ownTexts])) (filled_ownTexts _ (by simp [ownTexts]))
    exact { h with
      permissions := restorable_putDocument hput h.permissions hid
      installed := forall_updateWhere h.installed fun _ _ hold => { hold with } }

theorem IsRestorable.setInstalledPluginStatus {status : String} {lastError : Option String}
    {ids : NewIds} (h : s.IsRestorable) (hstatus : Filled status)
    (hlastError : ∀ text ∈ lastError, Filled text)
    (hrun : setInstalledPluginStatus platform pluginId status lastError actor ids now s =
      .ok (changed, s')) : s'.IsRestorable := by
  rw [Plugins.setInstalledPluginStatus] at hrun
  split at hrun
  · obtain rfl := congrArg Prod.snd (Except.ok.inj hrun)
    exact h
  · rename_i canonical hcanonical
    obtain ⟨s₁, haudit, hrun⟩ := exists_of_bind_eq_ok hrun
    obtain rfl := congrArg Prod.snd (Except.ok.inj hrun)
    refine IsRestorable.logAudit (h.updateInstalled ?_) haudit
      (h.filled_canonicalPluginId hcanonical) (filled_ownTexts _ (by simp [ownTexts])) hstatus
    exact fun old hold => { hold with status := hstatus, lastError := hlastError }

theorem IsRestorable.upsertPluginRuntimeInstance {new : PluginRuntimeInstanceUpsert}
    {ids : NewIds} (h : s.IsRestorable) (hruntime : Filled new.runtime)
    (hruntimeVersion : Trimmed new.runtimeVersion) (hstatus : Filled new.status)
    (hendpoint : ∀ text ∈ new.endpoint, Filled text)
    (hlastError : ∀ text ∈ new.lastError, Filled text)
    (hrun : upsertPluginRuntimeInstance platform new actor ids now s = .ok (changed, s')) :
    s'.IsRestorable := by
  rw [Plugins.upsertPluginRuntimeInstance] at hrun
  split at hrun
  · obtain rfl := congrArg Prod.snd (Except.ok.inj hrun)
    exact h
  · rename_i canonical hcanonical
    obtain ⟨s₁, hinstance, hrun⟩ := exists_of_bind_eq_ok hrun
    obtain ⟨s₂, hevent, hrun⟩ := exists_of_bind_eq_ok hrun
    obtain ⟨s₃, haudit, hrun⟩ := exists_of_bind_eq_ok hrun
    obtain rfl := congrArg Prod.snd (Except.ok.inj hrun)
    have hid := h.filled_canonicalPluginId hcanonical
    have hs₁ : s₁.IsRestorable := by
      refine IsRestorable.putInstance (h.updateInstalled ?_) hinstance ?_
      · exact fun old hold => { hold with
          runtimeVersion := hruntimeVersion, status := hstatus, lastError := hlastError }
      · refine ⟨?_, hruntime, hruntimeVersion, hstatus, hendpoint, hlastError⟩
        simpa using hid
    have hmessage : Filled (new.runtime ++ " runtime status changed to " ++ new.status ++ ".") := by
      rw [String.append_assoc, String.append_assoc]
      have hending := endsFilled_ownEndings "." (by simp [ownEndings])
      exact hruntime.append ((hending.append new.status).append _)
    have hs₂ : s₂.IsRestorable := by
      refine hs₁.logHostEvent hevent hid hruntime (filled_ownTexts _ (by simp [ownTexts])) ?_
        hmessage.1
      split <;> exact filled_ownTexts _ (by simp [ownTexts])
    exact hs₂.logAudit haudit hid (filled_ownTexts _ (by simp [ownTexts])) hstatus

theorem IsRestorable.uninstallPluginState {ids : NewIds} (h : s.IsRestorable)
    (hrun : uninstallPluginState platform pluginId actor ids now s = .ok (changed, s')) :
    s'.IsRestorable := by
  rw [Plugins.uninstallPluginState] at hrun
  split at hrun
  · obtain rfl := congrArg Prod.snd (Except.ok.inj hrun)
    exact h
  · rename_i canonical hcanonical
    obtain ⟨s₁, haudit, hrun⟩ := exists_of_bind_eq_ok hrun
    obtain rfl := congrArg Prod.snd (Except.ok.inj hrun)
    refine IsRestorable.logAudit ?_ haudit (h.filled_canonicalPluginId hcanonical)
      (filled_ownTexts _ (by simp [ownTexts])) (filled_ownTexts _ (by simp [ownTexts]))
    exact { h with
      installed := forall_deleteWhere h.installed
      manifests := forall_deleteWhere h.manifests
      configurations := forall_deleteWhere h.configurations
      permissions := forall_deleteWhere h.permissions
      instances := forall_deleteWhere h.instances
      installations := forall_deleteWhere h.installations }

theorem Consistent.keyed (h : s.Consistent platform.collation.lower) :
    s.Keyed platform.collation.lower := by
  have hdocuments : ∀ rows : List (PluginDocument Time),
      DocumentsOk s.plugins (documentIds rows) →
        (rows.map fun row => platform.collation.lower row.pluginId).Nodup := by
    intro rows hrows
    have hnodup : ((documentIds rows).map platform.collation.lower).Nodup :=
      hrows.nodup.map_on fun id hid id' hid' =>
        h.distinct.eq_of_lower (hrows.owned id hid) (hrows.owned id' hid')
    rwa [documentIds, List.map_map] at hnodup
  refine ⟨?_, hdocuments _ h.manifests, hdocuments _ h.configurations,
    hdocuments _ h.permission_ids, h.instances.ids⟩
  have hdistinct := h.distinct
  rwa [Distinct, plugins, pluginsOf, List.map_map] at hdistinct

end PluginTables

/-! Runs of the registry. -/

def PluginOperation.IsTrimmed : PluginOperation → Prop
  | .ensureBuiltin _ name version _ _ => Filled name ∧ Filled version
  | .install package _ =>
    Filled package.name ∧ Filled package.version ∧ Filled package.runtime ∧
      Trimmed package.targetAbi
  | .discover package =>
    Filled package.name ∧ Filled package.version ∧ Filled package.runtime ∧
      Trimmed package.targetAbi
  | .updateConfiguration _ _ => True
  | .updatePermissions _ _ _ => True
  | .setStatus _ status lastError _ => Filled status ∧ ∀ text ∈ lastError, Filled text
  | .upsertInstance new _ =>
    Filled new.runtime ∧ Trimmed new.runtimeVersion ∧ Filled new.status ∧
      (∀ text ∈ new.endpoint, Filled text) ∧ ∀ text ∈ new.lastError, Filled text
  | .uninstall _ _ => True

instance : DecidablePred PluginOperation.IsTrimmed
  | .ensureBuiltin .. => inferInstanceAs (Decidable (_ ∧ _))
  | .install .. => inferInstanceAs (Decidable (_ ∧ _))
  | .discover .. => inferInstanceAs (Decidable (_ ∧ _))
  | .updateConfiguration .. => inferInstanceAs (Decidable True)
  | .updatePermissions .. => inferInstanceAs (Decidable True)
  | .setStatus .. => inferInstanceAs (Decidable (_ ∧ _))
  | .upsertInstance .. => inferInstanceAs (Decidable (_ ∧ _))
  | .uninstall .. => inferInstanceAs (Decidable True)

namespace PluginTables

theorem IsRestorable.run {transaction : PluginTransaction Time} (h : s.IsRestorable)
    (htrimmed : transaction.operation.IsTrimmed) (hrun : transaction.run platform s = .ok s') :
    s'.IsRestorable := by
  obtain ⟨operation, ids, now⟩ := transaction
  cases operation with
  | ensureBuiltin pluginId name version manifest capabilities =>
    obtain ⟨changed, hrun⟩ := exists_of_map_snd hrun
    exact h.ensureBuiltinPlugin htrimmed.1 htrimmed.2 hrun
  | install package actor =>
    obtain ⟨hname, hversion, hruntime, htargetAbi⟩ := htrimmed
    exact h.installPluginPackage hname hversion hruntime htargetAbi hrun
  | discover package =>
    obtain ⟨hname, hversion, hruntime, htargetAbi⟩ := htrimmed
    obtain ⟨changed, hrun⟩ := exists_of_map_snd hrun
    exact h.upsertDiscoveredPluginPackage hname hversion hruntime htargetAbi hrun
  | updateConfiguration pluginId configuration =>
    obtain ⟨changed, hrun⟩ := exists_of_map_snd hrun
    exact h.updatePluginConfigurationJson hrun
  | updatePermissions pluginId permissions actor =>
    obtain ⟨changed, hrun⟩ := exists_of_map_snd hrun
    exact h.updatePluginPermissionsJson hrun
  | setStatus pluginId status lastError actor =>
    obtain ⟨changed, hrun⟩ := exists_of_map_snd hrun
    exact h.setInstalledPluginStatus htrimmed.1 htrimmed.2 hrun
  | upsertInstance new actor =>
    obtain ⟨hruntime, hruntimeVersion, hstatus, hendpoint, hlastError⟩ := htrimmed
    obtain ⟨changed, hrun⟩ := exists_of_map_snd hrun
    exact h.upsertPluginRuntimeInstance hruntime hruntimeVersion hstatus hendpoint hlastError hrun
  | uninstall pluginId actor =>
    obtain ⟨changed, hrun⟩ := exists_of_map_snd hrun
    exact h.uninstallPluginState hrun

theorem isRestorable_of_reaches
    (h : (pluginRegistry platform).Reaches (fun _ transaction => transaction.operation.IsTrimmed)
      s) : s.IsRestorable := by
  refine h.invariant (J := fun _ => True) (fun _ _ => trivial) isRestorable_empty ?_
  intro s transaction s' _ hs htrimmed hstep
  obtain ⟨-, hstep⟩ := Option.ite_none_right_eq_some.mp hstep
  obtain rfl := Option.some.inj hstep
  cases hrun : transaction.run platform s with
  | error e => exact hs
  | ok s' => exact hs.run htrimmed hrun

end PluginTables

theorem bytePlatform_keepsTimes : bytePlatform.KeepsTimes where
  parse_format time := by
    simp only [bytePlatform, Text.toList_toString, Nat.ofDigitChars_ten_toDigits]
  filled_format time := by
    have hdigit : ∀ c ∈ (toString time).toList, isWhitespace c = false := by
      intro c hc
      refine Uuid.isWhitespace_of_hexValue (Uuid.hexValue_isSome_iff.mpr (.inl ?_))
      have hrange := Text.isDigit_of_mem_toString hc
      simpa [Char.isDigit, UInt32.le_iff_toNat_le] using hrange
    refine ⟨trim_of_forall hdigit, fun hempty => ?_⟩
    have hdigits : Nat.toDigits 10 time = [] := by
      rw [← Text.toList_toString]
      exact congrArg String.toList hempty
    exact Nat.toDigits_ne_nil hdigits

theorem isTrimmed_of_decide (_ : PluginTables Time) (transaction : PluginTransaction Time)
    (h : decide transaction.operation.IsTrimmed = true) : transaction.operation.IsTrimmed :=
  of_decide_eq_true h

theorem eq_of_ofNat_eq {n i j : Nat} (hn : n ≤ 2 ^ 128) (hi : i < n) (hj : j < n)
    (h : BitVec.ofNat 128 i = BitVec.ofNat 128 j) : i = j := by
  have hnat := congrArg BitVec.toNat h
  rwa [BitVec.toNat_ofNat, BitVec.toNat_ofNat, Nat.mod_eq_of_lt (hi.trans_le hn),
    Nat.mod_eq_of_lt (hj.trans_le hn)] at hnat

def installAndFail : List (PluginTransaction Nat) :=
  [⟨.install
      { pluginId := "Trakt", name := "Trakt", version := "1.0", runtime := "dotnet",
        targetAbi := "10.9", package := .object [], manifest := .object [] } none, ⟨0, 1, 2⟩, 10⟩,
    ⟨.setStatus "Trakt" "Malfunctioned" (some "boom\n") none, ⟨3, 4, 5⟩, 11⟩]

end Backup

end Jellyrin.Plugins
