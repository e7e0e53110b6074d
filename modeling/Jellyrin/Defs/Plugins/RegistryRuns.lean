import Jellyrin.Defs.Plugins.RegistryLaws

/-! The registry stays consistent along every run of its transactions. -/

namespace Jellyrin.Plugins

open Ascii Json RowTable

section Registry

variable {Time : Type}

namespace PluginTables

def pluginsOf (installed : List (InstalledPlugin Time)) : List (String × Json) :=
  installed.map fun plugin => (plugin.pluginId, plugin.permissions)

def plugins (s : PluginTables Time) : List (String × Json) := pluginsOf s.installed

def documentIds (rows : List (PluginDocument Time)) : List String := rows.map (·.pluginId)

def documents (rows : List (PluginDocument Time)) : List (String × Json) :=
  rows.map fun row => (row.pluginId, row.document)

theorem map_fst_documents (rows : List (PluginDocument Time)) :
    (documents rows).map Prod.fst = documentIds rows := by
  rw [documents, List.map_map]
  rfl

structure Consistent (lower : String → String) (s : PluginTables Time) : Prop where
  distinct : Distinct lower s.plugins
  manifests : DocumentsOk s.plugins (documentIds s.manifests)
  configurations : DocumentsOk s.plugins (documentIds s.configurations)
  permissions : PermissionsOk s.plugins (documents s.permissions)
  instances : InstancesOk lower s.plugins s.instances
  installations : InstallationsOk lower s.plugins s.installations

theorem consistent_empty (lower : String → String) : (empty Time).Consistent lower where
  distinct := List.nodup_nil
  manifests := ⟨List.nodup_nil, by simp [documentIds, empty]⟩
  configurations := ⟨List.nodup_nil, by simp [documentIds, empty]⟩
  permissions := ⟨⟨List.nodup_nil, by simp [documents, empty]⟩, by simp [plugins, pluginsOf, empty],
    by simp [plugins, pluginsOf, empty]⟩
  instances := ⟨List.nodup_nil, by simp [empty], List.nodup_nil⟩
  installations := ⟨List.nodup_nil, by simp [empty], List.nodup_nil, by simp [empty]⟩

theorem owns_plugins {s : PluginTables Time} {id : String} :
    Owns s.plugins id ↔ ∃ plugin ∈ s.installed, plugin.pluginId = id := by
  constructor
  · rintro ⟨permissions, hmem⟩
    obtain ⟨plugin, hplugin, heq⟩ := List.mem_map.mp hmem
    exact ⟨plugin, hplugin, congrArg Prod.fst heq⟩
  · rintro ⟨plugin, hplugin, rfl⟩
    exact ⟨plugin.permissions, List.mem_map.mpr ⟨plugin, hplugin, rfl⟩⟩

end PluginTables

variable {platform : Platform Time} {s s' : PluginTables Time}

namespace PluginTables

/-! What a statement comes to. -/

variable {pluginId : String} {actor : Option Uuid} {now : Time}

theorem Consistent.logAudit {lower : String → String} (h : s.Consistent lower) {id : Uuid}
    {action : String} {status : String} {payload : Json}
    (hlog : s.logAudit id pluginId action actor status payload now = .ok s') :
    s'.Consistent lower := by
  obtain ⟨auditLog, -, hs⟩ := exists_of_bind_eq_ok hlog
  obtain rfl := Except.ok.inj hs
  exact ⟨h.distinct, h.manifests, h.configurations, h.permissions, h.instances, h.installations⟩

theorem Consistent.logHostEvent {lower : String → String} (h : s.Consistent lower) {id : Uuid}
    {runtime eventType severity message : String} {payload : Json}
    (hlog : s.logHostEvent id pluginId runtime eventType severity message payload now = .ok s') :
    s'.Consistent lower := by
  obtain ⟨hostEvents, -, hs⟩ := exists_of_bind_eq_ok hlog
  obtain rfl := Except.ok.inj hs
  exact ⟨h.distinct, h.manifests, h.configurations, h.permissions, h.instances, h.installations⟩

section Plugins

variable {installed : List (InstalledPlugin Time)}

theorem pluginsOf_updateWhere {p : InstalledPlugin Time → Bool}
    {f : InstalledPlugin Time → InstalledPlugin Time}
    (hf : ∀ old, (f old).pluginId = old.pluginId ∧ (f old).permissions = old.permissions) :
    pluginsOf (updateWhere p f installed) = pluginsOf installed := by
  refine map_updateWhere fun old _ _ => ?_
  rw [(hf old).1, (hf old).2]

theorem pluginsOf_setPermissions (canonical : String) (permissions : Json) (now : Time) :
    pluginsOf (updateWhere (fun plugin => sameId platform plugin.pluginId canonical)
        (fun plugin => { plugin with permissions, updatedAt := now }) installed) =
      setPermissions platform.collation.lower canonical permissions (pluginsOf installed) := by
  simp only [pluginsOf, updateWhere, setPermissions, List.map_map]
  refine List.map_congr_left fun plugin _ => ?_
  by_cases heq : platform.collation.lower plugin.pluginId = platform.collation.lower canonical <;>
    simp [sameId, heq]

theorem pluginsOf_deleteWhere {canonical : String}
    (h : platform.collation.lower canonical = platform.collation.lower pluginId) :
    pluginsOf (deleteWhere (fun plugin => sameId platform plugin.pluginId pluginId) installed) =
      without platform.collation.lower canonical (pluginsOf installed) := by
  simp only [pluginsOf, deleteWhere, without, List.filter_map]
  congr 1
  refine List.filter_congr fun plugin _ => ?_
  simp [sameId, h]

end Plugins

theorem Consistent.of_plugins_eq {lower : String → String} (h : s.Consistent lower)
    {installed : List (InstalledPlugin Time)} (heq : pluginsOf installed = s.plugins) :
    Consistent lower { s with installed } := by
  refine ⟨?_, ?_, ?_, ?_, ?_, ?_⟩ <;> simp only [plugins, heq]
  · exact h.distinct
  · exact h.manifests
  · exact h.configurations
  · exact h.permissions
  · exact h.instances
  · exact h.installations

theorem put_append {plugin : InstalledPlugin Time} (hpermissions : plugin.permissions = .array [])
    (hnew : ∀ old ∈ s.installed,
      platform.collation.lower old.pluginId ≠ platform.collation.lower plugin.pluginId) :
    Put platform.collation.lower plugin.pluginId s.plugins
      (plugins { s with installed := s.installed ++ [plugin] }) := by
  refine .inr ⟨?_, by simp [plugins, pluginsOf, hpermissions]⟩
  intro other hother
  obtain ⟨old, hold, rfl⟩ := List.mem_map.mp hother
  exact hnew old hold

theorem put_of_putPlugin {merge : InstalledPlugin Time → InstalledPlugin Time}
    {plugin : InstalledPlugin Time} (h : s.putPlugin platform merge plugin = .ok s')
    (hmerge : ∀ old, (merge old).pluginId = old.pluginId ∧
      (merge old).permissions = old.permissions)
    (hpermissions : plugin.permissions = .array []) :
    Put platform.collation.lower plugin.pluginId s.plugins s'.plugins ∧
      s' = { s with installed := s'.installed } := by
  obtain ⟨installed, hput, hs⟩ := exists_of_bind_eq_ok h
  obtain rfl := Except.ok.inj hs
  refine ⟨?_, rfl⟩
  obtain ⟨hold, rfl⟩ | ⟨hnew, rfl⟩ := upsert_eq_some (constrained_eq_ok.mp hput)
  · exact .inl ⟨pluginsOf_updateWhere hmerge, owns_plugins.mpr hold⟩
  · exact put_append hpermissions hnew

theorem put_of_insertPlugin {plugin : InstalledPlugin Time}
    (h : s.insertPlugin platform plugin = .ok s') (hpermissions : plugin.permissions = .array []) :
    Put platform.collation.lower plugin.pluginId s.plugins s'.plugins ∧
      s' = { s with installed := s'.installed } := by
  obtain ⟨installed, hput, hs⟩ := exists_of_bind_eq_ok h
  obtain rfl := Except.ok.inj hs
  refine ⟨?_, rfl⟩
  obtain ⟨hnew, rfl⟩ := insert_eq_some_iff.mp (constrained_eq_ok.mp hput)
  exact put_append hpermissions hnew

theorem Consistent.put {lower : String → String} {id : String} {installations}
    {installed : List (InstalledPlugin Time)} (h : s.Consistent lower)
    (hput : Put lower id s.plugins (plugins { s with installed, installations }))
    (hinstallations : InstallationsOk lower (plugins { s with installed, installations })
      installations) :
    Consistent lower { s with installed, installations } :=
  ⟨hput.distinct h.distinct, hput.documentsOk h.manifests, hput.documentsOk h.configurations,
    hput.permissionsOk h.permissions, hput.instancesOk h.instances, hinstallations⟩

section Documents

variable {row : PluginDocument Time} {table table' : List (PluginDocument Time)}
  {plugins : List (String × Json)}

theorem documents_of_putDocument (h : putDocument platform row table = .ok table') :
    (documents table' = (documents table).map
          (fun old => if old.1 = row.pluginId then (old.1, row.document) else old) ∧
        row.pluginId ∈ (documents table).map Prod.fst) ∨
      (∀ old ∈ documents table,
          platform.collation.lower old.1 ≠ platform.collation.lower row.pluginId) ∧
        documents table' = documents table ++ [(row.pluginId, row.document)] := by
  obtain ⟨hold, rfl⟩ | ⟨hnew, rfl⟩ := upsert_eq_some (constrained_eq_ok.mp h)
  · refine .inl ⟨?_, by simpa [documents] using hold⟩
    simp only [documents, updateWhere, List.map_map]
    refine List.map_congr_left fun old _ => ?_
    by_cases heq : old.pluginId = row.pluginId <;> simp [heq]
  · exact .inr ⟨by simpa [documents] using hnew, by simp [documents]⟩

theorem documents_of_addDocument (h : addDocument platform row table = .ok table') :
    documents table' = documents table ∨
      (∀ old ∈ documents table,
          platform.collation.lower old.1 ≠ platform.collation.lower row.pluginId) ∧
        documents table' = documents table ++ [(row.pluginId, row.document)] := by
  obtain ⟨-, rfl⟩ | ⟨hnew, rfl⟩ := upsert_eq_some (constrained_eq_ok.mp h)
  · exact .inl (map_updateWhere fun _ _ _ => rfl)
  · exact .inr ⟨by simpa [documents] using hnew, by simp [documents]⟩

theorem documentsOk_upsert {merge : PluginDocument Time → PluginDocument Time}
    (hmerge : ∀ old, (merge old).pluginId = old.pluginId)
    (h : constrained (upsert (·.pluginId)
      (fun row : PluginDocument Time => platform.collation.lower row.pluginId) merge row table) =
        .ok table')
    (hok : DocumentsOk plugins (documentIds table))
    (howns : Owns plugins row.pluginId) : DocumentsOk plugins (documentIds table') := by
  refine hok.add platform.collation.lower howns ?_
  obtain ⟨-, rfl⟩ | ⟨hnew, rfl⟩ := upsert_eq_some (constrained_eq_ok.mp h)
  · exact .inl (map_updateWhere fun old _ _ => hmerge old)
  · exact .inr ⟨by simpa [documentIds] using hnew, by simp [documentIds]⟩

theorem documentsOk_putDocument (h : putDocument platform row table = .ok table')
    (hok : DocumentsOk plugins (documentIds table))
    (howns : Owns plugins row.pluginId) : DocumentsOk plugins (documentIds table') := by
  rw [putDocument] at h
  refine documentsOk_upsert ?_ h hok howns
  exact fun _ => rfl

theorem documentsOk_addDocument (h : addDocument platform row table = .ok table')
    (hok : DocumentsOk plugins (documentIds table))
    (howns : Owns plugins row.pluginId) : DocumentsOk plugins (documentIds table') := by
  rw [addDocument] at h
  refine documentsOk_upsert ?_ h hok howns
  exact fun _ => rfl

theorem documentIds_deleteWhere (id : String) :
    documentIds (deleteWhere (fun row => sameId platform row.pluginId id) table) =
      (documentIds table).filter fun other =>
        platform.collation.lower other ≠ platform.collation.lower id := by
  simp only [documentIds, deleteWhere, List.filter_map]
  congr 1
  refine List.filter_congr fun row _ => ?_
  simp [sameId]

theorem documents_deleteWhere (id : String) :
    documents (deleteWhere (fun row => sameId platform row.pluginId id) table) =
      (documents table).filter fun row =>
        platform.collation.lower row.1 ≠ platform.collation.lower id := by
  simp only [documents, deleteWhere, List.filter_map]
  congr 1
  refine List.filter_congr fun row _ => ?_
  simp [sameId]

end Documents

theorem Consistent.addPluginRows {addManifest} {id : String} {manifest : Json}
    (h : s.Consistent platform.collation.lower) (howns : Owns s.plugins id)
    (hmanifest : ∀ {row : PluginDocument Time} {table table'},
      addManifest row table = .ok table' → DocumentsOk s.plugins (documentIds table) →
        Owns s.plugins row.pluginId → DocumentsOk s.plugins (documentIds table'))
    (hadd : s.addPluginRows platform addManifest id manifest now = .ok s') :
    s'.Consistent platform.collation.lower := by
  obtain ⟨manifests, hmanifests, hadd⟩ := exists_of_bind_eq_ok hadd
  obtain ⟨configurations, hconfigurations, hadd⟩ := exists_of_bind_eq_ok hadd
  obtain ⟨permissions, hpermissions, hs⟩ := exists_of_bind_eq_ok hadd
  obtain rfl := Except.ok.inj hs
  exact ⟨h.distinct, hmanifest hmanifests h.manifests howns,
    documentsOk_addDocument hconfigurations h.configurations howns,
    h.permissions.add howns (documents_of_addDocument hpermissions), h.instances, h.installations⟩

/-! The row that a `SELECT` finds for the plugin. -/

theorem owns_canonicalPluginId {canonical : String}
    (h : s.canonicalPluginId platform pluginId = some canonical) :
    Owns s.plugins canonical ∧
      platform.collation.lower canonical = platform.collation.lower pluginId := by
  obtain ⟨plugin, hfind, rfl⟩ := Option.map_eq_some_iff.mp h
  refine ⟨owns_plugins.mpr ⟨plugin, List.mem_of_find?_eq_some hfind, rfl⟩, ?_⟩
  simpa [sameId] using List.find?_some hfind

theorem owns_canonicalManifestPluginId {lower : String → String} (h : s.Consistent lower)
    {canonical : String} (hid : s.canonicalManifestPluginId platform pluginId = some canonical) :
    Owns s.plugins canonical := by
  obtain ⟨row, hfind, rfl⟩ := Option.map_eq_some_iff.mp hid
  exact h.manifests.owned _ (List.mem_map_of_mem (List.mem_of_find?_eq_some hfind))

theorem owns_canonicalPluginReference {lower : String → String} (h : s.Consistent lower)
    {canonical : String} (hid : s.canonicalPluginReference platform pluginId = some canonical) :
    Owns s.plugins canonical := by
  rw [canonicalPluginReference, Option.or_eq_some_iff] at hid
  obtain hid | ⟨-, hid⟩ := hid
  · exact owns_canonicalManifestPluginId h hid
  · exact (owns_canonicalPluginId hid).1

/-! The latest row of a `SELECT`, where there is one. -/

theorem runtimeInstanceId_eq_none {runtime : String}
    (h : s.runtimeInstanceId platform pluginId runtime = none) :
    ∀ row ∈ s.instances, row.pluginId = some pluginId →
      platform.collation.lower row.runtime ≠ platform.collation.lower runtime := by
  intro row hrow hplugin heq
  have hmem : row ∈ s.instances.filter fun row =>
      row.pluginId.any (sameId platform · pluginId) && sameId platform row.runtime runtime := by
    simp [hrow, hplugin, sameId, heq]
  rw [runtimeInstanceId, Option.map_eq_none_iff] at h
  rw [eq_nil_of_minOf h] at hmem
  cases hmem

theorem exists_of_runtimeInstanceId {runtime : String} {id : Uuid}
    (h : s.runtimeInstanceId platform pluginId runtime = some id) :
    ∃ row ∈ s.instances, row.instanceId = id := by
  obtain ⟨row, hrow, rfl⟩ := Option.map_eq_some_iff.mp h
  exact ⟨row, List.mem_of_mem_filter (mem_of_minOf hrow), rfl⟩

theorem installationId_eq_none {version : String}
    (h : s.installationId platform pluginId version = none) :
    ∀ row ∈ s.installations, row.packageGuid = some pluginId →
      platform.collation.lower row.version ≠ platform.collation.lower version := by
  intro row hrow hplugin heq
  have hmem : row ∈ s.installations.filter fun row =>
      row.packageGuid.any (sameId platform · pluginId) && sameId platform row.version version := by
    simp [hrow, hplugin, sameId, heq]
  rw [installationId, Option.map_eq_none_iff] at h
  rw [eq_nil_of_minOf h] at hmem
  cases hmem

theorem exists_of_installationId {version : String} {id : Uuid}
    (h : s.installationId platform pluginId version = some id) :
    ∃ row ∈ s.installations, row.id = id ∧
      (∃ guid, row.packageGuid = some guid ∧
        platform.collation.lower guid = platform.collation.lower pluginId) ∧
      platform.collation.lower row.version = platform.collation.lower version := by
  obtain ⟨row, hrow, rfl⟩ := Option.map_eq_some_iff.mp h
  obtain ⟨hmem, hrow⟩ := List.mem_filter.mp (mem_of_minOf hrow)
  refine ⟨row, hmem, rfl, ?_⟩
  simpa [sameId, Option.any_eq_true] using hrow

theorem instancesOk_putInstance {row : PluginRuntimeInstance Time}
    {plugins : List (String × Json)} {new : Uuid} (hput : s.putInstance row = .ok s')
    (h : InstancesOk platform.collation.lower plugins s.instances) (howns : Owns plugins pluginId)
    (hplugin : row.pluginId = some pluginId)
    (hid : row.instanceId = (s.runtimeInstanceId platform pluginId row.runtime).getD new) :
    InstancesOk platform.collation.lower plugins s'.instances ∧
      s' = { s with instances := s'.instances } := by
  obtain ⟨instances, hupsert, hs⟩ := exists_of_bind_eq_ok hput
  obtain rfl := Except.ok.inj hs
  refine ⟨?_, rfl⟩
  obtain ⟨hold, rfl⟩ | ⟨hnew, rfl⟩ := upsert_eq_some (constrained_eq_ok.mp hupsert)
  · refine ⟨?_, ?_, ?_⟩
    · rw [map_updateWhere]
      · exact h.ids
      · exact fun _ _ _ => rfl
    · exact forall_updateWhere h.owned fun _ _ howned => howned
    · rw [map_updateWhere]
      · exact h.nodup
      · exact fun _ _ _ => rfl
  · have hnone : s.runtimeInstanceId platform pluginId row.runtime = none := by
      cases hrow : s.runtimeInstanceId platform pluginId row.runtime with
      | none => rfl
      | some id =>
        obtain ⟨old, hold, heq⟩ := exists_of_runtimeInstanceId hrow
        rw [hrow] at hid
        exact absurd (heq.trans hid.symm) (hnew old hold)
    refine ⟨?_, ?_, ?_⟩
    · simpa [List.nodup_append, h.ids] using hnew
    · simp only [List.mem_append, List.mem_singleton, or_imp, forall_and, forall_eq]
      exact ⟨h.owned, pluginId, hplugin, howns⟩
    · rw [List.map_append]
      refine List.nodup_append.mpr ⟨h.nodup, List.nodup_singleton _, ?_⟩
      intro key hkey other hother heq
      obtain ⟨old, hold, rfl⟩ := List.mem_map.mp hkey
      rw [List.mem_singleton.mp hother] at heq
      obtain ⟨hid, hruntime⟩ := Prod.mk.inj heq
      exact runtimeInstanceId_eq_none hnone old hold (hid.trans hplugin) hruntime

theorem installationsOk_supersede {plugins : List (String × Json)} {version : String}
    (h : InstallationsOk platform.collation.lower plugins s.installations) :
    InstallationsOk platform.collation.lower plugins
        (s.supersede platform pluginId version now).installations ∧
      ∀ row ∈ (s.supersede platform pluginId version now).installations,
        row.packageGuid = some pluginId → row.status = "Installed" →
          platform.collation.lower row.version = platform.collation.lower version := by
  have hkept : ∀ row ∈ (s.supersede platform pluginId version now).installations,
      row.status = "Installed" → row ∈ s.installations ∧ (row.packageGuid = some pluginId →
        platform.collation.lower row.version = platform.collation.lower version) := by
    intro row hrow hstatus
    obtain ⟨old, -, -, rfl⟩ | ⟨hrow, hother⟩ := mem_updateWhere.mp hrow
    · exact absurd hstatus (by simp)
    · refine ⟨hrow, fun hguid => ?_⟩
      simpa [hguid, hstatus, sameId] using hother
  refine ⟨⟨?_, ?_, ?_, ?_⟩, fun row hrow hguid hstatus => (hkept row hrow hstatus).2 hguid⟩
  · simp only [supersede]
    rw [map_updateWhere]
    · exact h.ids
    · exact fun _ _ _ => rfl
  · exact forall_updateWhere h.owned fun _ _ howned => howned
  · simp only [supersede]
    rw [map_updateWhere]
    · exact h.nodup
    · exact fun _ _ _ => rfl
  · intro a ha b hb heq hastatus hbstatus
    exact h.once a (hkept a ha hastatus).1 b (hkept b hb hbstatus).1 heq hastatus hbstatus

theorem eq_of_putInstallation {row : PackageInstallation Time}
    (h : s.putInstallation row = .ok s') : s' = { s with installations := s'.installations } := by
  obtain ⟨installations, -, hs⟩ := exists_of_bind_eq_ok h
  obtain rfl := Except.ok.inj hs
  rfl

theorem installationsOk_putInstallation {row : PackageInstallation Time}
    {plugins : List (String × Json)} {new : Uuid}
    (h : InstallationsOk platform.collation.lower plugins s.installations)
    (hdistinct : Distinct platform.collation.lower plugins) (howns : Owns plugins pluginId)
    (hversion : ∀ old ∈ s.installations, old.packageGuid = some pluginId →
      old.status = "Installed" →
        platform.collation.lower old.version = platform.collation.lower row.version)
    (hguid : row.packageGuid = some pluginId) (hfresh : ∀ old ∈ s.installations, old.id ≠ new)
    (hid : row.id = (s.installationId platform pluginId row.version).getD new)
    (hput : s.putInstallation row = .ok s') :
    InstallationsOk platform.collation.lower plugins s'.installations := by
  obtain ⟨installations, hupsert, hs⟩ := exists_of_bind_eq_ok hput
  obtain rfl := Except.ok.inj hs
  have hrows : ∀ old ∈ installations, old ∈ s.installations ∨ old.packageGuid = some pluginId ∧
      platform.collation.lower old.version = platform.collation.lower row.version := by
    refine forall_upsert (constrained_eq_ok.mp hupsert) (fun _ => .inl) ?_ (.inr ⟨hguid, rfl⟩)
    exact fun _ _ _ => .inr ⟨hguid, rfl⟩
  have honce : ∀ a ∈ installations, ∀ b ∈ installations, a.packageGuid = b.packageGuid →
      a.status = "Installed" → b.status = "Installed" →
        platform.collation.lower a.version = platform.collation.lower b.version := by
    have hof : ∀ a ∈ installations, a.packageGuid = some pluginId → a.status = "Installed" →
        platform.collation.lower a.version = platform.collation.lower row.version := by
      intro a ha haguid hastatus
      obtain ha | ⟨-, ha⟩ := hrows a ha
      · exact hversion a ha haguid hastatus
      · exact ha
    intro a ha b hb heq hastatus hbstatus
    by_cases haguid : a.packageGuid = some pluginId
    · exact (hof a ha haguid hastatus).trans (hof b hb (heq ▸ haguid) hbstatus).symm
    · obtain ha | ⟨ha, -⟩ := hrows a ha
      · obtain hb | ⟨hb, -⟩ := hrows b hb
        · exact h.once a ha b hb heq hastatus hbstatus
        · exact absurd (heq.trans hb) haguid
      · exact absurd ha haguid
  obtain ⟨hold, rfl⟩ | ⟨hnew, rfl⟩ := upsert_eq_some (constrained_eq_ok.mp hupsert)
  · have hkey : ∀ old ∈ s.installations, old.id = row.id → old.packageGuid = some pluginId ∧
        platform.collation.lower old.version = platform.collation.lower row.version := by
      intro old hmem hold
      cases hfound : s.installationId platform pluginId row.version with
      | none =>
        rw [hfound, Option.getD_none] at hid
        exact absurd (hold.trans hid) (hfresh old hmem)
      | some id =>
        obtain ⟨found, hfoundmem, heq, ⟨guid, hguid, hlower⟩, hver⟩ :=
          exists_of_installationId hfound
        rw [hfound, Option.getD_some] at hid
        obtain rfl : old = found :=
          List.inj_on_of_nodup_map h.ids hmem hfoundmem ((hold.trans hid).trans heq.symm)
        obtain ⟨guid', hguid', howned⟩ := h.owned old hmem
        obtain rfl : guid = guid' := Option.some.inj (hguid.symm.trans hguid')
        exact ⟨hguid.trans (congrArg some (hdistinct.eq_of_lower howned howns hlower)), hver⟩
    refine ⟨?_, ?_, ?_, honce⟩
    · rw [map_updateWhere]
      · exact h.ids
      · exact fun _ _ _ => rfl
    · exact forall_updateWhere h.owned fun _ _ _ => ⟨pluginId, hguid, howns⟩
    · rw [map_updateWhere]
      · exact h.nodup
      · intro old hmem hold
        obtain ⟨hplugin, hver⟩ := hkey old hmem (of_decide_eq_true hold)
        exact Prod.ext (hguid.trans hplugin.symm) hver.symm
  · have hnone : s.installationId platform pluginId row.version = none := by
      cases hrow : s.installationId platform pluginId row.version with
      | none => rfl
      | some id =>
        obtain ⟨old, hold, heq, -⟩ := exists_of_installationId hrow
        rw [hrow] at hid
        exact absurd (heq.trans hid.symm) (hnew old hold)
    refine ⟨?_, ?_, ?_, honce⟩
    · simpa [List.nodup_append, h.ids] using hnew
    · simp only [List.mem_append, List.mem_singleton, or_imp, forall_and, forall_eq]
      exact ⟨h.owned, pluginId, hguid, howns⟩
    · rw [List.map_append]
      refine List.nodup_append.mpr ⟨h.nodup, List.nodup_singleton _, ?_⟩
      intro key hkey other hother heq
      obtain ⟨old, hold, rfl⟩ := List.mem_map.mp hkey
      rw [List.mem_singleton.mp hother] at heq
      obtain ⟨hid, hver⟩ := Prod.mk.inj heq
      exact installationId_eq_none hnone old hold (hid.trans hguid) hver

/-! What one transaction preserves. -/

variable {changed : Bool}

theorem Consistent.ensureBuiltinPlugin {name version : String} {manifest : Json}
    {capabilities : List String} (h : s.Consistent platform.collation.lower)
    (hrun : ensureBuiltinPlugin platform pluginId name version manifest capabilities now s =
      .ok (changed, s')) : s'.Consistent platform.collation.lower := by
  rw [Plugins.ensureBuiltinPlugin] at hrun
  split at hrun
  · nomatch hrun
  · obtain ⟨s₁, hput, hs⟩ := exists_of_bind_eq_ok hrun
    obtain rfl := congrArg Prod.snd (Except.ok.inj hs)
    obtain ⟨hplugin, hs⟩ := put_of_putPlugin hput (fun _ => ⟨rfl, rfl⟩) rfl
    rw [hs] at hplugin ⊢
    exact h.put hplugin (hplugin.installationsOk h.installations)

theorem Consistent.installPluginPackage {package : InstallPluginPackage} {ids : NewIds}
    (h : s.Consistent platform.collation.lower) (hfresh : ids.IsFresh s)
    (hrun : installPluginPackage platform package actor ids now s = .ok s') :
    s'.Consistent platform.collation.lower := by
  rw [Plugins.installPluginPackage] at hrun
  split at hrun
  · nomatch hrun
  · obtain ⟨s₁, hinstallation, hrun⟩ := exists_of_bind_eq_ok hrun
    obtain ⟨s₂, hplugin, hrun⟩ := exists_of_bind_eq_ok hrun
    obtain ⟨s₃, hrows, hrun⟩ := exists_of_bind_eq_ok hrun
    obtain ⟨s₄, haudit, hevent⟩ := exists_of_bind_eq_ok hrun
    have hs₁ := eq_of_putInstallation hinstallation
    obtain ⟨hput, hs₂⟩ := put_of_putPlugin hplugin (fun _ => ⟨rfl, rfl⟩) rfl
    -- the installation is written before the plugin, so its owner is one of the plugins after it
    have hput : Put platform.collation.lower
        ((s.canonicalPluginId platform (trim package.pluginId)).getD (trim package.pluginId))
        s.plugins s₂.plugins := by
      rw [hs₁] at hput
      exact hput
    obtain ⟨hsuperseded, hversion⟩ :=
      installationsOk_supersede (hput.installationsOk h.installations)
    have hinstallations := installationsOk_putInstallation hsuperseded (hput.distinct h.distinct)
      hput.owns hversion rfl (forall_updateWhere hfresh.1 fun _ _ hne => hne) rfl hinstallation
    have hs₂ : s₂.Consistent platform.collation.lower := by
      rw [hs₁] at hs₂
      rw [hs₂] at hput hinstallations ⊢
      exact h.put hput hinstallations
    exact ((hs₂.addPluginRows hput.owns documentsOk_putDocument hrows).logAudit haudit).logHostEvent
      hevent

theorem Consistent.upsertDiscoveredPluginPackage {package : DiscoveredPluginPackage}
    {ids : NewIds} (h : s.Consistent platform.collation.lower)
    (hrun : upsertDiscoveredPluginPackage platform package ids now s = .ok (changed, s')) :
    s'.Consistent platform.collation.lower := by
  rw [Plugins.upsertDiscoveredPluginPackage] at hrun
  split at hrun
  · nomatch hrun
  · split at hrun
    · obtain rfl := congrArg Prod.snd (Except.ok.inj hrun)
      exact h
    · obtain ⟨s₁, hplugin, hrun⟩ := exists_of_bind_eq_ok hrun
      obtain ⟨s₂, hrows, hrun⟩ := exists_of_bind_eq_ok hrun
      obtain ⟨s₃, hevent, hrun⟩ := exists_of_bind_eq_ok hrun
      obtain ⟨s₄, haudit, hrun⟩ := exists_of_bind_eq_ok hrun
      obtain rfl := congrArg Prod.snd (Except.ok.inj hrun)
      obtain ⟨hput, hs₁⟩ := put_of_insertPlugin hplugin rfl
      have hcons : s₁.Consistent platform.collation.lower := by
        rw [hs₁] at hput ⊢
        exact h.put hput (hput.installationsOk h.installations)
      exact ((hcons.addPluginRows hput.owns documentsOk_addDocument hrows).logHostEvent
        hevent).logAudit haudit

theorem Consistent.updatePluginConfigurationJson {configuration : Json}
    (h : s.Consistent platform.collation.lower)
    (hrun : updatePluginConfigurationJson platform pluginId configuration now s =
      .ok (changed, s')) : s'.Consistent platform.collation.lower := by
  rw [Plugins.updatePluginConfigurationJson] at hrun
  split at hrun
  · obtain rfl := congrArg Prod.snd (Except.ok.inj hrun)
    exact h
  · rename_i canonical hcanonical
    obtain ⟨configuration, -, hrun⟩ := exists_of_bind_eq_ok hrun
    obtain ⟨configurations, hput, hrun⟩ := exists_of_bind_eq_ok hrun
    obtain rfl := congrArg Prod.snd (Except.ok.inj hrun)
    exact ⟨h.distinct, h.manifests,
      documentsOk_putDocument hput h.configurations (owns_canonicalPluginReference h hcanonical),
      h.permissions, h.instances, h.installations⟩

theorem Consistent.updatePluginPermissionsJson {permissions : Json} {ids : NewIds}
    (h : s.Consistent platform.collation.lower)
    (hrun : updatePluginPermissionsJson platform pluginId permissions actor ids now s =
      .ok (changed, s')) : s'.Consistent platform.collation.lower := by
  rw [Plugins.updatePluginPermissionsJson] at hrun
  split at hrun
  · obtain rfl := congrArg Prod.snd (Except.ok.inj hrun)
    exact h
  · rename_i canonical hcanonical
    obtain ⟨rows, hput, hrun⟩ := exists_of_bind_eq_ok hrun
    obtain ⟨s₁, haudit, hrun⟩ := exists_of_bind_eq_ok hrun
    obtain rfl := congrArg Prod.snd (Except.ok.inj hrun)
    have howns := owns_canonicalManifestPluginId h hcanonical
    refine Consistent.logAudit ?_ haudit
    refine ⟨?_, ?_, ?_, ?_, ?_, ?_⟩ <;> simp only [plugins, pluginsOf_setPermissions]
    · exact h.distinct.setPermissions
    · exact h.manifests.mono Owns.setPermissions
    · exact h.configurations.mono Owns.setPermissions
    · exact h.permissions.set h.distinct howns (documents_of_putDocument hput)
    · exact h.instances.mono Owns.setPermissions
    · exact h.installations.mono Owns.setPermissions

theorem Consistent.setInstalledPluginStatus {status : String} {lastError : Option String}
    {ids : NewIds} (h : s.Consistent platform.collation.lower)
    (hrun : setInstalledPluginStatus platform pluginId status lastError actor ids now s =
      .ok (changed, s')) : s'.Consistent platform.collation.lower := by
  rw [Plugins.setInstalledPluginStatus] at hrun
  split at hrun
  · obtain rfl := congrArg Prod.snd (Except.ok.inj hrun)
    exact h
  · obtain ⟨s₁, haudit, hrun⟩ := exists_of_bind_eq_ok hrun
    obtain rfl := congrArg Prod.snd (Except.ok.inj hrun)
    refine Consistent.logAudit (h.of_plugins_eq ?_) haudit
    refine pluginsOf_updateWhere ?_
    exact fun _ => ⟨rfl, rfl⟩

theorem Consistent.upsertPluginRuntimeInstance {new : PluginRuntimeInstanceUpsert} {ids : NewIds}
    (h : s.Consistent platform.collation.lower)
    (hrun : upsertPluginRuntimeInstance platform new actor ids now s = .ok (changed, s')) :
    s'.Consistent platform.collation.lower := by
  rw [Plugins.upsertPluginRuntimeInstance] at hrun
  split at hrun
  · obtain rfl := congrArg Prod.snd (Except.ok.inj hrun)
    exact h
  · rename_i canonical hcanonical
    obtain ⟨s₁, hinstance, hrun⟩ := exists_of_bind_eq_ok hrun
    obtain ⟨s₂, hevent, hrun⟩ := exists_of_bind_eq_ok hrun
    obtain ⟨s₃, haudit, hrun⟩ := exists_of_bind_eq_ok hrun
    obtain rfl := congrArg Prod.snd (Except.ok.inj hrun)
    refine Consistent.logAudit (Consistent.logHostEvent ?_ hevent) haudit
    obtain ⟨hinstances, hs₁⟩ := instancesOk_putInstance hinstance h.instances
      (owns_canonicalPluginId hcanonical).1 rfl rfl
    have hplugins : s₁.plugins = s.plugins := by
      rw [hs₁]
      refine pluginsOf_updateWhere ?_
      exact fun _ => ⟨rfl, rfl⟩
    rw [hs₁] at hplugins hinstances ⊢
    refine ⟨?_, ?_, ?_, ?_, ?_, ?_⟩ <;> simp only [hplugins]
    · exact h.distinct
    · exact h.manifests
    · exact h.configurations
    · exact h.permissions
    · exact hinstances
    · exact h.installations

theorem Consistent.uninstallPluginState {ids : NewIds} (h : s.Consistent platform.collation.lower)
    (hrun : uninstallPluginState platform pluginId actor ids now s = .ok (changed, s')) :
    s'.Consistent platform.collation.lower := by
  rw [Plugins.uninstallPluginState] at hrun
  split at hrun
  · obtain rfl := congrArg Prod.snd (Except.ok.inj hrun)
    exact h
  · rename_i canonical hcanonical
    obtain ⟨s₁, haudit, hrun⟩ := exists_of_bind_eq_ok hrun
    obtain rfl := congrArg Prod.snd (Except.ok.inj hrun)
    refine Consistent.logAudit ?_ haudit
    have hlower := (owns_canonicalPluginId hcanonical).2
    refine ⟨?_, ?_, ?_, ?_, ?_, ?_⟩ <;> simp only [plugins, pluginsOf_deleteWhere hlower]
    · exact h.distinct.without
    · rw [documentIds_deleteWhere]
      exact h.manifests.remove platform.collation.lower canonical
    · rw [documentIds_deleteWhere]
      exact h.configurations.remove platform.collation.lower canonical
    · rw [documents_deleteWhere]
      exact h.permissions.remove canonical
    · exact h.instances.remove
    · exact h.installations.remove

theorem exists_of_map_snd {result : Except String (Bool × PluginTables Time)}
    (h : result.map Prod.snd = .ok s) : ∃ changed, result = .ok (changed, s) := by
  cases result with
  | error e => nomatch h
  | ok value => exact ⟨value.1, congrArg Except.ok (Prod.ext rfl (Except.ok.inj h))⟩

theorem Consistent.run {transaction : PluginTransaction Time}
    (h : s.Consistent platform.collation.lower) (hfresh : transaction.ids.IsFresh s)
    (hrun : transaction.run platform s = .ok s') : s'.Consistent platform.collation.lower := by
  obtain ⟨operation, ids, now⟩ := transaction
  cases operation with
  | ensureBuiltin pluginId name version manifest capabilities =>
    obtain ⟨changed, hrun⟩ := exists_of_map_snd hrun
    exact h.ensureBuiltinPlugin hrun
  | install package actor => exact h.installPluginPackage hfresh hrun
  | discover package =>
    obtain ⟨changed, hrun⟩ := exists_of_map_snd hrun
    exact h.upsertDiscoveredPluginPackage hrun
  | updateConfiguration pluginId configuration =>
    obtain ⟨changed, hrun⟩ := exists_of_map_snd hrun
    exact h.updatePluginConfigurationJson hrun
  | updatePermissions pluginId permissions actor =>
    obtain ⟨changed, hrun⟩ := exists_of_map_snd hrun
    exact h.updatePluginPermissionsJson hrun
  | setStatus pluginId status lastError actor =>
    obtain ⟨changed, hrun⟩ := exists_of_map_snd hrun
    exact h.setInstalledPluginStatus hrun
  | upsertInstance new actor =>
    obtain ⟨changed, hrun⟩ := exists_of_map_snd hrun
    exact h.upsertPluginRuntimeInstance hrun
  | uninstall pluginId actor =>
    obtain ⟨changed, hrun⟩ := exists_of_map_snd hrun
    exact h.uninstallPluginState hrun

theorem consistent_of_reachable (h : (pluginRegistry platform).Reachable s) :
    s.Consistent platform.collation.lower := by
  refine h.invariant (consistent_empty platform.collation.lower) ?_
  intro s transaction s' hs hstep
  obtain ⟨hfresh, hstep⟩ := Option.ite_none_right_eq_some.mp hstep
  obtain rfl := Option.some.inj hstep
  cases hrun : transaction.run platform s with
  | error e => exact hs
  | ok s' => exact hs.run hfresh hrun

/-! The same in terms of the identifiers as they are written. -/

def IsInstalled (s : PluginTables Time) (pluginId : String) : Prop :=
  ∃ plugin ∈ s.installed, eqIgnoreAsciiCase plugin.pluginId pluginId = true

def SameOwner (a b : Option String) : Prop :=
  ∃ id id', a = some id ∧ b = some id' ∧ eqIgnoreAsciiCase id id' = true

structure IsConsistent (s : PluginTables Time) : Prop where
  distinct : s.installed.Pairwise fun a b => ¬ eqIgnoreAsciiCase a.pluginId b.pluginId = true
  manifest_installed : ∀ row ∈ s.manifests, s.IsInstalled row.pluginId
  configuration_installed : ∀ row ∈ s.configurations, s.IsInstalled row.pluginId
  permissions_installed : ∀ row ∈ s.permissions, s.IsInstalled row.pluginId
  instance_installed : ∀ row ∈ s.instances,
    ∃ id, row.pluginId = some id ∧ s.IsInstalled id
  installation_installed : ∀ row ∈ s.installations,
    ∃ id, row.packageGuid = some id ∧ s.IsInstalled id
  one_manifest : s.manifests.Pairwise fun a b => ¬ eqIgnoreAsciiCase a.pluginId b.pluginId = true
  one_configuration :
    s.configurations.Pairwise fun a b => ¬ eqIgnoreAsciiCase a.pluginId b.pluginId = true
  one_permissions :
    s.permissions.Pairwise fun a b => ¬ eqIgnoreAsciiCase a.pluginId b.pluginId = true
  one_instance : s.instances.Pairwise fun a b =>
    ¬ (SameOwner a.pluginId b.pluginId ∧ eqIgnoreAsciiCase a.runtime b.runtime = true)
  one_installed : (s.installations.filter (·.status = "Installed")).Pairwise fun a b =>
    ¬ SameOwner a.packageGuid b.packageGuid
  permissions_agree : ∀ plugin ∈ s.installed, ∀ row ∈ s.permissions,
    eqIgnoreAsciiCase row.pluginId plugin.pluginId = true → row.document = plugin.permissions

theorem isInstalled_of_owns {id : String} (h : Owns s.plugins id) : s.IsInstalled id := by
  obtain ⟨plugin, hplugin, rfl⟩ := owns_plugins.mp h
  exact ⟨plugin, hplugin, eqIgnoreAsciiCase_self _⟩

theorem Consistent.permission_ids {lower : String → String} (h : s.Consistent lower) :
    DocumentsOk s.plugins (documentIds s.permissions) := by
  rw [← map_fst_documents]
  exact h.permissions.documents

section Spelling

variable {lower : String → String}
  (hlower : ∀ a b, eqIgnoreAsciiCase a b = true → lower a = lower b)
include hlower

theorem Consistent.eq_of_eqIgnoreAsciiCase (h : s.Consistent lower) {id id' : String}
    (hid : Owns s.plugins id) (hid' : Owns s.plugins id') (heq : eqIgnoreAsciiCase id id' = true) :
    id = id' :=
  h.distinct.eq_of_lower hid hid' (hlower id id' heq)

theorem Consistent.eq_of_sameOwner (h : s.Consistent lower) {a b : Option String}
    (ha : ∃ id, a = some id ∧ Owns s.plugins id) (hb : ∃ id, b = some id ∧ Owns s.plugins id)
    (hsame : SameOwner a b) : a = b := by
  obtain ⟨id, id', rfl, rfl, heq⟩ := hsame
  obtain ⟨_, hid, howns⟩ := ha
  obtain ⟨_, hid', howns'⟩ := hb
  obtain rfl := Option.some.inj hid
  obtain rfl := Option.some.inj hid'
  exact congrArg some (h.eq_of_eqIgnoreAsciiCase hlower howns howns' heq)

theorem Consistent.documents_pairwise (h : s.Consistent lower)
    {rows : List (PluginDocument Time)} (hrows : DocumentsOk s.plugins (documentIds rows)) :
    rows.Pairwise fun a b => ¬ eqIgnoreAsciiCase a.pluginId b.pluginId = true := by
  refine (List.pairwise_map.mp hrows.nodup).imp_of_mem fun {a b} ha hb hne heq => hne ?_
  exact h.eq_of_eqIgnoreAsciiCase hlower (hrows.owned _ (List.mem_map_of_mem ha))
    (hrows.owned _ (List.mem_map_of_mem hb)) heq

theorem Consistent.isConsistent (h : s.Consistent lower) : s.IsConsistent where
  distinct := by
    refine (List.pairwise_map.mp (List.pairwise_map.mp h.distinct)).imp ?_
    exact fun hne heq => hne (hlower _ _ heq)
  manifest_installed row hrow :=
    isInstalled_of_owns (h.manifests.owned _ (List.mem_map_of_mem hrow))
  configuration_installed row hrow :=
    isInstalled_of_owns (h.configurations.owned _ (List.mem_map_of_mem hrow))
  permissions_installed row hrow :=
    isInstalled_of_owns (h.permission_ids.owned _ (List.mem_map_of_mem hrow))
  instance_installed row hrow :=
    (h.instances.owned row hrow).imp fun _ hid => ⟨hid.1, isInstalled_of_owns hid.2⟩
  installation_installed row hrow :=
    (h.installations.owned row hrow).imp fun _ hid => ⟨hid.1, isInstalled_of_owns hid.2⟩
  one_manifest := h.documents_pairwise hlower h.manifests
  one_configuration := h.documents_pairwise hlower h.configurations
  one_permissions := h.documents_pairwise hlower h.permission_ids
  one_instance := by
    refine (List.pairwise_map.mp h.instances.nodup).imp_of_mem ?_
    rintro a b ha hb hne ⟨howner, hruntime⟩
    exact hne (Prod.ext
      (h.eq_of_sameOwner hlower (h.instances.owned a ha) (h.instances.owned b hb) howner)
      (hlower _ _ hruntime))
  one_installed := by
    refine ((List.pairwise_map.mp h.installations.nodup).filter _).imp_of_mem ?_
    intro a b ha hb hne howner
    obtain ⟨ha, hastatus⟩ := List.mem_filter.mp ha
    obtain ⟨hb, hbstatus⟩ := List.mem_filter.mp hb
    have heq := h.eq_of_sameOwner hlower (h.installations.owned a ha) (h.installations.owned b hb)
      howner
    exact hne (Prod.ext heq (h.installations.once a ha b hb heq (of_decide_eq_true hastatus)
      (of_decide_eq_true hbstatus)))
  permissions_agree plugin hplugin row hrow heq := by
    have hid := h.eq_of_eqIgnoreAsciiCase hlower
      (h.permission_ids.owned _ (List.mem_map_of_mem hrow)) (owns_plugins.mpr ⟨plugin, hplugin, rfl⟩) heq
    exact h.permissions.agree (plugin.pluginId, plugin.permissions)
      (List.mem_map.mpr ⟨plugin, hplugin, rfl⟩) (row.pluginId, row.document)
      (List.mem_map.mpr ⟨row, hrow, rfl⟩) hid

end Spelling

end PluginTables

theorem registry_consistent (platform : Platform Time)
    (hlower : ∀ a b, eqIgnoreAsciiCase a b = true →
      platform.collation.lower a = platform.collation.lower b)
    {s : PluginTables Time} (h : (pluginRegistry platform).Reachable s) : s.IsConsistent :=
  (PluginTables.consistent_of_reachable h).isConsistent hlower

def bytePlatform : Platform Nat where
  collation := byteCollation
  compareTime := compare
  formatTime := toString
  parseTime text := some (Nat.ofDigitChars 10 text.toList 0)
  inheritProviderSecretReference configuration _ := configuration
  protectProviderConfiguration := .ok

def installAndUpdate : List (PluginTransaction Nat) :=
  let package (version : String) : InstallPluginPackage :=
    { pluginId := "Trakt", name := "Trakt", version, runtime := "dotnet", targetAbi := "10.9",
      package := .object [], manifest := .object [] }
  [⟨.install (package "1.0") none, ⟨0, 1, 2⟩, 10⟩,
    ⟨.updatePermissions "TRAKT" (.array [.string "network"]) none, ⟨3, 4, 5⟩, 11⟩,
    ⟨.install (package "1.1") none, ⟨6, 7, 8⟩, 12⟩]

theorem registry_consistent_after_update :
    ∃ s, (pluginRegistry bytePlatform).Reachable s ∧
      (s.installations.map fun row => (row.version, row.status)) =
          [("1.0", "Superseded"), ("1.1", "Installed")] ∧
        (s.installed.map (·.permissions)) = [.array [.string "network"]] ∧ s.IsConsistent := by
  obtain ⟨s, hreachable, hinstallations, hpermissions⟩ := Transition.Machine.exists_of_run
    (M := pluginRegistry bytePlatform) installAndUpdate
    (P := fun s => (s.installations.map fun row => (row.version, row.status)) =
          [("1.0", "Superseded"), ("1.1", "Installed")] ∧
        (s.installed.map (·.permissions)) = [.array [.string "network"]]) (by decide +kernel)
  refine ⟨s, hreachable, hinstallations, hpermissions, ?_⟩
  exact registry_consistent bytePlatform (fun _ _ heq => eqIgnoreAsciiCase_iff.mp heq) hreachable

end Registry

end Jellyrin.Plugins
