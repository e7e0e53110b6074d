import Jellyrin.Defs.Plugins.SnapshotLaws

/-! A backup of what the registry holds is restored. -/

namespace Jellyrin.Plugins

open Ascii Json RowTable

/-! A table is restored from its items. -/

section Tables

variable {R R' I : Type} [DecidableEq I] {index : R → I}

theorem insertAll_eq_ok_iff {rows table : List R} :
    insertAll index rows = .ok table ↔ (rows.map index).Nodup ∧ table = rows := by
  rw [insertAll, constrained_eq_ok]
  constructor
  · intro h
    simpa using foldlM_insert_eq_some rows h List.nodup_nil
  · rintro ⟨hnodup, rfl⟩
    simpa using foldlM_insert [] table (by simpa using hnodup)

variable {read : Uuid → Json → Except String R} {newIds : Nat → Uuid} {render : R' → Json}
  {row : Uuid → R' → R} {rows : List R'}

variable (index row) in
theorem restoreTable_map (hread : ∀ new, ∀ r ∈ rows, read new (render r) = .ok (row new r))
    (hnodup : ((rows.zipIdx.map fun entry => row (newIds entry.2) entry.1).map index).Nodup) :
    restoreTable index read newIds (rows.map render) =
      .ok (rows.zipIdx.map fun entry => row (newIds entry.2) entry.1) := by
  have hfold : ∀ (rows : List R') (k : Nat) (table : List R),
      (∀ new, ∀ r ∈ rows, read new (render r) = .ok (row new r)) →
        ((table ++ (rows.zipIdx k).map fun entry => row (newIds entry.2) entry.1).map index).Nodup →
          ((rows.map render).zipIdx k).foldlM (fun table entry => do
            let row ← read (newIds entry.2) entry.1
            constrained (insert index row table)) table =
            .ok (table ++ (rows.zipIdx k).map fun entry => row (newIds entry.2) entry.1) := by
    intro rows
    induction rows with
    | nil =>
      intro k table _ _
      simp only [List.map_nil, List.zipIdx_nil, List.foldlM_nil, List.append_nil]
      rfl
    | cons r rows ih =>
      intro k table hread hnodup
      obtain ⟨hr, hrows⟩ : (∀ new, read new (render r) = .ok (row new r)) ∧
          ∀ new, ∀ r ∈ rows, read new (render r) = .ok (row new r) :=
        ⟨fun new => hread new r List.mem_cons_self,
          fun new r hmem => hread new r (List.mem_cons_of_mem _ hmem)⟩
      rw [List.zipIdx_cons, List.map_cons] at hnodup ⊢
      have hfresh : ∀ old ∈ table, index old ≠ index (row (newIds k) r) := by
        rw [List.map_append, List.nodup_append] at hnodup
        exact fun old hold => hnodup.2.2 _ (List.mem_map_of_mem hold) _ (by simp)
      have hinsert : insert index (row (newIds k) r) table = some (table ++ [row (newIds k) r]) :=
        insert_eq_some_iff.mpr ⟨hfresh, rfl⟩
      rw [List.map_cons, List.zipIdx_cons, List.foldlM_cons]
      have hstep : (do
          let row ← read (newIds k) (render r)
          constrained (insert index row table)) = .ok (table ++ [row (newIds k) r]) := by
        rw [hr (newIds k)]
        exact constrained_eq_ok.mpr hinsert
      simp only [hstep]
      exact (ih (k + 1) (table ++ [row (newIds k) r]) hrows (by simpa using hnodup)).trans
        (by simp)
  exact hfold rows 0 [] hread hnodup

theorem exists_read_of_mem_restoreTable {items : List Json} {table : List R} {r : R}
    (h : restoreTable index read newIds items = .ok table) (hr : r ∈ table) :
    ∃ new item, read new item = .ok r := by
  have hfold : ∀ (entries : List (Json × Nat)) (before : List R),
      (∀ r ∈ before, ∃ new item, read new item = .ok r) →
        ∀ after, (entries.foldlM (fun table entry => do
          let row ← read (newIds entry.2) entry.1
          constrained (insert index row table)) before : Except String (List R)) = .ok after →
            ∀ r ∈ after, ∃ new item, read new item = .ok r := by
    intro entries
    induction entries with
    | nil =>
      intro before hbefore after hafter
      rw [List.foldlM_nil] at hafter
      exact Except.ok.inj hafter ▸ hbefore
    | cons entry entries ih =>
      intro before hbefore after hafter
      rw [List.foldlM_cons] at hafter
      obtain ⟨next, hnext, hafter⟩ := exists_of_bind_eq_ok hafter
      obtain ⟨row, hrow, hnext⟩ := exists_of_bind_eq_ok hnext
      obtain ⟨-, rfl⟩ := insert_eq_some_iff.mp (constrained_eq_ok.mp hnext)
      refine ih (before ++ [row]) (fun r hr => ?_) after hafter
      cases List.mem_append.mp hr with
      | inl hold => exact hbefore r hold
      | inr hnew => exact ⟨_, _, List.mem_singleton.mp hnew ▸ hrow⟩
  exact hfold _ [] (fun r hr => nomatch hr) table h r hr

theorem nodup_map_sortBy {K : Type} {f : R → K} {rows : List R} (cmp : R → R → Ordering)
    (h : (rows.map f).Nodup) : ((sortBy cmp rows).map f).Nodup :=
  ((sortBy_perm cmp rows).map f).nodup_iff.mpr h

variable (index read newIds) in
theorem restoreTable_sortBy (cmp : R → R → Ordering) {render : R → Json} {rows : List R}
    (hread : ∀ new, ∀ r ∈ rows, read new (render r) = .ok r) (hnodup : (rows.map index).Nodup) :
    restoreTable index read newIds ((sortBy cmp rows).map render) = .ok (sortBy cmp rows) := by
  have hrows : ((sortBy cmp rows).zipIdx.map fun entry => entry.1) = sortBy cmp rows :=
    List.zipIdx_map_fst 0 _
  refine (restoreTable_map index (fun _ r => r) ?_ ?_).trans (congrArg Except.ok hrows)
  · exact fun new r hr => hread new r (mem_sortBy.mp hr)
  · rw [hrows]
    exact nodup_map_sortBy cmp hnodup

end Tables

/-! The collections of a snapshot. -/

section Snapshot

variable {Time : Type} (platform : Platform Time)

def collectionNames : List String :=
  ["Repositories", "PackageCatalogCache", "PackageInstallations", "InstalledPlugins",
    "PluginManifests", "PluginConfigurations", "PluginPermissions", "PluginRuntimeInstances",
    "PluginHostEvents", "PluginAuditLog"]

theorem snapshotJson_names (s : PluginTables Time) :
    ((snapshotHeader ++ (snapshotSections platform s).map fun entry =>
      (entry.1, snapshotSection entry.2)).map Prod.fst).Nodup := by
  have hnames : (snapshotHeader ++ (snapshotSections platform s).map fun entry =>
      (entry.1, snapshotSection entry.2)).map Prod.fst =
        ["ModelVersion", "Mode", "Supported", "PackageBinaries"] ++ collectionNames := rfl
  rw [hnames]
  decide

theorem modelVersion_snapshotJson (s : PluginTables Time) :
    (snapshotJson platform s).get "ModelVersion" = some (.number 1) :=
  get_ofFields (snapshotJson_names platform s) (by simp [snapshotHeader])

variable {s : PluginTables Time}

theorem pluginSnapshotItems_snapshotJson {name : String} {items : List Json}
    (h : (name, items) ∈ snapshotSections platform s) :
    pluginSnapshotItems (snapshotJson platform s) name = .ok items := by
  have hsection : (snapshotJson platform s).get name = some (snapshotSection items) := by
    refine get_ofFields (snapshotJson_names platform s) ?_
    exact List.mem_append_right _ (List.mem_map.mpr ⟨(name, items), h, rfl⟩)
  have hitems : (snapshotSection items).get "Items" = some (.array items) :=
    get_ofFields (show ["Count", "Items"].Nodup by decide) (by simp)
  rw [pluginSnapshotItems, hsection, Option.bind_some, hitems]
  rfl

/-! The tables that can be restored. -/

namespace PluginTables

structure IsRestorable (s : PluginTables Time) : Prop where
  installed : ∀ row ∈ s.installed, row.IsRestorable
  manifests : ∀ row ∈ s.manifests, row.IsRestorable
  configurations : ∀ row ∈ s.configurations, row.IsRestorable
  permissions : ∀ row ∈ s.permissions, row.IsRestorable
  instances : ∀ row ∈ s.instances, row.IsRestorable
  hostEvents : ∀ row ∈ s.hostEvents, row.IsRestorable
  auditLog : ∀ row ∈ s.auditLog, row.IsRestorable
  installations : ∀ row ∈ s.installations, row.IsRestorable
  hostEventIds : (s.hostEvents.map (·.id)).Nodup
  auditIds : (s.auditLog.map (·.id)).Nodup

structure Keyed (lower : String → String) (s : PluginTables Time) : Prop where
  installed : (s.installed.map fun row => lower row.pluginId).Nodup
  manifests : (s.manifests.map fun row => lower row.pluginId).Nodup
  configurations : (s.configurations.map fun row => lower row.pluginId).Nodup
  permissions : (s.permissions.map fun row => lower row.pluginId).Nodup
  instances : (s.instances.map (·.instanceId)).Nodup

structure Synchronized (s : PluginTables Time) : Prop where
  repositories : ∀ row ∈ s.repositories, row.IsRestorable
  catalog : ∀ row ∈ s.catalog, row.IsRestorable
  urls : (s.repositories.map (·.url)).Nodup
  packages : (s.catalog.map catalogKey).Nodup

end PluginTables

def restoredTables (newIds : Nat → Uuid) (configurations : List (PluginDocument Time))
    (s : PluginTables Time) : PluginTables Time where
  installed := sortBy (comparePlugins platform) s.installed
  manifests := sortBy (fun a b => compareLower platform a.pluginId b.pluginId) s.manifests
  configurations
  permissions := sortBy (fun a b => compareLower platform a.pluginId b.pluginId) s.permissions
  instances := sortBy (compareInstances platform) s.instances
  hostEvents := sortBy (compareHostEvents platform) s.hostEvents
  auditLog := sortBy (compareAuditEntries platform) s.auditLog
  installations := (sortBy (compareInstallations platform) s.installations).zipIdx.map
    fun entry => { entry.1 with id := newIds entry.2 }
  repositories := sortBy (compareRepositories platform) s.repositories
  catalog := sortBy (comparePackages platform) s.catalog

variable {platform}

theorem mapM_readConfiguration (hplatform : platform.KeepsTimes) (now : Time)
    {rows rows' : List (PluginDocument Time)} (hrows : ∀ row ∈ rows, row.IsRestorable)
    (hprotected : rows.mapM (protectRestored platform) = .ok rows') :
    (rows.map fun row => Json.ofFields (documentFields platform "Configuration" row)).mapM
      (readConfiguration platform now) = .ok rows' := by
  rw [← hprotected]
  clear hprotected
  induction rows with
  | nil => rfl
  | cons row rows ih =>
    obtain ⟨hrow, hrows⟩ := List.forall_mem_cons.mp hrows
    have hread := readDocument_documentFields hplatform now (.object [])
      (show ["PluginId", "Configuration", "UpdatedAt"].Nodup by simp) (by simp [itemFieldNames]) hrow
    have hfirst : readConfiguration platform now
        (Json.ofFields (documentFields platform "Configuration" row)) =
          protectRestored platform row := by
      rw [readConfiguration, hread]
      rfl
    rw [List.map_cons, List.mapM_cons, List.mapM_cons, hfirst, ih hrows]

theorem restoreInstallations (hplatform : platform.KeepsTimes) (now : Time) {newIds : Nat → Uuid}
    {rows : List (PackageInstallation Time)} (hrows : ∀ row ∈ rows, row.IsRestorable)
    (hids : ∀ i < rows.length, ∀ j < rows.length, newIds i = newIds j → i = j) :
    restoreTable (fun row : PackageInstallation Time => row.id)
        (readPackageInstallation platform now) newIds
        ((sortBy (compareInstallations platform) rows).map fun row =>
          Json.ofFields (packageInstallationFields platform row)) =
      .ok ((sortBy (compareInstallations platform) rows).zipIdx.map fun entry =>
        { entry.1 with id := newIds entry.2 }) := by
  refine restoreTable_map (fun row : PackageInstallation Time => row.id)
    (fun new (row : PackageInstallation Time) => { row with id := new }) ?_ ?_
  · intro new row hrow
    exact readPackageInstallation_packageInstallationFields hplatform now new
      (hrows row (mem_sortBy.mp hrow))
  · have hlength := (sortBy_perm (compareInstallations platform) rows).length_eq
    have hnew : (((sortBy (compareInstallations platform) rows).zipIdx.map fun entry =>
        ({ entry.1 with id := newIds entry.2 } : PackageInstallation Time)).map (·.id)) =
          (List.range rows.length).map newIds := by
      rw [List.map_map, ← hlength, List.range_eq_range', ← List.zipIdx_map_snd 0, List.map_map]
      rfl
    rw [hnew]
    refine List.Nodup.map_on ?_ List.nodup_range
    exact fun i hi j hj => hids i (List.mem_range.mp hi) j (List.mem_range.mp hj)

theorem restorePluginPlatformSnapshot_snapshotJson (hplatform : platform.KeepsTimes) (now : Time)
    {newIds : Nat → Uuid} (hs : s.IsRestorable) (hkeyed : s.Keyed platform.collation.lower)
    (hsynced : s.Synchronized) {configurations : List (PluginDocument Time)}
    (hprotected : (sortBy (fun a b => compareLower platform a.pluginId b.pluginId)
      s.configurations).mapM (protectRestored platform) = .ok configurations)
    (hconfigurations : (configurations.map fun row => platform.collation.lower row.pluginId).Nodup)
    (hids : ∀ i < s.installations.length, ∀ j < s.installations.length,
      newIds i = newIds j → i = j) :
    restorePluginPlatformSnapshot platform now newIds (snapshotJson platform s) =
      .ok (restoredTables platform newIds configurations s) := by
  have hversion : ((snapshotJson platform s).get "ModelVersion").bind asI64 = some 1 := by
    rw [modelVersion_snapshotJson]
    rfl
  -- the rows of each section are those of its table, in another order
  have hrepositories := restoreTable_sortBy (fun row : PluginRepository => row.url)
    (fun _ => readRepository) newIds (compareRepositories platform)
    (fun _ row hrow => readRepository_repositoryFields (hsynced.repositories row hrow)) hsynced.urls
  have hcatalog := restoreTable_sortBy catalogKey (fun _ => readPackageCatalog) newIds
    (comparePackages platform)
    (fun _ row hrow => readPackageCatalog_packageCatalogFields (hsynced.catalog row hrow))
    hsynced.packages
  have hinstalled := restoreTable_sortBy
    (fun row : InstalledPlugin Time => platform.collation.lower row.pluginId)
    (fun _ => readPlugin platform now) newIds (comparePlugins platform)
    (fun _ row hrow => readPlugin_pluginFields hplatform now (hs.installed row hrow))
    hkeyed.installed
  have hmanifests := restoreTable_sortBy (documentIndex platform)
    (fun _ => readDocument platform now "Manifest" (.object [])) newIds
    (fun a b => compareLower platform a.pluginId b.pluginId)
    (fun _ row hrow => readDocument_documentFields hplatform now (.object [])
      (show ["PluginId", "Manifest", "UpdatedAt"].Nodup by simp) (by simp [itemFieldNames])
      (hs.manifests row hrow)) hkeyed.manifests
  have hpermissions := restoreTable_sortBy (documentIndex platform)
    (fun _ => readDocument platform now "Permissions" (.array [])) newIds
    (fun a b => compareLower platform a.pluginId b.pluginId)
    (fun _ row hrow => readDocument_documentFields hplatform now (.array [])
      (show ["PluginId", "Permissions", "UpdatedAt"].Nodup by simp) (by simp [itemFieldNames])
      (hs.permissions row hrow)) hkeyed.permissions
  have hinstances := restoreTable_sortBy (fun row : PluginRuntimeInstance Time => row.instanceId)
    (readRuntimeInstance platform now) newIds (compareInstances platform)
    (fun new row hrow => readRuntimeInstance_pluginRuntimeFields hplatform now new
      (hs.instances row hrow)) hkeyed.instances
  have hhostEvents := restoreTable_sortBy (fun row : PluginHostEvent Time => row.id)
    (readHostEvent platform now) newIds (compareHostEvents platform)
    (fun new row hrow => readHostEvent_pluginHostEventFields hplatform now new
      (hs.hostEvents row hrow)) hs.hostEventIds
  have hauditLog := restoreTable_sortBy (fun row : PluginAuditEntry Time => row.id)
    (readAuditEntry platform now) newIds (compareAuditEntries platform)
    (fun new row hrow => readAuditEntry_pluginAuditFields hplatform now new
      (hs.auditLog row hrow)) hs.auditIds
  have hinstallations := restoreInstallations hplatform now hs.installations hids
  have hread := mapM_readConfiguration hplatform now
    (fun row hrow => hs.configurations row (mem_sortBy.mp hrow)) hprotected
  have hinsert : insertAll (documentIndex platform) configurations = .ok configurations :=
    insertAll_eq_ok_iff.mpr ⟨hconfigurations, rfl⟩
  have hitems : ∀ entry ∈ snapshotSections platform s, pluginSnapshotItems
      (snapshotJson platform s) entry.1 = .ok entry.2 :=
    fun entry hentry => pluginSnapshotItems_snapshotJson platform hentry
  simp only [snapshotSections, documentItems, List.forall_mem_cons] at hitems
  obtain ⟨hitems₁, hitems₂, hitems₃, hitems₄, hitems₅, hitems₆, hitems₇, hitems₈, hitems₉, hitems₁₀,
    -⟩ := hitems
  simp only [restorePluginPlatformSnapshot, hversion, ne_eq, not_true_eq_false, if_false, ok_bind,
    hitems₁, hitems₂, hitems₃, hitems₄, hitems₅, hitems₆, hitems₇, hitems₈, hitems₉, hitems₁₀, hread,
    hrepositories, hcatalog, hinstallations, hinstalled, hmanifests, hinsert, hpermissions,
    hinstances, hhostEvents, hauditLog]
  rfl

theorem filled_lastError_of_readPlugin {now : Time} {item : Json} {row : InstalledPlugin Time}
    (h : readPlugin platform now item = .ok row) : ∀ text ∈ row.lastError, Filled text := by
  obtain ⟨pluginId, -, h⟩ := exists_of_bind_eq_ok h
  obtain ⟨name, -, h⟩ := exists_of_bind_eq_ok h
  obtain ⟨version, -, h⟩ := exists_of_bind_eq_ok h
  obtain ⟨installedAt, -, h⟩ := exists_of_bind_eq_ok h
  obtain ⟨updatedAt, -, h⟩ := exists_of_bind_eq_ok h
  rw [← Except.ok.inj h]
  exact fun text htext => filled_stringField htext

theorem filled_lastError_of_restored {now : Time} {newIds : Nat → Uuid} {snapshot : Json}
    {restored : PluginTables Time} {row : InstalledPlugin Time}
    (h : restorePluginPlatformSnapshot platform now newIds snapshot = .ok restored)
    (hrow : row ∈ restored.installed) : ∀ text ∈ row.lastError, Filled text := by
  rw [restorePluginPlatformSnapshot] at h
  split at h
  · nomatch h
  split at h
  · nomatch h
  -- The sections before the plugins and after them.
  obtain ⟨configurationItems, -, h⟩ := exists_of_bind_eq_ok h
  obtain ⟨restoredConfigurations, -, h⟩ := exists_of_bind_eq_ok h
  obtain ⟨repositoryItems, -, h⟩ := exists_of_bind_eq_ok h
  obtain ⟨repositories, -, h⟩ := exists_of_bind_eq_ok h
  obtain ⟨catalogItems, -, h⟩ := exists_of_bind_eq_ok h
  obtain ⟨catalog, -, h⟩ := exists_of_bind_eq_ok h
  obtain ⟨installationItems, -, h⟩ := exists_of_bind_eq_ok h
  obtain ⟨installations, -, h⟩ := exists_of_bind_eq_ok h
  obtain ⟨installedItems, -, h⟩ := exists_of_bind_eq_ok h
  obtain ⟨installed, hinstalled, h⟩ := exists_of_bind_eq_ok h
  obtain ⟨manifestItems, -, h⟩ := exists_of_bind_eq_ok h
  obtain ⟨manifests, -, h⟩ := exists_of_bind_eq_ok h
  obtain ⟨configurations, -, h⟩ := exists_of_bind_eq_ok h
  obtain ⟨permissionItems, -, h⟩ := exists_of_bind_eq_ok h
  obtain ⟨permissions, -, h⟩ := exists_of_bind_eq_ok h
  obtain ⟨instanceItems, -, h⟩ := exists_of_bind_eq_ok h
  obtain ⟨instances, -, h⟩ := exists_of_bind_eq_ok h
  obtain ⟨hostEventItems, -, h⟩ := exists_of_bind_eq_ok h
  obtain ⟨hostEvents, -, h⟩ := exists_of_bind_eq_ok h
  obtain ⟨auditItems, -, h⟩ := exists_of_bind_eq_ok h
  obtain ⟨auditLog, -, h⟩ := exists_of_bind_eq_ok h
  rw [← Except.ok.inj h] at hrow
  obtain ⟨new, item, hread⟩ := exists_read_of_mem_restoreTable hinstalled hrow
  exact filled_lastError_of_readPlugin hread

/-! The catalogue of packages. -/

theorem filled_getD_stringField {value : Json} {field default : String} (h : Filled default) :
    Filled ((value.stringField field).getD default) := by
  cases hfield : value.stringField field with
  | none => exact h
  | some text => exact filled_stringField hfield

variable {configuration : Json}

theorem restorable_pluginRepositoryModelsFromConfig :
    ∀ row ∈ pluginRepositoryModelsFromConfig configuration, row.IsRestorable := by
  intro row hrow
  obtain ⟨value, -, hvalue⟩ := List.mem_filterMap.mp hrow
  obtain ⟨name, hname, hvalue⟩ := Option.bind_eq_some_iff.mp hvalue
  obtain ⟨url, hurl, hvalue⟩ := Option.bind_eq_some_iff.mp hvalue
  obtain rfl := Option.some.inj hvalue
  exact ⟨filled_stringField hname, filled_stringField hurl⟩

theorem restorable_packageCatalogVersion {repository : PluginRepository}
    (hrepository : repository.IsRestorable) {package version : Json} {packageName : String}
    (hname : Filled packageName) :
    (packageCatalogVersion repository package packageName version).IsRestorable where
  repositoryUrl := hrepository.url
  packageGuid id hid := by
    simp only [packageCatalogVersion, Option.mem_def, Option.or_eq_some_iff] at hid
    obtain (hid | ⟨-, hid⟩) | ⟨-, hid⟩ := hid
    all_goals exact filled_stringField hid
  packageName := hname
  packageVersion := filled_getD_stringField (by decide)
  runtime := filled_getD_stringField (filled_getD_stringField (by decide))
  targetAbi := by
    rw [packageCatalogVersion]
    cases hfield : (version.stringField "TargetAbi").or (package.stringField "TargetAbi") with
    | none => exact trimmed_empty
    | some text =>
      rw [Option.or_eq_some_iff] at hfield
      obtain hfield | ⟨-, hfield⟩ := hfield
      · exact (filled_stringField hfield).1
      · exact (filled_stringField hfield).1

theorem restorable_packageCatalogModels {repositories : List PluginRepository}
    (h : ∀ row ∈ repositories, row.IsRestorable) :
    ∀ row ∈ packageCatalogModelsFromRepositories repositories, row.IsRestorable := by
  intro row hrow
  obtain ⟨repository, hrepository, hrow⟩ := List.mem_flatMap.mp hrow
  obtain ⟨package, -, hrow⟩ := List.mem_flatMap.mp hrow
  split at hrow
  · cases hrow
  · rename_i packageName hname
    obtain ⟨version, -, rfl⟩ := List.mem_map.mp hrow
    exact restorable_packageCatalogVersion (h repository (List.mem_of_mem_filter hrepository))
      (filled_stringField hname)

theorem replaceCatalogFromConfiguration_eq_ok {s₁ : PluginTables Time}
    (h : replaceCatalogFromConfiguration configuration s = .ok s₁) :
    s₁ = { s with repositories := s₁.repositories, catalog := s₁.catalog } ∧ s₁.Synchronized ∧
      ∀ t : PluginTables Time, replaceCatalogFromConfiguration configuration t =
        .ok { t with repositories := s₁.repositories, catalog := s₁.catalog } := by
  obtain ⟨repositories, hrepositories, h⟩ := exists_of_bind_eq_ok h
  obtain ⟨catalog, hcatalog, h⟩ := exists_of_bind_eq_ok h
  obtain rfl := Except.ok.inj h
  refine ⟨rfl, ?_, fun t => ?_⟩
  · obtain ⟨hurls, rfl⟩ := insertAll_eq_ok_iff.mp hrepositories
    obtain ⟨hpackages, rfl⟩ := insertAll_eq_ok_iff.mp hcatalog
    exact ⟨restorable_pluginRepositoryModelsFromConfig,
      restorable_packageCatalogModels restorable_pluginRepositoryModelsFromConfig, hurls, hpackages⟩
  · simp only [replaceCatalogFromConfiguration, hrepositories, hcatalog, ok_bind]

/-! The round trip of one state. -/

def comparedItems (name : String) (items : List Json) : List Json :=
  if name = "PluginConfigurations" then
    items.filter fun item =>
      !(pluginSnapshotOptionalString item "PluginId").any (eqIgnoreAsciiCase · xtreamPluginId)
  else items

def SameEntries (name : String) (snapshot snapshot' : Json) : Prop :=
  ∃ items ∈ (pluginSnapshotItems snapshot name).toOption,
    ∃ items' ∈ (pluginSnapshotItems snapshot' name).toOption,
      (comparedItems name items').Perm (comparedItems name items)

instance (name : String) (snapshot snapshot' : Json) :
    Decidable (SameEntries name snapshot snapshot') :=
  inferInstanceAs (Decidable (∃ _, _ ∧ _))

variable (platform) in
def BackupRoundTrips (configuration : Json) (now : Time) (newIds : Nat → Uuid)
    (s : PluginTables Time) : Prop :=
  ∀ backup ∈ (pluginPlatformSnapshot platform configuration s).toOption,
    ∃ restored ∈ (restorePluginPlatformSnapshot platform now newIds backup.1).toOption,
      ∃ next ∈ (pluginPlatformSnapshot platform configuration restored).toOption,
        ∀ name ∈ collectionNames, SameEntries name backup.1 next.1

instance (configuration : Json) (now : Time) (newIds : Nat → Uuid) (s : PluginTables Time) :
    Decidable (BackupRoundTrips platform configuration now newIds s) :=
  inferInstanceAs (Decidable (∀ _, _ → _))

theorem sameEntries_of_forall₂ {t : PluginTables Time}
    (h : List.Forall₂ (fun entry entry' => entry'.1 = entry.1 ∧
        (comparedItems entry.1 entry'.2).Perm (comparedItems entry.1 entry.2))
      (snapshotSections platform s) (snapshotSections platform t)) :
    ∀ name ∈ collectionNames, SameEntries name (snapshotJson platform s)
      (snapshotJson platform t) := by
  intro name hname
  obtain ⟨entry, hentry, rfl⟩ : ∃ entry ∈ snapshotSections platform s, entry.1 = name :=
    List.mem_map.mp (show name ∈ (snapshotSections platform s).map Prod.fst from hname)
  obtain ⟨entry', hentry', hsame, hperm⟩ := exists_mem_of_forall₂ h hentry
  refine ⟨entry.2, ?_, entry'.2, ?_, hperm⟩
  · rw [pluginSnapshotItems_snapshotJson platform hentry]
    rfl
  · rw [← hsame, pluginSnapshotItems_snapshotJson platform hentry']
    rfl

theorem perm_map_sortBy {R : Type} {cmp : R → R → Ordering} {rows rows' : List R}
    (h : rows'.Perm rows) (f : R → Json) :
    ((sortBy cmp rows').map f).Perm ((sortBy cmp rows).map f) :=
  (((sortBy_perm cmp rows').trans h).trans (sortBy_perm cmp rows).symm).map f

theorem comparedItems_perm {name : String} {items items' : List Json} (h : items'.Perm items) :
    (comparedItems name items').Perm (comparedItems name items) := by
  rw [comparedItems, comparedItems]
  split
  · exact h.filter _
  · exact h

theorem eq_of_protectRestored {row row' : PluginDocument Time}
    (h : protectRestored platform row = .ok row') :
    row'.pluginId = row.pluginId ∧
      (eqIgnoreAsciiCase row.pluginId xtreamPluginId = false → row' = row) := by
  rw [protectRestored] at h
  split at h
  · rename_i hxtream
    cases hdocument : platform.protectProviderConfiguration row.document with
    | error e =>
      rw [hdocument] at h
      nomatch h
    | ok document =>
      rw [hdocument] at h
      obtain rfl := Except.ok.inj h
      exact ⟨rfl, fun hother => absurd hxtream (by simp [hother])⟩
  · obtain rfl := Except.ok.inj h
    exact ⟨rfl, fun _ => rfl⟩

theorem exists_protectRestored {row : PluginDocument Time}
    (h : eqIgnoreAsciiCase row.pluginId xtreamPluginId = true →
      ∃ document, platform.protectProviderConfiguration row.document = .ok document) :
    ∃ row', protectRestored platform row = .ok row' := by
  rw [protectRestored]
  split
  · rename_i hxtream
    obtain ⟨document, hdocument⟩ := h hxtream
    exact ⟨{ row with document }, by rw [hdocument]; rfl⟩
  · exact ⟨row, rfl⟩

theorem map_pluginId_of_protected {rows rows' : List (PluginDocument Time)}
    (h : List.Forall₂ (fun row row' => protectRestored platform row = .ok row') rows rows') :
    rows'.map (·.pluginId) = rows.map (·.pluginId) := by
  induction h with
  | nil => rfl
  | cons hrow _ ih => rw [List.map_cons, List.map_cons, ih, (eq_of_protectRestored hrow).1]

theorem comparedItems_configurations {rows rows' : List (PluginDocument Time)}
    (hrows : ∀ row ∈ rows, row.IsRestorable)
    (h : List.Forall₂ (fun row row' => protectRestored platform row = .ok row') rows rows') :
    comparedItems "PluginConfigurations"
        (rows'.map fun row => Json.ofFields (documentFields platform "Configuration" row)) =
      comparedItems "PluginConfigurations"
        (rows.map fun row => Json.ofFields (documentFields platform "Configuration" row)) := by
  have hid : ∀ row : PluginDocument Time, row.IsRestorable → pluginSnapshotOptionalString
      (Json.ofFields (documentFields platform "Configuration" row)) "PluginId" =
        some row.pluginId := by
    intro row hrow
    refine stringField_ofFields (namesDiffer_documentFields
      (show ["PluginId", "Configuration", "UpdatedAt"].Nodup by simp) (by simp [itemFieldNames])) ?_ hrow
    simp [documentFields]
  simp only [comparedItems, if_true]
  induction h with
  | nil => rfl
  | @cons row row' rows rows' hrow _ ih =>
    obtain ⟨hfirst, hrest⟩ := List.forall_mem_cons.mp hrows
    obtain ⟨hsame, heq⟩ := eq_of_protectRestored hrow
    have hfirst' : row'.IsRestorable := by
      rw [PluginDocument.IsRestorable, hsame]
      exact hfirst
    rw [List.map_cons, List.map_cons, List.filter_cons, List.filter_cons, ih hrest, hid row hfirst,
      hid row' hfirst', hsame]
    cases hxtream : eqIgnoreAsciiCase row.pluginId xtreamPluginId with
    | true => simp [hxtream]
    | false => rw [heq hxtream]

theorem map_installations {newIds : Nat → Uuid} {rows : List (PackageInstallation Time)} :
    ((rows.zipIdx.map fun entry => ({ entry.1 with id := newIds entry.2 } :
        PackageInstallation Time)).map fun row =>
      Json.ofFields (packageInstallationFields platform row)) =
      rows.map fun row => Json.ofFields (packageInstallationFields platform row) := by
  rw [List.map_map]
  have hfst : rows = rows.zipIdx.map Prod.fst := (List.zipIdx_map_fst 0 rows).symm
  conv_rhs => rw [hfst, List.map_map]
  rfl

theorem sameEntries_restoredTables {newIds : Nat → Uuid} (hs : s.IsRestorable)
    {configurations : List (PluginDocument Time)}
    (hprotected : List.Forall₂ (fun row row' => protectRestored platform row = .ok row')
      (sortBy (fun a b => compareLower platform a.pluginId b.pluginId) s.configurations)
      configurations) :
    ∀ name ∈ collectionNames, SameEntries name (snapshotJson platform s)
      (snapshotJson platform { restoredTables platform newIds configurations s with
        repositories := s.repositories, catalog := s.catalog }) := by
  have hsorted : ∀ {R : Type} (cmp : R → R → Ordering) (rows : List R) (f : R → Json) (name),
      (comparedItems name ((sortBy cmp (sortBy cmp rows)).map f)).Perm
        (comparedItems name ((sortBy cmp rows).map f)) := fun cmp rows f _ =>
    comparedItems_perm (perm_map_sortBy (sortBy_perm cmp rows) f)
  refine sameEntries_of_forall₂ ?_
  refine .cons ⟨rfl, .refl _⟩ (.cons ⟨rfl, .refl _⟩ (.cons ⟨rfl, ?_⟩ (.cons ⟨rfl, hsorted _ _ _ _⟩
    (.cons ⟨rfl, hsorted _ _ _ _⟩ (.cons ⟨rfl, ?_⟩ (.cons ⟨rfl, hsorted _ _ _ _⟩
      (.cons ⟨rfl, hsorted _ _ _ _⟩ (.cons ⟨rfl, hsorted _ _ _ _⟩ (.cons ⟨rfl, hsorted _ _ _ _⟩
        .nil)))))))))
  · refine comparedItems_perm ?_
    exact ((sortBy_perm _ _).map _).trans (.of_eq map_installations)
  · refine (comparedItems_perm ((sortBy_perm _ _).map _)).trans (.of_eq ?_)
    exact comparedItems_configurations (fun row hrow => hs.configurations row (mem_sortBy.mp hrow))
      hprotected

theorem backupRoundTrips_of_restorable (hplatform : platform.KeepsTimes) {now : Time}
    {newIds : Nat → Uuid} (hs : s.IsRestorable) (hkeyed : s.Keyed platform.collation.lower)
    (hprotect : ∀ row ∈ s.configurations, eqIgnoreAsciiCase row.pluginId xtreamPluginId = true →
      ∃ document, platform.protectProviderConfiguration row.document = .ok document)
    (hids : ∀ i < s.installations.length, ∀ j < s.installations.length,
      newIds i = newIds j → i = j) : BackupRoundTrips platform configuration now newIds s := by
  intro backup hbackup
  obtain ⟨s₁, hsync, hbackup⟩ := exists_of_bind_eq_ok (mem_toOption.mp hbackup)
  obtain rfl := Except.ok.inj hbackup
  obtain ⟨hs₁, hsynced, hagain⟩ := replaceCatalogFromConfiguration_eq_ok hsync
  have hrestorable : s₁.IsRestorable := by
    rw [hs₁]
    exact ⟨hs.installed, hs.manifests, hs.configurations, hs.permissions, hs.instances,
      hs.hostEvents, hs.auditLog, hs.installations, hs.hostEventIds, hs.auditIds⟩
  have hkeyed₁ : s₁.Keyed platform.collation.lower := by
    rw [hs₁]
    exact ⟨hkeyed.installed, hkeyed.manifests, hkeyed.configurations, hkeyed.permissions,
      hkeyed.instances⟩
  have hconfigurations₁ : s₁.configurations = s.configurations := congrArg (·.configurations) hs₁
  have hinstallations₁ : s₁.installations = s.installations := congrArg (·.installations) hs₁
  obtain ⟨configurations, hconfigurations⟩ : ∃ configurations,
      (sortBy (fun a b => compareLower platform a.pluginId b.pluginId) s₁.configurations).mapM
        (protectRestored platform) = .ok configurations := by
    refine exists_mapM_eq_ok fun row hrow => ?_
    rw [mem_sortBy, hconfigurations₁] at hrow
    exact exists_protectRestored (hprotect row hrow)
  have hprotected := forall₂_of_mapM hconfigurations
  have hnodup : (configurations.map fun row => platform.collation.lower row.pluginId).Nodup := by
    have hids := map_pluginId_of_protected hprotected
    have hlower := congrArg (List.map platform.collation.lower) hids
    rw [List.map_map, List.map_map] at hlower
    exact hlower ▸ nodup_map_sortBy _ hkeyed₁.configurations
  have hrestore := restorePluginPlatformSnapshot_snapshotJson hplatform now hrestorable
    hkeyed₁ hsynced hconfigurations hnodup (hinstallations₁ ▸ hids)
  have hnext : ∀ t, pluginPlatformSnapshot platform configuration t = .ok
      (snapshotJson platform { t with repositories := s₁.repositories, catalog := s₁.catalog },
        { t with repositories := s₁.repositories, catalog := s₁.catalog }) := by
    intro t
    rw [pluginPlatformSnapshot, hagain]
    rfl
  exact ⟨_, mem_toOption.mpr hrestore, _, mem_toOption.mpr (hnext _),
    sameEntries_restoredTables hrestorable hprotected⟩

/-! What does not come back. -/

theorem pluginSnapshotItems_installed {backup : Json × PluginTables Time}
    (h : pluginPlatformSnapshot platform configuration s = .ok backup) :
    pluginSnapshotItems backup.1 "InstalledPlugins" =
      .ok ((sortBy (comparePlugins platform) s.installed).map fun row =>
        Json.ofFields (pluginFields platform row)) := by
  obtain ⟨s₁, hsync, h⟩ := exists_of_bind_eq_ok h
  rw [← Except.ok.inj h, ← congrArg (·.installed) (replaceCatalogFromConfiguration_eq_ok hsync).1]
  exact pluginSnapshotItems_snapshotJson platform (by simp [snapshotSections])

theorem lastError_of_pluginFields {row row' : InstalledPlugin Time}
    (h : Json.ofFields (pluginFields platform row) = Json.ofFields (pluginFields platform row')) :
    row.lastError = row'.lastError := by
  have hget : ∀ row : InstalledPlugin Time,
      (Json.ofFields (pluginFields platform row)).get "LastError" =
        some (optionalText row.lastError) := by
    intro row
    refine get_ofFields ?_ (by simp [pluginFields])
    exact show ["Id", "Guid", "Name", "Version", "Runtime", "RuntimeVersion", "TargetAbi",
      "ServerCompatibility", "Status", "Capabilities", "Permissions", "ConfigurationState",
      "LastError", "Health", "Manifest", "InstalledAt", "UpdatedAt"].Nodup by decide
  have htexts := Option.some.inj ((hget row).symm.trans ((congrArg (Json.get · _) h).trans (hget row')))
  cases hrow : row.lastError <;> cases hrow' : row'.lastError <;>
    simp_all [optionalText]

theorem filled_lastError_of_backupRoundTrips {now : Time} {newIds : Nat → Uuid}
    {backup : Json × PluginTables Time}
    (hbackup : pluginPlatformSnapshot platform configuration s = .ok backup)
    (h : BackupRoundTrips platform configuration now newIds s) {row : InstalledPlugin Time}
    (hrow : row ∈ s.installed) : ∀ text ∈ row.lastError, Filled text := by
  obtain ⟨restored, hrestored, next, hnext, hsame⟩ := h backup (mem_toOption.mpr hbackup)
  obtain ⟨items, hitems, items', hitems', hperm⟩ :=
    hsame "InstalledPlugins" (by simp [collectionNames])
  rw [mem_toOption, pluginSnapshotItems_installed hbackup] at hitems
  rw [mem_toOption, pluginSnapshotItems_installed (mem_toOption.mp hnext)] at hitems'
  obtain rfl := Except.ok.inj hitems
  obtain rfl := Except.ok.inj hitems'
  simp only [comparedItems, if_neg (show "InstalledPlugins" ≠ "PluginConfigurations" by decide)]
    at hperm
  obtain ⟨row', hrow', heq⟩ := List.mem_map.mp
    (hperm.mem_iff.mpr (List.mem_map_of_mem (mem_sortBy.mpr hrow)))
  rw [← lastError_of_pluginFields heq]
  exact filled_lastError_of_restored (mem_toOption.mp hrestored) (mem_sortBy.mp hrow')

end Snapshot

end Jellyrin.Plugins
