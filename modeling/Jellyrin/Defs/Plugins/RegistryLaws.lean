import Jellyrin.Defs.Data.Fallible
import Jellyrin.Defs.Plugins.Registry

/-! The tables of the registry agree about the plugins that are installed. -/

namespace Jellyrin.Plugins

open Ascii Json RowTable

/-! What the tables say about identity, table by table.  The plugins are given with their
permissions. -/

section Tables

variable {Time : Type} (lower : String → String)

def Owns (plugins : List (String × Json)) (id : String) : Prop :=
  ∃ permissions, (id, permissions) ∈ plugins

def Distinct (plugins : List (String × Json)) : Prop :=
  (plugins.map fun plugin => lower plugin.1).Nodup

structure DocumentsOk (plugins : List (String × Json)) (ids : List String) : Prop where
  nodup : ids.Nodup
  owned : ∀ id ∈ ids, Owns plugins id

structure PermissionsOk (plugins rows : List (String × Json)) : Prop where
  documents : DocumentsOk plugins (rows.map Prod.fst)
  agree : ∀ plugin ∈ plugins, ∀ row ∈ rows, row.1 = plugin.1 → row.2 = plugin.2
  absent : ∀ plugin ∈ plugins, (∀ row ∈ rows, row.1 ≠ plugin.1) → plugin.2 = .array []

structure InstancesOk (plugins : List (String × Json)) (rows : List (PluginRuntimeInstance Time)) :
    Prop where
  ids : (rows.map (·.instanceId)).Nodup
  owned : ∀ row ∈ rows, ∃ id, row.pluginId = some id ∧ Owns plugins id
  nodup : (rows.map fun row => (row.pluginId, lower row.runtime)).Nodup

structure InstallationsOk (plugins : List (String × Json)) (rows : List (PackageInstallation Time)) :
    Prop where
  ids : (rows.map (·.id)).Nodup
  owned : ∀ row ∈ rows, ∃ id, row.packageGuid = some id ∧ Owns plugins id
  nodup : (rows.map fun row => (row.packageGuid, lower row.version)).Nodup
  once : ∀ a ∈ rows, ∀ b ∈ rows, a.packageGuid = b.packageGuid → a.status = "Installed" →
    b.status = "Installed" → lower a.version = lower b.version

variable {lower} {plugins plugins' : List (String × Json)}

theorem Owns.mono {id : String} (h : Owns plugins id) (hle : plugins ⊆ plugins') :
    Owns plugins' id :=
  h.imp fun _ hmem => hle hmem

theorem Distinct.eq_of_lower (h : Distinct lower plugins) {id id' : String} (hid : Owns plugins id)
    (hid' : Owns plugins id') (heq : lower id = lower id') : id = id' := by
  obtain ⟨permissions, hmem⟩ := hid
  obtain ⟨permissions', hmem'⟩ := hid'
  exact congrArg Prod.fst (List.inj_on_of_nodup_map h hmem hmem' heq)

/-! A table follows the plugins that own its rows. -/

theorem DocumentsOk.mono {ids : List String} (h : DocumentsOk plugins ids)
    (hle : ∀ {id}, Owns plugins id → Owns plugins' id) : DocumentsOk plugins' ids :=
  ⟨h.nodup, fun other hother => hle (h.owned other hother)⟩

theorem InstancesOk.mono {rows : List (PluginRuntimeInstance Time)}
    (h : InstancesOk lower plugins rows) (hle : ∀ {id}, Owns plugins id → Owns plugins' id) :
    InstancesOk lower plugins' rows :=
  ⟨h.ids, fun row hrow => (h.owned row hrow).imp fun _ hid => ⟨hid.1, hle hid.2⟩, h.nodup⟩

theorem InstallationsOk.mono {rows : List (PackageInstallation Time)}
    (h : InstallationsOk lower plugins rows) (hle : ∀ {id}, Owns plugins id → Owns plugins' id) :
    InstallationsOk lower plugins' rows :=
  ⟨h.ids, fun row hrow => (h.owned row hrow).imp fun _ hid => ⟨hid.1, hle hid.2⟩, h.nodup, h.once⟩

def Put (lower : String → String) (id : String) (plugins plugins' : List (String × Json)) : Prop :=
  plugins' = plugins ∧ Owns plugins id ∨
    (∀ plugin ∈ plugins, lower plugin.1 ≠ lower id) ∧ plugins' = plugins ++ [(id, .array [])]

namespace Put

variable {id : String}

theorem subset (h : Put lower id plugins plugins') : plugins ⊆ plugins' := by
  obtain ⟨rfl, -⟩ | ⟨-, rfl⟩ := h
  · exact List.Subset.refl _
  · exact List.subset_append_left _ _

theorem owns (h : Put lower id plugins plugins') : Owns plugins' id := by
  obtain ⟨rfl, howns⟩ | ⟨-, rfl⟩ := h
  · exact howns
  · exact ⟨.array [], by simp⟩

theorem distinct (h : Put lower id plugins plugins') (hplugins : Distinct lower plugins) :
    Distinct lower plugins' := by
  obtain ⟨rfl, -⟩ | ⟨hnew, rfl⟩ := h
  · exact hplugins
  · rw [Distinct, List.map_append]
    refine List.nodup_append.mpr ⟨hplugins, List.nodup_singleton _, ?_⟩
    intro key hkey other hother
    obtain ⟨plugin, hplugin, rfl⟩ := List.mem_map.mp hkey
    rw [List.mem_singleton.mp hother]
    exact hnew plugin hplugin

theorem documentsOk (h : Put lower id plugins plugins') {ids : List String}
    (hids : DocumentsOk plugins ids) : DocumentsOk plugins' ids :=
  hids.mono fun howns => howns.mono h.subset

theorem permissionsOk (h : Put lower id plugins plugins') {rows : List (String × Json)}
    (hrows : PermissionsOk plugins rows) : PermissionsOk plugins' rows := by
  refine ⟨h.documentsOk hrows.documents, ?_, ?_⟩
  · obtain ⟨rfl, -⟩ | ⟨hnew, rfl⟩ := h
    · exact hrows.agree
    · intro plugin hplugin row hrow heq
      obtain hplugin | hplugin := List.mem_append.mp hplugin
      · exact hrows.agree plugin hplugin row hrow heq
      · obtain ⟨permissions, howner⟩ := hrows.documents.owned row.1 (List.mem_map_of_mem hrow)
        rw [List.mem_singleton.mp hplugin] at heq
        exact absurd (congrArg lower heq) (hnew (row.1, permissions) howner)
  · obtain ⟨rfl, -⟩ | ⟨hnew, rfl⟩ := h
    · exact hrows.absent
    · intro plugin hplugin hnone
      obtain hplugin | hplugin := List.mem_append.mp hplugin
      · exact hrows.absent plugin hplugin hnone
      · rw [List.mem_singleton.mp hplugin]

theorem instancesOk (h : Put lower id plugins plugins')
    {rows : List (PluginRuntimeInstance Time)} (hrows : InstancesOk lower plugins rows) :
    InstancesOk lower plugins' rows :=
  hrows.mono fun howns => howns.mono h.subset

theorem installationsOk (h : Put lower id plugins plugins')
    {rows : List (PackageInstallation Time)} (hrows : InstallationsOk lower plugins rows) :
    InstallationsOk lower plugins' rows :=
  hrows.mono fun howns => howns.mono h.subset

end Put

variable (lower) in
theorem DocumentsOk.add {ids ids' : List String} {id : String} (h : DocumentsOk plugins ids)
    (howns : Owns plugins id)
    (hids : ids' = ids ∨ (∀ old ∈ ids, lower old ≠ lower id) ∧ ids' = ids ++ [id]) :
    DocumentsOk plugins ids' := by
  obtain rfl | ⟨hnew, rfl⟩ := hids
  · exact h
  · constructor
    · refine List.nodup_append.mpr ⟨h.nodup, List.nodup_singleton id, ?_⟩
      rintro old hold _ hmem rfl
      rw [List.mem_singleton.mp hmem] at hold
      exact hnew id hold rfl
    · intro other hother
      obtain hother | hother := List.mem_append.mp hother
      · exact h.owned other hother
      · rw [List.mem_singleton.mp hother]
        exact howns

theorem PermissionsOk.add {rows rows' : List (String × Json)} {id : String}
    (h : PermissionsOk plugins rows) (howns : Owns plugins id)
    (hrows : rows' = rows ∨
      (∀ old ∈ rows, lower old.1 ≠ lower id) ∧ rows' = rows ++ [(id, .array [])]) :
    PermissionsOk plugins rows' := by
  have hdocuments : DocumentsOk plugins (rows'.map Prod.fst) := by
    refine h.documents.add lower howns ?_
    obtain rfl | ⟨hnew, rfl⟩ := hrows
    · exact .inl rfl
    · refine .inr ⟨?_, by simp⟩
      intro old hold
      obtain ⟨row, hrow, rfl⟩ := List.mem_map.mp hold
      exact hnew row hrow
  obtain rfl | ⟨hnew, rfl⟩ := hrows
  · exact h
  · refine ⟨hdocuments, ?_, ?_⟩
    · intro plugin hplugin row hrow heq
      obtain hrow | hrow := List.mem_append.mp hrow
      · exact h.agree plugin hplugin row hrow heq
      · obtain rfl := List.mem_singleton.mp hrow
        refine (h.absent plugin hplugin fun other hother hne => ?_).symm
        exact hnew other hother (congrArg lower (hne.trans heq.symm))
    · intro plugin hplugin hnone
      exact h.absent plugin hplugin fun row hrow => hnone row (List.mem_append_left _ hrow)

def setPermissions (lower : String → String) (id : String) (value : Json)
    (plugins : List (String × Json)) : List (String × Json) :=
  plugins.map fun plugin => if lower plugin.1 = lower id then (plugin.1, value) else plugin

theorem Owns.setPermissions {id other : String} {value : Json} (h : Owns plugins other) :
    Owns (setPermissions lower id value plugins) other := by
  obtain ⟨permissions, hother⟩ := h
  by_cases heq : lower other = lower id
  · exact ⟨value, List.mem_map.mpr ⟨_, hother, by simp [heq]⟩⟩
  · exact ⟨permissions, List.mem_map.mpr ⟨_, hother, by simp [heq]⟩⟩

theorem Distinct.setPermissions {id : String} {value : Json} (h : Distinct lower plugins) :
    Distinct lower (setPermissions lower id value plugins) := by
  rw [Distinct, Plugins.setPermissions, List.map_map]
  refine (List.map_congr_left fun plugin _ => ?_).symm ▸ h
  by_cases heq : lower plugin.1 = lower id <;> simp [heq]

theorem PermissionsOk.set {rows rows' : List (String × Json)} {id : String} {value : Json}
    (h : PermissionsOk plugins rows) (hdistinct : Distinct lower plugins) (howns : Owns plugins id)
    (hrows : rows' = rows.map (fun row => if row.1 = id then (row.1, value) else row) ∧
        id ∈ rows.map Prod.fst ∨
      (∀ old ∈ rows, lower old.1 ≠ lower id) ∧ rows' = rows ++ [(id, value)]) :
    PermissionsOk (setPermissions lower id value plugins) rows' := by
  have hids : rows'.map Prod.fst = rows.map Prod.fst ∧ id ∈ rows.map Prod.fst ∨
      (∀ old ∈ rows, lower old.1 ≠ lower id) ∧ rows'.map Prod.fst = rows.map Prod.fst ++ [id] := by
    obtain ⟨rfl, hold⟩ | ⟨hnew, rfl⟩ := hrows
    · refine .inl ⟨?_, hold⟩
      rw [List.map_map]
      refine List.map_congr_left fun row _ => ?_
      by_cases heq : row.1 = id <;> simp [heq]
    · exact .inr ⟨hnew, by simp⟩
  have hrow : ∀ row ∈ rows', row.1 = id → row.2 = value := by
    obtain ⟨rfl, -⟩ | ⟨hnew, rfl⟩ := hrows
    · intro row hrow heq
      obtain ⟨old, hold, rfl⟩ := List.mem_map.mp hrow
      by_cases hold : old.1 = id
      · simp [hold]
      · simp [hold] at heq
    · intro row hrow heq
      obtain hrow | hrow := List.mem_append.mp hrow
      · exact absurd (congrArg lower heq) (hnew row hrow)
      · rw [List.mem_singleton.mp hrow]
  have hother : ∀ row ∈ rows', row.1 ≠ id → row ∈ rows := by
    obtain ⟨rfl, -⟩ | ⟨-, rfl⟩ := hrows
    · intro row hrow hne
      obtain ⟨old, hold, rfl⟩ := List.mem_map.mp hrow
      by_cases heq : old.1 = id
      · simp [heq] at hne
      · simpa [heq] using hold
    · intro row hrow hne
      obtain hrow | hrow := List.mem_append.mp hrow
      · exact hrow
      · rw [List.mem_singleton.mp hrow] at hne
        exact absurd rfl hne
  have hkept : ∀ row ∈ rows, row.1 ≠ id → row ∈ rows' := by
    obtain ⟨rfl, -⟩ | ⟨-, rfl⟩ := hrows
    · intro row hrow hne
      exact List.mem_map.mpr ⟨row, hrow, by simp [hne]⟩
    · exact fun row hrow _ => List.mem_append_left _ hrow
  refine ⟨?_, ?_, ?_⟩
  · refine (h.documents.mono Owns.setPermissions).add lower howns.setPermissions ?_
    obtain ⟨heq, -⟩ | ⟨hnew, heq⟩ := hids
    · exact .inl heq
    · refine .inr ⟨fun old hold => ?_, heq⟩
      obtain ⟨row, hrow, rfl⟩ := List.mem_map.mp hold
      exact hnew row hrow
  · intro plugin hplugin row hrowmem heq
    obtain ⟨old, hold, rfl⟩ := List.mem_map.mp hplugin
    by_cases hlower : lower old.1 = lower id
    · have hid : old.1 = id := hdistinct.eq_of_lower ⟨_, hold⟩ howns hlower
      simp only [hlower, if_true] at heq ⊢
      exact hrow row hrowmem (heq.trans hid)
    · simp only [hlower, if_false] at heq ⊢
      have hne : row.1 ≠ id := fun hid => hlower (congrArg lower (heq.symm.trans hid))
      exact h.agree old hold row (hother row hrowmem hne) heq
  · intro plugin hplugin hnone
    obtain ⟨old, hold, rfl⟩ := List.mem_map.mp hplugin
    by_cases hlower : lower old.1 = lower id
    · have hid : old.1 = id := hdistinct.eq_of_lower ⟨_, hold⟩ howns hlower
      simp only [hlower, if_true] at hnone
      have hmem : id ∈ rows'.map Prod.fst := by
        obtain ⟨heq, hold⟩ | ⟨-, heq⟩ := hids
        · exact heq ▸ hold
        · simp [heq]
      obtain ⟨row, hrowmem, heq⟩ := List.mem_map.mp hmem
      exact absurd (heq.trans hid.symm) (hnone row hrowmem)
    · simp only [hlower, if_false] at hnone ⊢
      refine h.absent old hold fun row hrowmem heq => ?_
      have hne : row.1 ≠ id := fun hid => hlower (congrArg lower (heq.symm.trans hid))
      exact hnone row (hkept row hrowmem hne) heq

/-! A plugin is removed. -/

def without (lower : String → String) (id : String) (plugins : List (String × Json)) :
    List (String × Json) := plugins.filter fun plugin => lower plugin.1 ≠ lower id

theorem Owns.without {id other : String} (h : Owns plugins other) (hne : lower other ≠ lower id) :
    Owns (without lower id plugins) other :=
  h.imp fun _ hmem => List.mem_filter.mpr ⟨hmem, by simpa using hne⟩

theorem Distinct.without {id : String} (h : Distinct lower plugins) :
    Distinct lower (without lower id plugins) :=
  List.Nodup.sublist (List.filter_sublist.map _) h

variable (lower) in
theorem DocumentsOk.remove {ids : List String} (id : String)
    (h : DocumentsOk plugins ids) :
    DocumentsOk (without lower id plugins) (ids.filter fun other => lower other ≠ lower id) := by
  refine ⟨h.nodup.filter _, fun other hother => ?_⟩
  obtain ⟨hmem, hne⟩ := List.mem_filter.mp hother
  exact (h.owned other hmem).without (by simpa using hne)

theorem PermissionsOk.remove {rows : List (String × Json)} (id : String)
    (h : PermissionsOk plugins rows) :
    PermissionsOk (without lower id plugins) (rows.filter fun row => lower row.1 ≠ lower id) := by
  refine ⟨?_, ?_, ?_⟩
  · have hdocuments := h.documents.remove lower id
    rwa [List.filter_map] at hdocuments
  · intro plugin hplugin row hrow
    exact h.agree plugin (List.mem_of_mem_filter hplugin) row (List.mem_of_mem_filter hrow)
  · intro plugin hplugin hnone
    obtain ⟨hplugin, hkept⟩ := List.mem_filter.mp hplugin
    refine h.absent plugin hplugin fun row hrow heq => ?_
    exact hnone row (List.mem_filter.mpr ⟨hrow, by rw [heq]; exact hkept⟩) heq

theorem InstancesOk.remove {rows : List (PluginRuntimeInstance Time)} {id : String}
    (h : InstancesOk lower plugins rows) :
    InstancesOk lower (without lower id plugins)
      (deleteWhere (fun row => row.pluginId.any fun other => lower other = lower id) rows) := by
  refine ⟨h.ids.sublist (List.filter_sublist.map _), ?_, h.nodup.sublist (List.filter_sublist.map _)⟩
  intro row hrow
  obtain ⟨hrow, hkept⟩ := mem_deleteWhere.mp hrow
  obtain ⟨other, hother, howns⟩ := h.owned row hrow
  exact ⟨other, hother, howns.without (by simpa [hother] using hkept)⟩

theorem InstallationsOk.remove {rows : List (PackageInstallation Time)} {id : String}
    (h : InstallationsOk lower plugins rows) :
    InstallationsOk lower (without lower id plugins)
      (deleteWhere (fun row => row.packageGuid.any fun other => lower other = lower id) rows) := by
  refine ⟨h.ids.sublist (List.filter_sublist.map _), ?_,
    h.nodup.sublist (List.filter_sublist.map _), ?_⟩
  · intro row hrow
    obtain ⟨hrow, hkept⟩ := mem_deleteWhere.mp hrow
    obtain ⟨other, hother, howns⟩ := h.owned row hrow
    exact ⟨other, hother, howns.without (by simpa [hother] using hkept)⟩
  · intro a ha b hb
    exact h.once a (mem_deleteWhere.mp ha).1 b (mem_deleteWhere.mp hb).1

end Tables

end Jellyrin.Plugins
