import Jellyrin.Defs.Catalog.DerivedRowsLaws
import Jellyrin.Defs.Catalog.Publication

/-! What a publication does to the items of its folder and to their derived rows. -/

namespace Jellyrin.Catalog

open Json Metadata

variable {fmt : TextFormats} {folderId : Uuid} {stage : StageTables} {now : Int}
  {s s' : Catalogue}

/-! Rows that are kept under their items. -/

section Rows

variable {R : Type} [DecidableEq R] {f : PreparedRemoteMediaItem → Finset R}
  {items : List PreparedRemoteMediaItem} {row : Uuid × R}

theorem mem_rowsOfItems :
    row ∈ rowsOfItems f items ↔ ∃ item ∈ items, item.id = row.1 ∧ row.2 ∈ f item := by
  obtain ⟨id, value⟩ := row
  simp only [rowsOfItems, Finset.mem_biUnion, List.mem_toFinset, Finset.mem_image, Prod.mk.injEq]
  constructor
  · rintro ⟨item, hitem, value', hvalue, hid, rfl⟩
    exact ⟨item, hitem, hid, hvalue⟩
  · rintro ⟨item, hitem, hid, hvalue⟩
    exact ⟨item, hitem, value, hvalue, hid, rfl⟩

variable (f items) in
theorem rowsOfItems_append (more : List PreparedRemoteMediaItem) :
    rowsOfItems f (items ++ more) = rowsOfItems f items ∪ rowsOfItems f more := by
  ext row
  simp only [Finset.mem_union, mem_rowsOfItems, List.mem_append, or_and_right, exists_or]

theorem eq_of_id_eq (hids : (items.map (·.id)).Nodup) {item other : PreparedRemoteMediaItem}
    (hitem : item ∈ items) (hother : other ∈ items) (h : item.id = other.id) : item = other :=
  List.inj_on_of_nodup_map hids hitem hother h

theorem rowsOfItem_rowsOfItems (hids : (items.map (·.id)).Nodup) {item : PreparedRemoteMediaItem}
    (hitem : item ∈ items) : rowsOfItem item.id (rowsOfItems f items) = f item := by
  ext value
  simp only [rowsOfItem, Finset.mem_image, Finset.mem_filter, mem_rowsOfItems]
  constructor
  · rintro ⟨row, ⟨⟨other, hother, hid, hvalue⟩, hrow⟩, rfl⟩
    rw [eq_of_id_eq hids hitem hother (hrow.symm.trans hid.symm)]
    exact hvalue
  · intro hvalue
    exact ⟨(item.id, value), ⟨⟨item, hitem, rfl, hvalue⟩, rfl⟩, rfl⟩

end Rows

variable (fmt) in
theorem extractStageRows_append (items more : List PreparedRemoteMediaItem) :
    extractStageRows fmt (items ++ more) =
      (extractStageRows fmt items).insert (extractStageRows fmt more) := by
  simp only [extractStageRows, StageRows.insert, rowsOfItems_append]

structure StageTables.IsExtracted (fmt : TextFormats) (stage : StageTables) : Prop where
  rows : stage.rows = extractStageRows fmt stage.items
  ids : (stage.items.map (·.id)).Nodup
  paths : (stage.items.map (·.path)).Nodup

/-! The merge of the items. -/

structure MergedItems (fmt : TextFormats) (folderId : Uuid)
    (items : List PreparedRemoteMediaItem) (s s' : Catalogue) :
    Prop where
  folders : s'.folders = s.folders
  playbackStates : s'.playbackStates = s.playbackStates
  listEntries : s'.listEntries = s.listEntries
  staged : ∀ item ∈ items,
    s'.items.lookup item.id = some (publishedRow fmt folderId item (s.items.lookup item.id))
  other : ∀ id, (∀ item ∈ items, item.id ≠ id) → s'.items.lookup id = s.items.lookup id
  otherRows : ∀ id, (∀ item ∈ items, item.id ≠ id) → s'.derived id = s.derived id

theorem mergedItems_of_foldlM {items : List PreparedRemoteMediaItem}
    (hids : (items.map (·.id)).Nodup)
    (h : items.foldlM (mergeStagedItem fmt folderId) s = some s') :
    MergedItems fmt folderId items s s' := by
  induction items generalizing s with
  | nil =>
    cases h
    exact ⟨rfl, rfl, rfl, (fun _ hitem => nomatch hitem), fun _ _ => rfl, fun _ _ => rfl⟩
  | cons item rest ih =>
    rw [List.foldlM_cons] at h
    obtain ⟨next, hnext, hrest⟩ := Option.bind_eq_some_iff.mp h
    simp only [mergeStagedItem] at hnext
    split at hnext
    · cases hnext
      rw [List.map_cons, List.nodup_cons] at hids
      have hmerged := ih hids.2 hrest
      have hfresh : ∀ other ∈ rest, other.id ≠ item.id := by
        intro other hother heq
        exact hids.1 (List.mem_map.mpr ⟨other, hother, heq⟩)
      constructor
      · exact hmerged.folders
      · exact hmerged.playbackStates
      · exact hmerged.listEntries
      · intro other hother
        obtain rfl | hother := List.mem_cons.mp hother
        · rw [hmerged.other _ hfresh, Catalogue.lookup_putItem]
        · rw [hmerged.staged other hother,
            Catalogue.lookup_putItem_of_ne _ _ _ (hfresh other hother)]
      · intro id hid
        rw [hmerged.other id fun other hother => hid other (List.mem_cons_of_mem _ hother),
          Catalogue.lookup_putItem_of_ne _ _ _ (hid item List.mem_cons_self).symm]
      · intro id hid
        rw [hmerged.otherRows id fun other hother => hid other (List.mem_cons_of_mem _ hother),
          Catalogue.derived_putItem_of_ne _ _ _ (hid item List.mem_cons_self).symm]
    · cases hnext

/-! The publication as a whole. -/

theorem StageTables.hasItem_eq_true {id : Uuid} :
    stage.hasItem id = true ↔ ∃ item ∈ stage.items, item.id = id := by
  simp [StageTables.hasItem]

theorem StageTables.hasItem_of_mem {item : PreparedRemoteMediaItem} (h : item ∈ stage.items) :
    stage.hasItem item.id = true := StageTables.hasItem_eq_true.mpr ⟨item, h, rfl⟩

def tombstoned (folderId : Uuid) (stage : StageTables) (now : Int) (id : Uuid)
    (item : MediaItemRow) : MediaItemRow :=
  if isTombstoned folderId stage id item then
    { item with missingSince := item.missingSince.or (some now) }
  else item

theorem lookup_tombstoneItems (items : HashMap Uuid MediaItemRow) (id : Uuid) :
    (tombstoneItems folderId stage now items).lookup id =
      (items.lookup id).map (tombstoned folderId stage now id) :=
  HashMap.lookup_mapEntries _ items id

structure Published (fmt : TextFormats) (folderId : Uuid) (stage : StageTables) (now : Int)
    (s s' : Catalogue) :
    Prop where
  folders : s'.folders = s.folders
  playbackStates : s'.playbackStates = s.playbackStates
  listEntries : s'.listEntries = s.listEntries
  staged : ∀ item ∈ stage.items, s'.items.lookup item.id =
    some (publishedRow fmt folderId item
      ((s.items.lookup item.id).map (tombstoned folderId stage now item.id)))
  other : ∀ id, stage.hasItem id = false →
    s'.items.lookup id = (s.items.lookup id).map (tombstoned folderId stage now id)
  stagedRows : ∀ item ∈ stage.items,
    ∃ rows, s'.derived item.id = publishedRows folderId stage item.id rows
  otherRows : ∀ id, stage.hasItem id = false → s'.derived id = s.derived id
  owned : ownedByAnotherFolder folderId stage s.items = false

theorem published_of_publish (hids : (stage.items.map (·.id)).Nodup)
    (h : publishPreparedRemoteMediaLibraryStage fmt folderId stage now s = some s') :
    Published fmt folderId stage now s s' := by
  simp only [publishPreparedRemoteMediaLibraryStage] at h
  obtain ⟨_, howned, h⟩ := Option.bind_eq_some_iff.mp h
  obtain ⟨merged, hmerged, h⟩ := Option.bind_eq_some_iff.mp h
  obtain ⟨-, -, h⟩ := Option.bind_eq_some_iff.mp h
  cases h
  have hmerge := mergedItems_of_foldlM hids hmerged
  have hnot : ∀ id, stage.hasItem id = false → ∀ item ∈ stage.items, item.id ≠ id := by
    intro id hid item hitem heq
    rw [← heq, StageTables.hasItem_of_mem hitem] at hid
    cases hid
  constructor
  · exact hmerge.folders
  · exact hmerge.playbackStates
  · exact hmerge.listEntries
  · intro item hitem
    rw [hmerge.staged item hitem, lookup_tombstoneItems]
  · intro id hid
    rw [hmerge.other id (hnot id hid), lookup_tombstoneItems]
  · intro item hitem
    exact ⟨merged.derived item.id, if_pos (StageTables.hasItem_of_mem hitem)⟩
  · intro id hid
    have hrows := hmerge.otherRows id (hnot id hid)
    simp only [hid, Bool.false_eq_true, if_false]
    exact hrows
  · have hnone := (Option.guard_eq_some' _).mp howned
    simpa using hnone

variable {item : PreparedRemoteMediaItem} {old : Option MediaItemRow}

/-! The derived rows of a published item. -/

theorem isDerivedFrom_extractedRows_iff {row other : MediaItemRow} :
    IsDerivedFrom fmt (extractedRows fmt row) other ↔ ReadsAlike fmt row other := by
  constructor
  · intro h
    obtain hnone | ⟨hsources, hvalues⟩ := h.queryRows
    · exact absurd hnone.1 (Finset.singleton_ne_empty _)
    · have hfacets := h.facetRows
      have hrows : ∀ rows : DerivedRows, HasFacetRows fmt rows (fmt.stored other.metadata) →
          rows.querySources = (extractedRows fmt (other.stored fmt)).querySources →
          rows.queryValues = (extractedRows fmt (other.stored fmt)).queryValues →
          rows = extractedRows fmt (other.stored fmt) := by
        rintro ⟨facets, aliases, genres, filters, dates, sources, values⟩
          ⟨rfl, rfl, rfl, rfl, rfl⟩ rfl rfl
        rfl
      exact hrows _ hfacets hsources hvalues
  · intro h
    exact isDerivedFrom_of_readsAlike h ⟨rfl, rfl, rfl, rfl, rfl⟩ (.inr ⟨rfl, rfl⟩)

theorem publishedRows_eq (hstage : stage.IsExtracted fmt) (hitem : item ∈ stage.items)
    (rows : DerivedRows) :
    publishedRows folderId stage item.id rows = extractedRows fmt (stagedRow folderId item) := by
  have hread : ∀ {R : Type} [DecidableEq R] (f : PreparedRemoteMediaItem → Finset R),
      rowsOfItem item.id (rowsOfItems f stage.items) = f item :=
    fun f => rowsOfItem_rowsOfItems hstage.ids hitem
  have haliases : ∀ kept : Finset FacetRow,
      Table.upsert (fun row => row) (extractedAliases fmt item.metadata)
        (Table.cascade FacetRow.key FacetAliasRow.owner kept
          (Table.keepKeys (fun row => row) (extractedAliases fmt item.metadata)
            rows.facetAliases)) = extractedAliases fmt item.metadata :=
    fun kept => Table.upsert_of_subset
      ((Table.cascade_subset _ _).trans Table.keepKeys_self_subset)
  simp only [publishedRows, hstage.rows, extractStageRows, hread, Table.upsert_keepKeys,
    Finset.image_singleton, haliases, Table.upsert_unit _ _ (Finset.singleton_nonempty _),
    extractedRows]
  rfl

/-- The documents that an item ends with read like the staged ones: its own, those of a row that
has them already, or the staged one over that of a complete probe. -/
def MergesAlike (fmt : TextFormats) (folderId : Uuid) (item : PreparedRemoteMediaItem)
    (old : Option MediaItemRow) : Prop :=
  match old with
  | none => ReadsAlike fmt (stagedRow folderId item) (stagedRow folderId item)
  | some old =>
    let merged :=
      { stagedRow folderId item with metadata := mergedMetadata old.metadata item.metadata }
    if isPublished fmt merged old then ReadsAlike fmt (stagedRow folderId item) old
    else ReadsAlike fmt (stagedRow folderId item) merged

theorem readsAlike_publishedRow_iff :
    ReadsAlike fmt (stagedRow folderId item) (publishedRow fmt folderId item old) ↔
      MergesAlike fmt folderId item old := by
  cases old with
  | none => rfl
  | some old =>
    simp only [publishedRow, Option.elim_some, mergedRow, MergesAlike]
    split <;> rfl

theorem IsDerivedFrom.tombstoned {rows : DerivedRows} {row : MediaItemRow}
    (h : IsDerivedFrom fmt rows row) (id : Uuid) :
    IsDerivedFrom fmt rows (tombstoned folderId stage now id row) := by
  rw [Catalog.tombstoned]
  split
  · exact ⟨h.facetRows, h.queryRows⟩
  · exact h

theorem isPublished_of_path_ne {merged row : MediaItemRow} (h : merged.path ≠ row.path) :
    isPublished fmt merged row = false := by
  have hcolumns : ¬{ merged with fileSize := row.fileSize, modifiedAt := row.modifiedAt }.jsonb fmt =
      row.jsonb fmt := by
    intro heq
    have hsame := congrArg MediaItemRow.path heq
    exact h hsame
  rw [isPublished, decide_eq_false hcolumns, Bool.and_false]

theorem isPublished_tombstoned (hpaths : (stage.items.map (·.path)).Nodup)
    (hitem : item ∈ stage.items) {merged row : MediaItemRow} (hmerged : merged.path = item.path) :
    isPublished fmt merged (tombstoned folderId stage now item.id row) =
      isPublished fmt merged row := by
  rw [tombstoned]
  split
  · rename_i hgone
    rw [isTombstoned, StageTables.hasItem_of_mem hitem, Bool.and_eq_true, Bool.not_true,
      Bool.false_or, List.any_eq_true] at hgone
    obtain ⟨-, other, hother, hstaged⟩ := hgone
    rw [Bool.and_eq_true, decide_eq_true_eq, decide_eq_true_eq] at hstaged
    have hpath : merged.path ≠ row.path := by
      intro heq
      have hsame := List.inj_on_of_nodup_map hpaths hother hitem
        (hstaged.1.trans (heq.symm.trans hmerged))
      exact hstaged.2 (congrArg PreparedRemoteMediaItem.id hsame)
    rw [isPublished_of_path_ne hpath]
    exact isPublished_of_path_ne hpath
  · rfl

theorem mergesAlike_tombstoned_iff (hpaths : (stage.items.map (·.path)).Nodup)
    (hitem : item ∈ stage.items) :
    MergesAlike fmt folderId item (old.map (tombstoned folderId stage now item.id)) ↔
      MergesAlike fmt folderId item old := by
  cases old with
  | none => rfl
  | some row =>
    have hmetadata : (tombstoned folderId stage now item.id row).metadata = row.metadata := by
      rw [tombstoned]
      split <;> rfl
    have hreads : extractedRows fmt ((tombstoned folderId stage now item.id row).stored fmt) =
        extractedRows fmt (row.stored fmt) := by
      rw [tombstoned]
      split <;> rfl
    simp only [Option.map_some, MergesAlike, hmetadata, ReadsAlike, hreads]
    rw [isPublished_tombstoned hpaths hitem rfl]

theorem Published.folder_eq (h : Published fmt folderId stage now s s') (hitem : item ∈ stage.items)
    {row : MediaItemRow} (hrow : s.items.lookup item.id = some row) :
    row.virtualFolderId = folderId := by
  by_contra hne
  have howned : ownedByAnotherFolder folderId stage s.items = true := by
    refine HashMap.any_eq_true.mpr ⟨item.id, row, hrow, ?_⟩
    rw [Bool.and_eq_true, decide_eq_true_eq, List.any_eq_true]
    exact ⟨hne, item, hitem, by simp⟩
  rw [h.owned] at howned
  cases howned

/-- Exactly when the rows that a publication writes for an item fit the document it stores. -/
theorem Published.isDerivedFrom_iff (h : Published fmt folderId stage now s s')
    (hstage : stage.IsExtracted fmt) (hitem : item ∈ stage.items) {row : MediaItemRow}
    (hrow : s'.items.lookup item.id = some row) :
    IsDerivedFrom fmt (s'.derived item.id) row ↔
      MergesAlike fmt folderId item (s.items.lookup item.id) := by
  obtain ⟨rows, hrows⟩ := h.stagedRows item hitem
  rw [h.staged item hitem] at hrow
  cases hrow
  rw [hrows, publishedRows_eq hstage hitem, isDerivedFrom_extractedRows_iff,
    readsAlike_publishedRow_iff, mergesAlike_tombstoned_iff hstage.paths hitem]

def ItemsMergeAlike (fmt : TextFormats) (items : List PreparedRemoteMediaItem) (s : Catalogue) :
    Prop :=
  ∀ item ∈ items, ∀ folderId,
    (∀ old, s.items.lookup item.id = some old → old.virtualFolderId = folderId) →
    MergesAlike fmt folderId item (s.items.lookup item.id)

theorem Published.isDerived (h : Published fmt folderId stage now s s')
    (hstage : stage.IsExtracted fmt) (hs : s.IsDerived fmt)
    (hmerge : ItemsMergeAlike fmt stage.items s) : s'.IsDerived fmt := by
  intro id row hrow
  by_cases hid : stage.hasItem id = true
  · obtain ⟨item, hitem, rfl⟩ := StageTables.hasItem_eq_true.mp hid
    exact (h.isDerivedFrom_iff hstage hitem hrow).mpr
      (hmerge item hitem folderId fun old hold => h.folder_eq hitem hold)
  · rw [Bool.not_eq_true] at hid
    rw [h.other id hid, Option.map_eq_some_iff] at hrow
    obtain ⟨old, hold, rfl⟩ := hrow
    rw [h.otherRows id hid]
    exact (hs id old hold).tombstoned id

end Jellyrin.Catalog
