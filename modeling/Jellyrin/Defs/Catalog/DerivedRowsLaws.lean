import Jellyrin.Defs.Catalog.Store
import Jellyrin.Defs.Metadata.ReadFields

/-! The derived rows of an item are those that the extractors give for its row, and the writers of
one item keep them so. -/

namespace Jellyrin.Catalog

open Ascii Json Metadata

variable (fmt : TextFormats)

structure HasFacetRows (rows : DerivedRows) (metadata : Json) : Prop where
  facets : rows.facets = extractedFacets fmt metadata
  facetAliases : rows.facetAliases = extractedAliases fmt metadata
  genreSelectors : rows.genreSelectors = extractMediaItemGenreSelectors fmt.floatText metadata
  filterSelectors : rows.filterSelectors = extractMediaItemFilterSelectors fmt.floatText metadata
  upcomingDates :
    rows.upcomingDates = (upcomingMediaItemPremiereParts fmt.parseRfc3339 metadata).toFinset

def HasQueryRows (rows : DerivedRows) (projection : MediaItemQueryFilterProjection)
    (folderId : Uuid) : Prop :=
  rows.querySources = ∅ ∧ rows.queryValues = ∅ ∨
    rows.querySources = {querySourceRow projection folderId} ∧
      rows.queryValues = queryValueRows projection folderId

/-- The rows are those that the extractors give for what is read of the item. -/
structure IsDerivedFrom (rows : DerivedRows) (item : MediaItemRow) : Prop where
  facetRows : HasFacetRows fmt rows (fmt.stored item.metadata)
  queryRows : HasQueryRows rows (mediaItemProjection fmt item) item.virtualFolderId

/-! Rows that are extracted before the documents are stored. -/

def extractedRows (item : MediaItemRow) : DerivedRows where
  facets := extractedFacets fmt item.metadata
  facetAliases := extractedAliases fmt item.metadata
  genreSelectors := extractMediaItemGenreSelectors fmt.floatText item.metadata
  filterSelectors := extractMediaItemFilterSelectors fmt.floatText item.metadata
  upcomingDates := (upcomingMediaItemPremiereParts fmt.parseRfc3339 item.metadata).toFinset
  querySources := {querySourceRow (writtenProjection fmt item) item.virtualFolderId}
  queryValues := queryValueRows (writtenProjection fmt item) item.virtualFolderId

/-- The rows that are extracted of one row are those of another one, as it is read. -/
def ReadsAlike (written kept : MediaItemRow) : Prop :=
  extractedRows fmt written = extractedRows fmt (kept.stored fmt)

/-- A document has the same facets, selectors and dates once its floats are stored. -/
def KeepsFacetRows (metadata : Json) : Prop :=
  HasFacetRows fmt (replacePostgresMediaItemFacets fmt metadata .empty) (fmt.stored metadata)

variable {fmt} {rows rows' : DerivedRows} {item old : MediaItemRow} {folderId : Uuid}
  {projection new : MediaItemQueryFilterProjection}

/-! One lemma for each writer. -/

theorem hasFacetRows_replace (metadata : Json) :
    HasFacetRows fmt (replacePostgresMediaItemFacets fmt metadata rows) metadata :=
  ⟨rfl, rfl, rfl, rfl, rfl⟩

theorem isDerivedFrom_of_readsAlike (h : ReadsAlike fmt old item)
    (hfacets : HasFacetRows fmt rows old.metadata)
    (hquery : HasQueryRows rows (writtenProjection fmt old) old.virtualFolderId) :
    IsDerivedFrom fmt rows item := by
  simp only [ReadsAlike, extractedRows, DerivedRows.mk.injEq] at h
  obtain ⟨hown, haliases, hgenres, hfilters, hdates, hsources, hvalues⟩ := h
  rw [Finset.singleton_inj] at hsources
  constructor
  · exact ⟨hfacets.facets.trans hown, hfacets.facetAliases.trans haliases,
      hfacets.genreSelectors.trans hgenres, hfacets.filterSelectors.trans hfilters,
      hfacets.upcomingDates.trans hdates⟩
  · refine hquery.imp_right fun hstored => ⟨?_, hstored.2.trans hvalues⟩
    rw [hstored.1, hsources]
    rfl

theorem hasFacetRows_of_replaceProjection
    (h : replacePostgresMediaItemQueryFilterProjection projection folderId rows = some rows')
    {metadata : Json} (hrows : HasFacetRows fmt rows metadata) : HasFacetRows fmt rows' metadata := by
  simp only [replacePostgresMediaItemQueryFilterProjection] at h
  split at h
  · cases h
    exact ⟨hrows.facets, hrows.facetAliases, hrows.genreSelectors, hrows.filterSelectors,
      hrows.upcomingDates⟩
  · cases h

theorem hasQueryRows_of_replaceProjection
    (h : replacePostgresMediaItemQueryFilterProjection projection folderId rows = some rows') :
    HasQueryRows rows' projection folderId := by
  simp only [replacePostgresMediaItemQueryFilterProjection] at h
  split at h
  · cases h
    exact .inr ⟨rfl, rfl⟩
  · cases h

theorem oldProjectionMatches_of_hasQueryRows (h : HasQueryRows rows projection folderId) :
    oldProjectionMatches projection folderId rows = true ∨
      rows.querySources = ∅ ∧ rows.queryValues = ∅ := by
  obtain hnone | ⟨hsources, hvalues⟩ := h
  · exact .inr hnone
  · left
    have hfolder : (queryValueRows projection folderId).filter (·.virtualFolderId = folderId) =
        queryValueRows projection folderId := by
      refine Finset.filter_true_of_mem fun row hrow => ?_
      obtain ⟨value, -, rfl⟩ := Finset.mem_image.mp hrow
      rfl
    rw [oldProjectionMatches, hsources, hvalues, hfolder]
    simp

theorem of_reconcile (h : reconcileQueryFilterSummaryItem folderId projection new rows = some rows')
    {metadata : Json} (hfacets : HasFacetRows fmt rows metadata)
    (hquery : HasQueryRows rows projection folderId) :
    HasFacetRows fmt rows' metadata ∧ HasQueryRows rows' new folderId := by
  simp only [reconcileQueryFilterSummaryItem] at h
  split at h
  · obtain hmatches | hnone := oldProjectionMatches_of_hasQueryRows hquery
    · rw [if_pos hmatches] at h
      exact ⟨hasFacetRows_of_replaceProjection h hfacets, hasQueryRows_of_replaceProjection h⟩
    · split at h
      · exact ⟨hasFacetRows_of_replaceProjection h hfacets, hasQueryRows_of_replaceProjection h⟩
      · cases h
        exact ⟨hfacets, .inl hnone⟩
  · cases h

theorem of_finishPointUpdate
    (h : finishMediaItemQueryFilterSummaryPointUpdate fmt item projection rows = some rows')
    (hfacets : HasFacetRows fmt rows (fmt.stored item.metadata))
    (hquery : HasQueryRows rows projection item.virtualFolderId) : IsDerivedFrom fmt rows' item := by
  simp only [finishMediaItemQueryFilterSummaryPointUpdate] at h
  split at h
  · rename_i hsame
    cases h
    exact ⟨hfacets, hsame ▸ hquery⟩
  · obtain ⟨hfacets', hquery'⟩ := of_reconcile h hfacets hquery
    exact ⟨hfacets', hquery'⟩

theorem isDerivedFrom_pointUpdatedRows {written : Option Json}
    (h : pointUpdatedRows fmt old item written rows = some rows')
    (hfolder : item.virtualFolderId = old.virtualFolderId)
    (hwritten : written.getD old.metadata = item.metadata)
    (hkeeps : ∀ metadata, written = some metadata → KeepsFacetRows fmt metadata)
    (hold : IsDerivedFrom fmt rows old) : IsDerivedFrom fmt rows' item := by
  simp only [pointUpdatedRows] at h
  refine of_finishPointUpdate h ?_ ?_
  · cases written with
    | none => exact (show old.metadata = item.metadata from hwritten) ▸ hold.facetRows
    | some metadata =>
      cases (show metadata = item.metadata from hwritten)
      have hrows := hkeeps item.metadata rfl
      exact ⟨hrows.facets, hrows.facetAliases, hrows.genreSelectors, hrows.filterSelectors,
        hrows.upcomingDates⟩
  · rw [hfolder]
    cases written with
    | none => exact hold.queryRows
    | some metadata => exact hold.queryRows

theorem IsDerivedFrom.set_of_notRead (h : IsDerivedFrom fmt rows item) {field : String}
    (hfield : IsReadField field = false) (hobject : item.metadata.isObject = true) (value : Json)
    (runtimeTicks : Option Int) :
    IsDerivedFrom fmt rows { item with runtimeTicks, metadata := item.metadata.set field value } where
  facetRows := by
    have hset : fmt.stored (item.metadata.set field value) =
        (fmt.stored item.metadata).set field (fmt.stored value) := mapFloats_set _ _ _ _ hobject
    have hfacets : extractMediaItemFacets fmt.floatText
          ((fmt.stored item.metadata).set field (fmt.stored value)) =
        extractMediaItemFacets fmt.floatText (fmt.stored item.metadata) :=
      extractMediaItemFacets_set hfield _
    rw [hset]
    constructor
    · rw [h.facetRows.facets, extractedFacets, extractedFacets, hfacets]
    · rw [h.facetRows.facetAliases, extractedAliases, extractedAliases, hfacets]
    · rw [h.facetRows.genreSelectors, extractMediaItemGenreSelectors_set hfield]
    · rw [h.facetRows.filterSelectors, extractMediaItemFilterSelectors_set hfield]
    · rw [h.facetRows.upcomingDates, upcomingMediaItemPremiereParts_set hfield]
  queryRows := by
    have hset : fmt.stored (item.metadata.set field value) =
        (fmt.stored item.metadata).set field (fmt.stored value) := mapFloats_set _ _ _ _ hobject
    have hprojection : mediaItemProjection fmt
        { item with runtimeTicks, metadata := item.metadata.set field value } =
          mediaItemProjection fmt item := by
      simp only [mediaItemProjection, writtenProjection, projectionSource, MediaItemRow.stored, hset]
      exact extractMediaItemQueryFilterProjection_set hfield (fmt.stored value)
        (projectionSource (item.stored fmt))
    rw [hprojection]
    exact h.queryRows

/-! The writers of one item. -/

def Catalogue.IsDerived (fmt : TextFormats) (s : Catalogue) : Prop :=
  ∀ id item, s.items.lookup id = some item → IsDerivedFrom fmt (s.derived id) item

variable {s s' : Catalogue} {id : Uuid}

theorem Catalogue.IsDerived.putItem (h : s.IsDerived fmt) (hrows : IsDerivedFrom fmt rows item) :
    (s.putItem id item rows).IsDerived fmt := by
  intro other stored hstored
  by_cases hother : other = id
  · subst hother
    rw [Catalogue.lookup_putItem] at hstored
    cases hstored
    rw [Catalogue.derived_putItem]
    exact hrows
  · rw [Catalogue.lookup_putItem_of_ne _ _ _ hother] at hstored
    rw [Catalogue.derived_putItem_of_ne _ _ _ hother]
    exact h other stored hstored

theorem isDerived_of_pointUpdate {written : Option Json}
    (hstep : ((pointUpdatedRows fmt old item written (s.derived id)).bind fun rows =>
      some (s.putItem id item rows)) = some s') (h : s.IsDerived fmt)
    (hold : s.items.lookup id = some old) (hfolder : item.virtualFolderId = old.virtualFolderId)
    (hwritten : written.getD old.metadata = item.metadata)
    (hkeeps : ∀ metadata, written = some metadata → KeepsFacetRows fmt metadata) :
    s'.IsDerived fmt := by
  obtain ⟨rows, hrows, hput⟩ := Option.bind_eq_some_iff.mp hstep
  cases hput
  exact h.putItem (isDerivedFrom_pointUpdatedRows hrows hfolder hwritten hkeeps (h id old hold))

theorem isDerived_updateMediaItemMediaInfo {info : MediaInfo} (h : s.IsDerived fmt)
    (hstep : updateMediaItemMediaInfo fmt id info s = some s') : s'.IsDerived fmt := by
  obtain ⟨old, hold, hstep⟩ := Option.bind_eq_some_iff.mp hstep
  dsimp only at hstep
  split at hstep
  · cases hstep
    exact h
  · exact isDerived_of_pointUpdate hstep h hold rfl rfl fun _ hnone => nomatch hnone

/-- The document of an update has the same facet rows as it is stored, or is not written. -/
def UpdatesAlike (fmt : TextFormats) (id : Uuid) (metadata : Json) (s : Catalogue) : Prop :=
  ∀ old, s.items.lookup id = some old → fmt.jsonb metadata ≠ fmt.jsonb old.metadata →
    KeepsFacetRows fmt metadata

theorem isDerived_updateMediaItemMetadata {metadata : Json} (h : s.IsDerived fmt)
    (halike : UpdatesAlike fmt id metadata s)
    (hstep : updateMediaItemMetadata fmt id metadata s = some s') : s'.IsDerived fmt := by
  obtain ⟨old, hold, hstep⟩ := Option.bind_eq_some_iff.mp hstep
  dsimp only at hstep
  split at hstep
  · cases hstep
    exact h
  · rename_i hchanged
    obtain ⟨-, -, hstep⟩ := Option.bind_eq_some_iff.mp hstep
    refine isDerived_of_pointUpdate hstep h hold rfl rfl ?_
    rintro _ ⟨⟩
    exact halike old hold hchanged

theorem isDerived_updateMediaItemMediaInfoAndMetadata {info : MediaInfo} {metadata : Json}
    (h : s.IsDerived fmt) (halike : UpdatesAlike fmt id metadata s)
    (hstep : updateMediaItemMediaInfoAndMetadata fmt id info metadata s = some s') :
    s'.IsDerived fmt := by
  obtain ⟨old, hold, hstep⟩ := Option.bind_eq_some_iff.mp hstep
  dsimp only at hstep
  split at hstep
  · cases hstep
    exact h
  · obtain ⟨-, -, hstep⟩ := Option.bind_eq_some_iff.mp hstep
    refine isDerived_of_pointUpdate hstep h hold ?_ rfl fun written hwritten => ?_
    · dsimp only
      split <;> rfl
    · obtain ⟨hchanged, hsome⟩ := Option.ite_none_right_eq_some.mp hwritten
      cases hsome
      exact halike old hold (of_decide_eq_true hchanged)

theorem isDerived_publishPluginVodRuntimeProbe {ticks : Option Int} {marker : Json}
    (h : s.IsDerived fmt)
    (hstep : publishPluginVodRuntimeProbe id ticks marker s = some s') : s'.IsDerived fmt := by
  obtain ⟨old, hold, hstep⟩ := Option.bind_eq_some_iff.mp hstep
  obtain ⟨_, hobject, hstep⟩ := Option.bind_eq_some_iff.mp hstep
  cases hstep
  have hfield : IsReadField "PluginVodMediaRuntimeProbe" = false := by decide
  have hobject := (Option.guard_eq_some' _).mp hobject
  exact h.putItem ((h id old hold).set_of_notRead hfield hobject marker _)

def ScansAlike (fmt : TextFormats) (folderId : Uuid) (folder : VirtualFolder)
    (file : LocalMediaFile) (current : Json) : Prop :=
  let item := scannedItem folderId folder file (mergeScannedMetadata current file.metadata)
  ReadsAlike fmt item item

theorem isDerived_postgresUpsertLocalMediaItem {folder : VirtualFolder} {file : LocalMediaFile}
    {current : Json} (h : s.IsDerived fmt)
    (halike : ScansAlike fmt folderId folder file current)
    (hstep : postgresUpsertLocalMediaItem fmt id folderId folder file current s = some s') :
    s'.IsDerived fmt := by
  obtain ⟨-, -, hstep⟩ := Option.bind_eq_some_iff.mp hstep
  obtain ⟨-, -, hstep⟩ := Option.bind_eq_some_iff.mp hstep
  obtain ⟨rows, hrows, hstep⟩ := Option.bind_eq_some_iff.mp hstep
  cases hstep
  exact h.putItem (isDerivedFrom_of_readsAlike halike
    (hasFacetRows_of_replaceProjection hrows (hasFacetRows_replace _))
    (hasQueryRows_of_replaceProjection hrows))

end Jellyrin.Catalog
