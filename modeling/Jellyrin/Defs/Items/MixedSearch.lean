import Jellyrin.Defs.Data.MergedPages
import Jellyrin.Defs.Items.ItemsQuery

/-! The search for series and episodes: two sources, merged by name. -/

namespace Jellyrin.Items

open Api Ascii

/-- The rendered rows that match a search, each source in its own order.  They differ from each
other, by their identifiers. -/
structure SearchRows where
  series : Vec Json
  /-- Series that are grouped from episodes are counted whether a total is asked for or not. -/
  seriesAlwaysCounted : Bool
  episodes : Vec Json
  nodup : (series.items ++ episodes.items).Nodup

def nameSortKey (item : Json) : String :=
  toAsciiLowercase (((item.stringField "SortName").or (item.stringField "Name")).getD "")

def sortJsonItems (items : List Json) (query : ItemsQuery) : List Json :=
  if query.sortOrder.any isDescending then
    items.insertionSort fun left right => nameSortKey right ≤ nameSortKey left
  else sortOn nameSortKey items

def countsTotal (query : ItemsQuery) : Bool := (queryFlag query.enableTotalRecordCount).getD true

def SearchRows.seriesPage (rows : SearchRows) (query : ItemsQuery) (limit : Nat) :
    List Json × Nat :=
  (slice 0 (min limit mediaItemCatalogMaxPageSize) rows.series.items,
    if countsTotal query || rows.seriesAlwaysCounted then rows.series.items.length else 0)

def SearchRows.episodesPage (rows : SearchRows) (query : ItemsQuery) (limit : Nat) :
    List Json × Nat :=
  (slice 0 (min limit mediaItemCatalogMaxPageSize) rows.episodes.items,
    if countsTotal query then rows.episodes.items.length else 0)

def mixedSearchTerm (query : ItemsQuery) : Option String :=
  if query.allowedPluginTunerIds.isSome then none
  else
    ((query.searchTerm.map Json.trim).filter (· ≠ "")).filter fun _ =>
      let includeTypes := (csvValuesLowercase query.includeItemTypes).getD []
      let supportedQuery :=
        { query with
          parentId := none
          includeItemTypes := ["Episode"]
          isMissing := if query.isMissing = some false then none else query.isMissing }
      sortDedup includeTypes = ["episode", "series"] && fastNameSearchQueryIsSimple supportedQuery

def searchLimit (limit : Option Nat) : Nat := min (limit.getD 25) mediaItemCatalogMaxPageSize

def fetchLimit (startIndex limit : Nat) : Nat :=
  min (saturatingAdd startIndex limit) mediaItemCatalogMaxPageSize

/-- `matching` gives the rows for a search term; the search for episodes may be unavailable. -/
def mixedSeriesEpisodeSearchItemsResult (matching : String → Option SearchRows)
    (query : ItemsQuery) : Except ApiError (Option (QueryResult Json)) :=
  match mixedSearchTerm query with
  | none => .ok none
  | some searchTerm =>
    match matching searchTerm with
    | none => .error (.internal "bounded episode search unexpectedly unavailable")
    | some rows =>
      let startIndex := query.startIndex.getD 0
      let limit := searchLimit query.limit
      let series := rows.seriesPage query (fetchLimit startIndex limit)
      let episodes := rows.episodesPage query (fetchLimit startIndex limit)
      let items := sortJsonItems (series.1 ++ episodes.1) query
      .ok (some
        { items := slice startIndex limit items
          totalRecordCount := saturatingAdd series.2 episodes.2
          startIndex })

/-! The pages. -/

def SearchRows.total (rows : SearchRows) (query : ItemsQuery) : Nat :=
  saturatingAdd (rows.seriesPage query 0).2 (rows.episodesPage query 0).2

def SearchRows.page (rows : SearchRows) (start limit : Nat) : List Json :=
  mergedPage nameSortKey rows.series.items rows.episodes.items mediaItemCatalogMaxPageSize
    start limit

variable {matching : String → Option SearchRows} {query : ItemsQuery} {rows : SearchRows}
  {searchTerm : String}

theorem mixedSearchTerm_withPage (query : ItemsQuery) (startIndex limit : Option Nat) :
    mixedSearchTerm (query.withPage startIndex limit) = mixedSearchTerm query := rfl

theorem not_descending_of_mixedSearchTerm (h : mixedSearchTerm query = some searchTerm) :
    query.sortOrder.any isDescending = false := by
  rw [mixedSearchTerm] at h
  split at h
  · cases h
  · have hsimple := (Option.filter_eq_some_iff.mp h).2
    simp only [Bool.and_eq_true, fastNameSearchQueryIsSimple] at hsimple
    simpa using hsimple.2.1.2

theorem mixedSeriesEpisodeSearchItemsResult_withPage
    (hterm : mixedSearchTerm query = some searchTerm) (hrows : matching searchTerm = some rows)
    (startIndex limit : Option Nat) :
    mixedSeriesEpisodeSearchItemsResult matching (query.withPage startIndex limit) = .ok (some
      { items := rows.page (startIndex.getD 0) (searchLimit limit)
        totalRecordCount := rows.total query
        startIndex := startIndex.getD 0 }) := by
  have hsort : ∀ items, sortJsonItems items (query.withPage startIndex limit) =
      sortOn nameSortKey items := fun items => by
    have horder := not_descending_of_mixedSearchTerm hterm
    rw [sortJsonItems, if_neg]
    simpa [ItemsQuery.withPage] using horder
  have hlimit : searchLimit limit ≤ mediaItemCatalogMaxPageSize := Nat.min_le_right _ _
  have hfetch : min (fetchLimit (startIndex.getD 0) (searchLimit limit))
      mediaItemCatalogMaxPageSize =
        min (startIndex.getD 0 + searchLimit limit) mediaItemCatalogMaxPageSize := by
    simp only [fetchLimit, saturatingAdd, mediaItemCatalogMaxPageSize]
    omega
  unfold mixedSeriesEpisodeSearchItemsResult
  simp only [mixedSearchTerm_withPage, hterm, hrows, hsort, ItemsQuery.withPage_startIndex,
    ItemsQuery.withPage_limit, SearchRows.seriesPage, SearchRows.episodesPage, hfetch,
    SearchRows.page, SearchRows.total, mergedPage, merged, slice, List.drop_zero]
  rfl

theorem total_le (rows : SearchRows) (query : ItemsQuery) :
    rows.total query ≤ rows.series.items.length + rows.episodes.items.length := by
  rw [SearchRows.total, saturatingAdd, SearchRows.seriesPage, SearchRows.episodesPage]
  split <;> split <;> omega

def PagesAsOneSequence (matching : String → Option SearchRows) (query : ItemsQuery)
    (rows : SearchRows) : Prop :=
  ∃ sequence : List Json, sequence.Perm (rows.series.items ++ rows.episodes.items) ∧
    ∀ startIndex limit, ∃ page,
      mixedSeriesEpisodeSearchItemsResult matching (query.withPage startIndex limit) =
        .ok (some page) ∧
      (startIndex.getD 0 < page.totalRecordCount →
        page.items = slice (startIndex.getD 0) (searchLimit limit) sequence)

/-- Nothing that a page reaches is cut off, and each row is fetched when its page comes up: of the
first rows of the merged order each is among as many first rows of its own source. -/
def SearchRows.FetchedInTime (rows : SearchRows) (query : ItemsQuery) : Prop :=
  rows.total query = 0 ∨
    min (rows.total query + mediaItemCatalogMaxPageSize - 1)
        (rows.series.items.length + rows.episodes.items.length) ≤
      min mediaItemCatalogMaxPageSize rows.series.items.length +
        min mediaItemCatalogMaxPageSize rows.episodes.items.length ∧
    ∀ k ≤ mediaItemCatalogMaxPageSize,
      ∀ row ∈ (merged nameSortKey rows.series.items rows.episodes.items
        mediaItemCatalogMaxPageSize).take k,
        row ∈ rows.series.items.take k ∨ row ∈ rows.episodes.items.take k

theorem pagesAsOneSequence_iff_page (hterm : mixedSearchTerm query = some searchTerm)
    (hrows : matching searchTerm = some rows) :
    PagesAsOneSequence matching query rows ↔
      ∃ sequence : List Json, sequence.Perm (rows.series.items ++ rows.episodes.items) ∧
        ∀ start limit, limit ≤ mediaItemCatalogMaxPageSize → start < rows.total query →
          rows.page start limit = slice start limit sequence := by
  have hresult := mixedSeriesEpisodeSearchItemsResult_withPage hterm hrows
  refine exists_congr fun sequence => and_congr_right fun _ => ?_
  constructor
  · intro h start limit hlimit hstart
    obtain ⟨page, hpage, hitems⟩ := h (some start) (some limit)
    have hsize : searchLimit (some limit) = limit := Nat.min_eq_left hlimit
    rw [hresult, hsize] at hpage
    cases hpage
    rw [hsize] at hitems
    exact hitems hstart
  · intro h startIndex limit
    exact ⟨_, hresult startIndex limit, h _ _ (Nat.min_le_right _ _)⟩

theorem mixed_search_pages_as_one_sequence (hterm : mixedSearchTerm query = some searchTerm)
    (hrows : matching searchTerm = some rows) :
    PagesAsOneSequence matching query rows ↔ rows.FetchedInTime query := by
  rw [pagesAsOneSequence_iff_page hterm hrows]
  exact mergedPage_eq_slice_iff rows.nodup (by decide) (total_le rows query)

theorem fetchedInTime_of_sorted (query : ItemsQuery)
    (hseries : rows.series.items.Pairwise fun a b => nameSortKey a ≤ nameSortKey b)
    (hepisodes : rows.episodes.items.Pairwise fun a b => nameSortKey a ≤ nameSortKey b)
    (hseriesLength : rows.series.items.length ≤ mediaItemCatalogMaxPageSize)
    (hepisodesLength : rows.episodes.items.length ≤ mediaItemCatalogMaxPageSize) :
    rows.FetchedInTime query := by
  refine .inr ⟨?_, fun k _ row hrow => mem_take_of_sorted rows.nodup hseries hepisodes hrow⟩
  rw [Nat.min_eq_right hseriesLength, Nat.min_eq_right hepisodesLength]
  exact Nat.min_le_right _ _

def coat : Json := .object [("Id", .string "1"), ("Name", .string "Coat")]

def coOp : Json := .object [("Id", .string "2"), ("Name", .string "Co-op")]

def coatSearch : ItemsQuery := { searchTerm := some "co", includeItemTypes := ["Series,Episode"] }

def coatsByBytes : SearchRows where
  series := ⟨[coOp], by decide⟩
  seriesAlwaysCounted := false
  episodes := ⟨[coat], by decide⟩
  nodup := by decide

def coatsByCollation : SearchRows where
  series := ⟨[], by decide⟩
  seriesAlwaysCounted := false
  episodes := ⟨[coat, coOp], by decide⟩
  nodup := by decide

theorem mixedSearchTerm_coatSearch : mixedSearchTerm coatSearch = some "co" := by decide

theorem mixed_search_pages_coats_by_bytes :
    PagesAsOneSequence (fun _ => some coatsByBytes) coatSearch coatsByBytes :=
  (mixed_search_pages_as_one_sequence mixedSearchTerm_coatSearch rfl).mpr
    (fetchedInTime_of_sorted coatSearch (by decide) (by decide) (by decide) (by decide))

theorem mixed_search_repeats_the_coat :
    ¬ PagesAsOneSequence (fun _ => some coatsByCollation) coatSearch coatsByCollation := by
  rw [pagesAsOneSequence_iff_page mixedSearchTerm_coatSearch rfl]
  rintro ⟨sequence, hperm, hpages⟩
  have hfirst : [coat] = slice 0 1 sequence := by
    rw [← hpages 0 1 (by decide) (by decide)]
    decide
  have hsecond : [coat] = slice 1 1 sequence := by
    rw [← hpages 1 1 (by decide) (by decide)]
    decide
  have hnodup : sequence.Nodup := hperm.nodup_iff.mpr coatsByCollation.nodup
  match sequence with
  | [] => cases hfirst
  | [_] => cases hsecond
  | row :: other :: rest =>
    cases hfirst
    cases hsecond
    simp at hnodup

end Jellyrin.Items
