import Jellyrin.Defs.Items.SeriesListing
import Jellyrin.Defs.TvProjection.Catalog

/-! Pages of the series, from the projection and from the rows of the items. -/

namespace Jellyrin.TvProjection

open Items

structure TvSeriesCatalogKey where
  id : String
  name : String
  deriving DecidableEq

structure TvSeriesCatalogPage where
  series : List TvSeriesCatalogKey
  episodes : List (MediaItem × Json)
  totalRecordCount : Nat
  startIndex : Nat
  deriving DecidableEq

def TvSeriesCatalogPage.withoutTotal (page : TvSeriesCatalogPage) : TvSeriesCatalogPage :=
  { page with totalRecordCount := 0 }

structure TvSeriesCatalogNamePatterns where
  search : Option String
  startsWith : Option String
  lowerBound : Option String
  upperBound : Option String

def escapeCatalogLikeValue (value : String) : String :=
  String.ofList (value.toList.flatMap fun c =>
    if c = '\\' ∨ c = '%' ∨ c = '_' then ['\\', c] else [c])

def nameTerm (value : Option String) : Option String :=
  ((value.map Json.trim).filter (· ≠ "")).map Ascii.toAsciiLowercase

def namePatterns (filter : TvSeriesCatalogNameFilter) : TvSeriesCatalogNamePatterns where
  search := (nameTerm filter.searchTerm).map fun term => "%" ++ escapeCatalogLikeValue term ++ "%"
  startsWith := (nameTerm filter.startsWith).map fun start => escapeCatalogLikeValue start ++ "%"
  lowerBound := nameTerm filter.startsWithOrGreater
  upperBound := nameTerm filter.lessThan

def pageBounds (startIndex limit : Nat) : Except DbError (Nat × Nat) :=
  if max limit 1 < 2 ^ 63 ∧ startIndex < 2 ^ 63 then .ok (startIndex, max limit 1)
  else .error .tryFromInt

def inScope (folder : Option Uuid) (id : Uuid) : Bool := folder.all (· == id)

structure SeriesGroup where
  seriesId : Option String
  seriesName : Option String
  seriesNameLast : Option String
  folderFirst : Option String
  folderLast : Option String
  foreignFolder : Bool

def groupKey (group : SeriesGroup) : Option TvSeriesCatalogKey :=
  group.seriesId.bind fun id => group.seriesName.map fun name => ⟨id, name⟩

def folderTexts (rows : List MediaItemRow) : List String :=
  rows.map fun row => row.item.virtualFolderId.hyphenated

def differ (first last : Option String) : Bool :=
  first.any fun first => last.any (first != ·)

def coveredSeries (tables : TvTables) : List TvSeriesRow :=
  tables.series.filter fun row => tables.covered row.virtualFolderId

def projectedEpisodes (catalog : TvCatalog) (folder : Option Uuid) (seriesIds : List String) :
    List MediaItemRow :=
  (catalog.tables.members.filter fun member => catalog.tables.covered member.virtualFolderId &&
      inScope folder member.virtualFolderId && seriesIds.contains member.seriesId).filterMap
    fun member => catalog.rows.find? fun row =>
      row.item.id == member.itemId && row.missingSince.isNone

namespace Postgres

variable (pg : Postgres)

def nameMatches (patterns : TvSeriesCatalogNamePatterns) (name : Option String) : Bool :=
  let lowered := name.map pg.lower
  patterns.search.all (fun pattern => lowered.any fun name => like pattern.toList name.toList) &&
    patterns.startsWith.all (fun pattern =>
      lowered.any fun name => like pattern.toList name.toList) &&
    patterns.lowerBound.all (fun bound => lowered.any fun name => (pg.compare name bound).isGE) &&
    patterns.upperBound.all fun bound => lowered.any fun name => (pg.compare name bound).isLT

/-- `ORDER BY lower(series_name), series_name, series_id`. -/
def compareKeys : TvSeriesCatalogKey → TvSeriesCatalogKey → Ordering :=
  compareChain [fun a b => pg.compare (pg.lower a.name) (pg.lower b.name),
    fun a b => pg.compare a.name b.name] fun a b => pg.compare a.id b.id

/-- `ORDER BY lower(item.name), item.name, item.id`. -/
def compareRows : MediaItemRow → MediaItemRow → Ordering :=
  compareChain [fun a b => pg.compare (pg.lower a.item.name) (pg.lower b.item.name),
    fun a b => pg.compare a.item.name b.item.name] (compareOn fun row => row.item.id.toNat)

def episodesOf (rows : List MediaItemRow) : List (MediaItem × Json) :=
  (sortBy pg.compareRows rows).map fun row => (row.item, row.metadata)

/-! The page from the rows of the items. -/

def isForeign (catalog : TvCatalog) (row : MediaItemRow) : Bool :=
  catalog.folders.any fun folder =>
    folder.id == row.item.virtualFolderId && !pg.isTvFolder folder

def seriesGroup (catalog : TvCatalog) (group : Option String × List MediaItemRow) :
    SeriesGroup where
  seriesId := group.1
  seriesName := pg.firstName group.2
  seriesNameLast := (pg.anchorName group.2).or
    (maxOf pg.compare (group.2.filterMap pg.seriesName))
  folderFirst := minOf pg.compare (folderTexts group.2)
  folderLast := maxOf pg.compare (folderTexts group.2)
  foreignFolder := group.2.any (pg.isForeign catalog)

def seriesSource (catalog : TvCatalog) (folder : Option Uuid) : List MediaItemRow :=
  catalog.rows.filter fun row => inScope folder row.item.virtualFolderId && pg.isSource row

def grouped (catalog : TvCatalog) (folder : Option Uuid) : List SeriesGroup :=
  (groups pg.seriesId (pg.seriesSource catalog folder)).map (pg.seriesGroup catalog)

def selectedGroups (catalog : TvCatalog) (folder : Option Uuid)
    (patterns : TvSeriesCatalogNamePatterns) : List SeriesGroup :=
  (pg.grouped catalog folder).filter fun group => pg.nameMatches patterns group.seriesName

/-- The groups in the order of the pages, which none of valid rows is missing from. -/
def liveKeys (catalog : TvCatalog) (folder : Option Uuid)
    (patterns : TvSeriesCatalogNamePatterns) : List TvSeriesCatalogKey :=
  sortBy pg.compareKeys ((pg.selectedGroups catalog folder patterns).filterMap groupKey)

def liveEpisodes (catalog : TvCatalog) (folder : Option Uuid) (seriesIds : List String) :
    List MediaItemRow :=
  catalog.rows.filter fun row => pg.isEpisode row &&
    inScope folder row.item.virtualFolderId && (pg.seriesId row).any seriesIds.contains

def tvSeriesCatalogPageFromLive (catalog : TvCatalog) (folder : Option Uuid)
    (startIndex limit : Nat) (patterns : TvSeriesCatalogNamePatterns) :
    Except DbError (Option TvSeriesCatalogPage) :=
  if (pg.seriesSource catalog folder).any pg.isInvalid then .ok none
  else do
    let (offset, pageLimit) ← pageBounds startIndex limit
    let grouped := pg.grouped catalog folder
    let nameConflict := grouped.any fun group => differ group.seriesName group.seriesNameLast
    let folderConflict := grouped.any fun group => differ group.folderFirst group.folderLast
    let foreignFolder := grouped.any (·.foreignFolder)
    if nameConflict || (folder.isNone && (folderConflict || foreignFolder)) then .ok none
    else
      let series := if limit = 0 then []
        else slice offset pageLimit (pg.liveKeys catalog folder patterns)
      .ok (some
        { series
          episodes := if series = [] then []
            else pg.episodesOf (pg.liveEpisodes catalog folder (series.map (·.id)))
          totalRecordCount := (pg.selectedGroups catalog folder patterns).length
          startIndex })

/-! The page from the projection. -/

def projectionCovered (catalog : TvCatalog) : Option Uuid → Bool
  | some folder => catalog.tables.covered folder
  | none =>
    (!catalog.folders.any fun folder =>
      pg.isTvFolder folder && !catalog.tables.covered folder.id) &&
    (!catalog.folders.any fun folder => !pg.isTvFolder folder &&
      catalog.rows.any fun row => row.item.virtualFolderId == folder.id && pg.isEpisode row) &&
    !(groups (·.seriesId) (coveredSeries catalog.tables)).any fun group => 1 < group.2.length

def selectedSeries (catalog : TvCatalog) (folder : Option Uuid)
    (patterns : TvSeriesCatalogNamePatterns) : List TvSeriesRow :=
  (coveredSeries catalog.tables).filter fun row =>
    inScope folder row.virtualFolderId && pg.nameMatches patterns row.seriesName

def projectedKey (group : String × List TvSeriesRow) : Option TvSeriesCatalogKey :=
  (minOf pg.compare (group.2.map (·.seriesName))).map fun name => ⟨group.1, name⟩

def projectedKeys (catalog : TvCatalog) (folder : Option Uuid)
    (patterns : TvSeriesCatalogNamePatterns) : List TvSeriesCatalogKey :=
  sortBy pg.compareKeys
    ((groups (·.seriesId) (pg.selectedSeries catalog folder patterns)).filterMap pg.projectedKey)

def tvSeriesCatalogSearchPage (catalog : TvCatalog) (folder : Option Uuid)
    (startIndex limit : Nat) (includeTotalRecordCount : Bool)
    (filter : TvSeriesCatalogNameFilter) : Except DbError (Option TvSeriesCatalogPage) :=
  let patterns := namePatterns filter
  if !pg.projectionCovered catalog folder then do
    let page ← pg.tvSeriesCatalogPageFromLive catalog folder startIndex limit patterns
    .ok (if includeTotalRecordCount then page else page.map (·.withoutTotal))
  else do
    let (offset, pageLimit) ← pageBounds startIndex limit
    let selected := pg.projectedKeys catalog folder patterns
    let found := slice offset pageLimit selected
    -- The total comes with the rows, and is counted again when there are none of them.
    let total :=
      if !includeTotalRecordCount then 0
      else if found ≠ [] then selected.length
      else if startIndex = 0 then 0
      else ((pg.selectedSeries catalog folder patterns).map (·.seriesId)).dedup.length
    let series := if limit = 0 then [] else found
    .ok (some
      { series
        episodes := if series = [] then []
          else pg.episodesOf (projectedEpisodes catalog folder (series.map (·.id)))
        totalRecordCount := total
        startIndex })

end Postgres

end Jellyrin.TvProjection
