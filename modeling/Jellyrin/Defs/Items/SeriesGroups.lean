import Jellyrin.Defs.Items.SeriesSeasonsLaws

/-! Series that are gathered from episodes, and the series that a season belongs to. -/

namespace Jellyrin.Items

open Api Ascii ClientIds Text Metadata

structure TvSeriesSummary where
  sourceName : String
  id : Option String
  name : String
  sortName : String
  seasons : List Int
  episodeCount : Nat
  unplayedCount : Nat
  productionYear : Option Int
  /-- The episodes that are added. -/
  merged : List MediaItem
  deriving DecidableEq

structure TvSeriesItem where
  id : String
  name : String
  sortName : String
  productionYear : Option Int
  childCount : Nat
  recursiveItemCount : Nat
  unplayedItemCount : Nat
  played : Bool
  /-- The episodes in `recursiveItemCount`. -/
  merged : List MediaItem
  deriving DecidableEq

def splitOnceYear : List Char → List Char × Option (List Char)
  | ' ' :: '(' :: suffix => ([], some suffix)
  | c :: rest =>
    let (first, suffix) := splitOnceYear rest
    (c :: first, suffix)
  | [] => ([], none)

def cleanTvSeriesNameAndYear (sourceName : String) : String × Option Int :=
  let sourceName := Json.trim sourceName
  match splitOnceYear sourceName.toList with
  | (first, some suffix) =>
    if suffix.length ≥ 5 ∧ (suffix.take 4).all Char.isDigit ∧ suffix[4]? = some ')' then
      (Json.trim (String.ofList first), parseDigits (suffix.take 4))
    else (sourceName, none)
  | (_, none) => (sourceName, none)

def TvSeriesSummary.new (sourceName : String) : TvSeriesSummary :=
  let cleaned := cleanTvSeriesNameAndYear sourceName
  ⟨sourceName, none, cleaned.1, toAsciiLowercase cleaned.1, [], 0, 0, cleaned.2, []⟩

def TvSeriesSummary.idText (summary : TvSeriesSummary) : String :=
  summary.id.getD (ItemFormats.tvSeriesId summary.sourceName)

section Groups

variable (fmt : ItemFormats) (metadata : Uuid → Option Json)

def TvSeriesSummary.describe (summary : TvSeriesSummary) (metadata : Json) (id : Option String) :
    TvSeriesSummary :=
  let name := ((firstMetadataValueFromJson fmt.floatText metadata ["SeriesName"]).filter
    (Json.trim · ≠ "")).map Json.trim
  { summary with
    id
    name := name.getD summary.name
    sortName := (name.map toAsciiLowercase).getD summary.sortName
    productionYear := summary.productionYear.or (ItemFormats.firstMetadataI32FromJson metadata
      ["SeriesProductionYear", "ProductionYear", "Year"]) }

def TvSeriesSummary.mergeEpisodeMetadata (summary : TvSeriesSummary) (metadata : Json) :
    Except Panic TvSeriesSummary :=
  match summary.id with
  | some id => .ok (summary.describe fmt metadata (some id))
  | none => (fmt.canonicalMetadataUuidFromJson metadata ["SeriesId"]).map
      (summary.describe fmt metadata)

def TvSeriesSummary.count (played : MediaItem → Bool) (summary : TvSeriesSummary)
    (row : MediaItem × TvEpisodeInfo) : TvSeriesSummary :=
  { summary with
    episodeCount := summary.episodeCount + 1
    unplayedCount := if played row.1 then summary.unplayedCount else summary.unplayedCount + 1
    seasons := (row.2.seasonNumber.map summary.seasons.insert).getD summary.seasons
    merged := summary.merged ++ [row.1] }

def TvSeriesSummary.addEpisode (played : MediaItem → Bool) (summary : TvSeriesSummary)
    (row : MediaItem × TvEpisodeInfo) : Except Panic TvSeriesSummary :=
  match metadata row.1.id with
  | some metadata => (summary.count played row).mergeEpisodeMetadata fmt metadata
  | none => .ok (summary.count played row)

def episodeRows (episodes : List MediaItem) : List (MediaItem × TvEpisodeInfo) :=
  episodes.filterMap fun episode => (fmt.tvEpisodeInfo episode).map (episode, ·)

def gatheredSeries (played : MediaItem → Bool) (episodes : List MediaItem) :
    Except Panic (BTreeMap String TvSeriesSummary) :=
  gatherM (·.2.seriesName) .new (TvSeriesSummary.addEpisode fmt metadata played)
    (episodeRows fmt episodes)

def tvSeriesItem (summary : TvSeriesSummary) : TvSeriesItem where
  id := summary.idText
  name := summary.name
  sortName := summary.sortName
  productionYear := summary.productionYear
  childCount := summary.seasons.length
  recursiveItemCount := summary.episodeCount
  unplayedItemCount := summary.unplayedCount
  played := 0 < summary.episodeCount && summary.unplayedCount == 0
  merged := summary.merged

def seriesIsRequested (query : ItemsQuery) (requestedIds : Option (List Uuid))
    (summary : TvSeriesSummary) : Except Panic Bool := do
  let isNamed ← match requestedIds with
    | some ids => (readUuid summary.idText).map (·.any ids.contains)
    | none => .ok true
  let name := toAsciiLowercase summary.name
  return isNamed && (normalizedPrefix query.searchTerm).all (contains name) &&
    (normalizedPrefix query.nameStartsWith).all (Text.startsWith name ·) &&
    (normalizedPrefix query.nameStartsWithOrGreater).all (decide <| · ≤ name) &&
    (normalizedPrefix query.nameLessThan).all (decide <| name < ·)

/-- The grouping path of `tv_series_items_result`, after the episodes are read. -/
def groupedSeriesResult (played : MediaItem → Bool) (episodes : List MediaItem)
    (query : ItemsQuery) : Except Failure (QueryResult TvSeriesItem) := do
  let grouped ← gatheredSeries fmt metadata played episodes
  let requestedIds ← traverseOption parseUuidList query.ids
  let requested : Except Panic (List TvSeriesSummary) :=
    grouped.values.filterM (seriesIsRequested query requestedIds)
  let direction : SortDirection :=
    if query.sortOrder.any (eqIgnoreAsciiCase · "Descending") then .descending else .ascending
  let series := sortBy (direction.order (compareOn TvSeriesSummary.sortName)) (← requested)
  let startIndex := query.startIndex.getD 0
  let page := match query.limit with
    | some limit => slice startIndex limit series
    | none => series.drop startIndex
  return { items := page.map tvSeriesItem, totalRecordCount := series.length, startIndex }

def isTvShow (item : MediaItem) : Bool := item.collectionType.any (eqIgnoreAsciiCase · "tvshows")

def tvSeasonParentFromSnapshot (snapshot : List MediaItem) (seasonId : String) :
    Except Panic (Option (String × String)) :=
  snapshot.findSomeM? fun item => do
    if !isTvShow item then return none
    else if ← fmt.tvEpisodeMatchesSeason item (metadata item.id) seasonId then
      match fmt.tvEpisodeInfoWithMetadata item (metadata item.id) with
      | some info =>
        return some (info.seriesName, ← fmt.tvSeriesIdForEpisode info (metadata item.id))
      | none => return none
    else return none

end Groups

end Jellyrin.Items
