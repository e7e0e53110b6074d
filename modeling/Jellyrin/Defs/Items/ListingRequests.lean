import Jellyrin.Defs.Data.Collation
import Jellyrin.Defs.Items.FilteredItems
import Jellyrin.Defs.Items.ParentBrowse

/-! Listings of items: `/Items` in memory, suggestions and the episodes of a series. -/

namespace Jellyrin.Items

open Api Ascii ClientIds Text Metadata

structure ItemsPage where
  totalRecordCount : Nat
  startIndex : Nat
  items : List (MediaItem × Option Json × Option PlaybackState)
  deriving DecidableEq

def ItemStore.entry (store : ItemStore) (userId : Option Uuid) (item : MediaItem) :
    MediaItem × Option Json × Option PlaybackState :=
  (item, store.metadata item.id, userId.bind fun userId => store.playback userId item.id)

def pagedMediaItems (items : List MediaItem) (query : ItemsQuery) : List MediaItem :=
  let rest := items.drop (query.startIndex.getD 0)
  match query.limit with
  | some limit => rest.take limit
  | none => rest

def queryPage (store : ItemStore) (userId : Option Uuid) (query : ItemsQuery)
    (items : List MediaItem) : ItemsPage where
  totalRecordCount := items.length
  startIndex := query.startIndex.getD 0
  items := (pagedMediaItems items query).map (store.entry userId)

/-! `/Items` in memory. -/

structure SpecialViews where
  isTunerView : String → Bool
  specialUserViewCollectionType : String → Option String

def mediaItemsSourceForQuery (fmt : ItemFormats) (views : SpecialViews) (store : CatalogStore)
    (query : ItemsQuery) : Except Panic (List MediaItem) :=
  match query.parentId with
  | none => .ok store.items
  | some parentId =>
    if views.isTunerView parentId then .ok []
    else
      match views.specialUserViewCollectionType parentId with
      | some collectionType =>
        .ok (store.items.filter fun item => item.collectionType = some collectionType)
      | none => do
        match ← readUuid parentId with
        | some parentId =>
          return store.items.filter fun item =>
            (parentFolderIds fmt store.folders parentId).contains item.virtualFolderId
        | none => return store.items

def filteredItemsForQuery (fmt : ItemFormats) (views : SpecialViews)
    (allowed : Option (List String)) (store : CatalogStore) (query : ItemsQuery)
    (userId : Option Uuid) : Except Failure (List MediaItem) := do
  let scopedQuery := query.withTuners allowed
  let items ← mediaItemsSourceForQuery fmt views store scopedQuery
  filteredMediaItems fmt store.toItemStore items scopedQuery userId

/-! Suggestions. -/

def ItemsQuery.withoutParent (query : ItemsQuery) : ItemsQuery := { query with parentId := none }

def MediaItemCatalogQuery.within (q : MediaItemCatalogQuery) (allowed : Option (List String))
    (folderIds : List Uuid) : MediaItemCatalogQuery :=
  { q with
    allowedPluginTunerIds := allowed
    virtualFolderIds := q.virtualFolderIds ++ folderIds }

def isPersistedPluginSeries (query : ItemsQuery) (parent : VirtualFolder) : Bool :=
  query.allowedPluginTunerIds.isNone && queryRequestsOnlyItemType query "Series" &&
    parent.locations.any fun location => startsWith (Json.trim location) "plugin-vod://"

def catalogParent (folders : List VirtualFolder) (query : ItemsQuery) (parentId : String) :
    Except Panic (Option VirtualFolder) :=
  if shouldIncludeParentVirtualItems query then .ok none
  else (readUuid parentId).map fun parentId =>
    parentId.bind fun parentId => folders.find? fun folder => folder.id == parentId

def resolvedMediaCatalogQueryForItems (fmt : ItemFormats) (folders : List VirtualFolder)
    (query : ItemsQuery) (userId : Option Uuid) :
    Except Failure (Option MediaItemCatalogQuery) := do
  let genreIds ← normalizedCatalogFilterValues query.genreIds "GenreIds"
  let personIds ← normalizedCatalogFilterValues query.personIds "PersonIds"
  let studioIds ← normalizedCatalogFilterValues query.studioIds "StudioIds"
  let tags ← normalizedCatalogFilterValues query.tags "Tags"
  match query.parentId with
  | none => mediaCatalogQueryForItems fmt query userId
  | some parentId =>
    if !(genreIds.isEmpty && personIds.isEmpty && studioIds.isEmpty && tags.isEmpty) &&
        query.recursive ≠ some true then
      return none
    match ← catalogParent folders query parentId with
    | none => return none
    | some parent =>
      let scopedQuery := query.withoutParent
      -- The gate passes series that are scoped to tuners only.
      let scopedQuery :=
        if isPersistedPluginSeries query parent then scopedQuery.withTuners (some [])
        else scopedQuery
      match ← mediaCatalogQueryForItems fmt scopedQuery userId with
      | none => return none
      | some q =>
        let children := if query.recursive.getD false then childVirtualFolders fmt parent folders
          else []
        return some (q.within query.allowedPluginTunerIds (parent.id :: children.map (·.id)))

def MediaItemCatalogQuery.page (fmt : ItemFormats) (store : CatalogStore)
    (q : MediaItemCatalogQuery) (userId : Option Uuid) : ItemsPage :=
  let rows := q.rows fmt store.toItemStore store.items
  { totalRecordCount := if q.includeTotalRecordCount then rows.length else 0
    startIndex := q.startIndex
    items := (slice q.startIndex (min q.limit mediaItemCatalogMaxPageSize) rows).map
      (store.entry userId) }

def mediaCatalogItemsResult (fmt : ItemFormats) (store : CatalogStore) (query : ItemsQuery)
    (userId : Option Uuid) : Except Failure (Option ItemsPage) := do
  match ← resolvedMediaCatalogQueryForItems fmt store.folders query userId with
  | none => return none
  | some q => return some (q.page fmt store userId)

def ItemsQuery.forSuggestions (query : ItemsQuery) : ItemsQuery :=
  { query with
    isPlayed :=
      if query.isPlayed.isNone && (playedFilterValue (catalogFilters query)).isNone then some false
      else query.isPlayed
    sortBy := query.sortBy.or (some "DateCreated,SortName")
    sortOrder := query.sortOrder.or (some "Descending")
    limit := query.limit.or (some 20) }

def suggestionsResult (fmt : ItemFormats) (store : CatalogStore) (query : ItemsQuery)
    (requestedUserId : Uuid) : Except Failure ItemsPage := do
  let query := query.forSuggestions
  match ← mediaCatalogItemsResult fmt store query (some requestedUserId) with
  | some page => return page
  | none =>
    let filteredItems ←
      filteredMediaItems fmt store.toItemStore store.items query (some requestedUserId)
    return queryPage store.toItemStore (some requestedUserId) query filteredItems

/-! Series and seasons. -/

namespace ItemFormats

variable (fmt : ItemFormats)

def canonicalMetadataUuidFromJson (metadata : Json) (keys : List String) :
    Except Panic (Option String) :=
  match firstMetadataValueFromJson fmt.floatText metadata keys with
  | some value => (readUuid value).map (·.map Uuid.simple)
  | none => .ok none

def metadataUuid (metadata : Option Json) (key : String) : Except Panic (Option String) :=
  match metadata with
  | some metadata => fmt.canonicalMetadataUuidFromJson metadata [key]
  | none => .ok none

def tvSeriesId (seriesName : String) : String := stableEntityId "Series" seriesName

def tvSeasonId (seriesName : String) (seasonNumber : Option Int) : String :=
  stableEntityId "Season" (seriesName ++ ":" ++ (seasonNumber.map toString).getD "unknown")

def tvSeriesIdForEpisode (info : TvEpisodeInfo) (metadata : Option Json) : Except Panic String :=
  (fmt.metadataUuid metadata "SeriesId").map (·.getD (tvSeriesId info.seriesName))

def tvSeasonIdForEpisode (info : TvEpisodeInfo) (metadata : Option Json) : Except Panic String :=
  (fmt.metadataUuid metadata "SeasonId").map
    (·.getD (tvSeasonId info.seriesName info.seasonNumber))

def metadataI32Field (metadata : Json) (key : String) : Option Int :=
  (metadata.fieldCaseInsensitive key).bind fun value =>
    match value with
    | .number value => asI32 (.number value)
    | .string text => asI32 (.string (Json.trim text))
    | _ => none

def tvEpisodeInfoWithMetadata (item : MediaItem) (metadata : Option Json) : Option TvEpisodeInfo :=
  (fmt.tvEpisodeInfo item).map fun info =>
    let seriesName := (metadata.bind
      (firstMetadataValueFromJson fmt.floatText · ["SeriesName"])).filter (Json.trim · ≠ "")
    { seriesName := seriesName.getD info.seriesName
      seasonNumber := (metadata.bind (metadataI32Field · "ParentIndexNumber")).or info.seasonNumber
      episodeNumber := (metadata.bind (metadataI32Field · "IndexNumber")).or info.episodeNumber }

def tvEpisodeMatchesSeries (item : MediaItem) (metadata : Option Json) (seriesId : String) :
    Except Panic Bool :=
  match fmt.tvEpisodeInfo item with
  | some info => do jellyfinIdMatches (← fmt.tvSeriesIdForEpisode info metadata) seriesId
  | none => .ok false

def tvEpisodeMatchesSeason (item : MediaItem) (metadata : Option Json) (seasonId : String) :
    Except Panic Bool :=
  match fmt.tvEpisodeInfoWithMetadata item metadata with
  | some info => do
    if ← jellyfinIdMatches (← fmt.tvSeasonIdForEpisode info metadata) seasonId then return true
    else jellyfinIdMatches (tvSeasonId info.seriesName info.seasonNumber) seasonId
  | none => .ok false

def isPluginVodSeriesAnchor (item : MediaItem) (metadata : Json) : Bool :=
  item.mediaType == "Series" && isTvCollection (item.collectionType.map toAsciiLowercase) &&
    (firstMetadataValueFromJson fmt.floatText metadata ["PluginVodKind"]).any
      (eqIgnoreAsciiCase · "series")

def pluginVodSeriesAnchorInfo (item : MediaItem) (metadata : Json) :
    Except Panic (Option (String × String)) :=
  if fmt.isPluginVodSeriesAnchor item metadata then
    (fmt.canonicalMetadataUuidFromJson metadata ["SeriesId"]).map fun seriesId =>
      seriesId.map (·, ((firstMetadataValueFromJson fmt.floatText metadata ["SeriesName"]).filter
        (Json.trim · ≠ "")).getD item.name)
  else .ok none

/-! What is read of identifiers, and where they stop the reading. -/

def uuidIsReadable (metadata : Option Json) (key : String) : Bool :=
  (metadata.bind (firstMetadataValueFromJson fmt.floatText · [key])).all fun value =>
    decide (IsSliceable value)

def ownUuid (metadata : Option Json) (key : String) : Option String :=
  (metadata.bind (firstMetadataValueFromJson fmt.floatText · [key])).bind fun value =>
    (Uuid.parseStr value).map Uuid.simple

def ownSeriesId (info : TvEpisodeInfo) (metadata : Option Json) : String :=
  (fmt.ownUuid metadata "SeriesId").getD (tvSeriesId info.seriesName)

def ownSeasonId (info : TvEpisodeInfo) (metadata : Option Json) : String :=
  (fmt.ownUuid metadata "SeasonId").getD (tvSeasonId info.seriesName info.seasonNumber)

variable {fmt}

theorem canonicalMetadataUuidFromJson_eq (metadata : Json) (key : String) :
    fmt.canonicalMetadataUuidFromJson metadata [key] =
      onlyIf .charBoundary (fmt.uuidIsReadable (some metadata) key)
        (fmt.ownUuid (some metadata) key) := by
  rw [canonicalMetadataUuidFromJson, uuidIsReadable, ownUuid, Option.bind_some]
  cases firstMetadataValueFromJson fmt.floatText metadata [key] with
  | none => rfl
  | some value =>
    change (readUuid value).map _ = onlyIf .charBoundary (decide (IsSliceable value)) _
    rw [readUuid_eq, map_onlyIf]
    rfl

theorem metadataUuid_eq (metadata : Option Json) (key : String) :
    fmt.metadataUuid metadata key =
      onlyIf .charBoundary (fmt.uuidIsReadable metadata key) (fmt.ownUuid metadata key) := by
  cases metadata with
  | none => rfl
  | some metadata => exact canonicalMetadataUuidFromJson_eq metadata key

theorem tvSeriesIdForEpisode_eq (info : TvEpisodeInfo) (metadata : Option Json) :
    fmt.tvSeriesIdForEpisode info metadata =
      onlyIf .charBoundary (fmt.uuidIsReadable metadata "SeriesId")
        (fmt.ownSeriesId info metadata) := by
  rw [tvSeriesIdForEpisode, metadataUuid_eq, map_onlyIf, ownSeriesId]

theorem tvSeasonIdForEpisode_eq (info : TvEpisodeInfo) (metadata : Option Json) :
    fmt.tvSeasonIdForEpisode info metadata =
      onlyIf .charBoundary (fmt.uuidIsReadable metadata "SeasonId")
        (fmt.ownSeasonId info metadata) := by
  rw [tvSeasonIdForEpisode, metadataUuid_eq, map_onlyIf, ownSeasonId]

theorem isHex_ownUuid {metadata : Option Json} {key id : String}
    (h : fmt.ownUuid metadata key = some id) : Uuid.IsHex id := by
  obtain ⟨value, -, h⟩ := Option.bind_eq_some_iff.mp h
  obtain ⟨uuid, -, rfl⟩ := Option.map_eq_some_iff.mp h
  exact Uuid.isHex_simple uuid

theorem isHex_getD_ownUuid (metadata : Option Json) (key : String) {id : String}
    (h : Uuid.IsHex id) : Uuid.IsHex ((fmt.ownUuid metadata key).getD id) := by
  cases hown : fmt.ownUuid metadata key with
  | none => exact h
  | some own => exact isHex_ownUuid hown

theorem isHex_ownSeriesId (info : TvEpisodeInfo) (metadata : Option Json) :
    Uuid.IsHex (fmt.ownSeriesId info metadata) :=
  isHex_getD_ownUuid metadata _ (isHex_stableEntityId _ _)

theorem isHex_tvSeasonId (seriesName : String) (seasonNumber : Option Int) :
    Uuid.IsHex (tvSeasonId seriesName seasonNumber) := isHex_stableEntityId _ _

theorem isHex_ownSeasonId (info : TvEpisodeInfo) (metadata : Option Json) :
    Uuid.IsHex (fmt.ownSeasonId info metadata) :=
  isHex_getD_ownUuid metadata _ (isHex_tvSeasonId _ _)

theorem jellyfinIdMatches_of_isHex {left right : String} (h : Uuid.IsHex left) :
    jellyfinIdMatches left right =
      onlyIf .charBoundary (decide (IsSliceable right)) (Uuid.agree left right) := by
  rw [jellyfinIdMatches_eq, decide_eq_true (isSliceable_of_isHex h), Bool.true_and]

theorem tvEpisodeMatchesSeries_eq (item : MediaItem) (metadata : Option Json)
    (seriesId : String) :
    fmt.tvEpisodeMatchesSeries item metadata seriesId = onlyIf .charBoundary
      (!(fmt.tvEpisodeInfo item).isSome ||
        fmt.uuidIsReadable metadata "SeriesId" && decide (IsSliceable seriesId))
      ((fmt.tvEpisodeInfo item).any fun info =>
        Uuid.agree (fmt.ownSeriesId info metadata) seriesId) := by
  rw [tvEpisodeMatchesSeries]
  cases fmt.tvEpisodeInfo item with
  | none => rfl
  | some info =>
    change fmt.tvSeriesIdForEpisode info metadata >>= _ = onlyIf .charBoundary (_ && _) _
    rw [tvSeriesIdForEpisode_eq]
    exact onlyIf_bind_onlyIf (jellyfinIdMatches_of_isHex (isHex_ownSeriesId info metadata))

theorem tvEpisodeMatchesSeason_eq (item : MediaItem) (metadata : Option Json)
    (seasonId : String) :
    fmt.tvEpisodeMatchesSeason item metadata seasonId = onlyIf .charBoundary
      (!(fmt.tvEpisodeInfo item).isSome ||
        fmt.uuidIsReadable metadata "SeasonId" && decide (IsSliceable seasonId))
      ((fmt.tvEpisodeInfoWithMetadata item metadata).any fun info =>
        Uuid.agree (fmt.ownSeasonId info metadata) seasonId ||
          Uuid.agree (tvSeasonId info.seriesName info.seasonNumber) seasonId) := by
  rw [tvEpisodeMatchesSeason, tvEpisodeInfoWithMetadata]
  cases fmt.tvEpisodeInfo item with
  | none => rfl
  | some info =>
    rw [Option.map_some, Option.any_some, Option.isSome_some, Bool.not_true, Bool.false_or]
    generalize TvEpisodeInfo.mk _ _ _ = info
    change fmt.tvSeasonIdForEpisode info metadata >>= _ = _
    rw [tvSeasonIdForEpisode_eq]
    refine onlyIf_bind_onlyIf ?_
    -- The derived identifier is only looked at after the own one, which needs as much.
    rw [jellyfinIdMatches_of_isHex (isHex_ownSeasonId info metadata),
      jellyfinIdMatches_of_isHex (isHex_tvSeasonId _ _)]
    generalize Uuid.agree (fmt.ownSeasonId info metadata) seasonId = own
    generalize Uuid.agree (tvSeasonId info.seriesName info.seasonNumber) seasonId = derived
    cases decide (IsSliceable seasonId) with
    | false => rfl
    | true => cases own <;> rfl

end ItemFormats

/-! Episodes in the repository. -/

/-- `->>` of a column; of arrays and objects it only matters that they are not blank and not
hexadecimal. -/
def columnText (floatText : UInt64 → String) (metadata : Json) (field : String) : Option String :=
  (metadata.get field).bind fun value =>
    match value with
    | .string text => some text
    | .number value => some (toString value)
    | .float bits => some (floatText bits)
    | .bool value => some (if value then "true" else "false")
    | .null => none
    | .array _ => some "[]"
    | .object _ => some "\x7b\x7d"

section Episodes

variable (fmt : ItemFormats) (store : CatalogStore)

def metadataColumn (item : MediaItem) (field : String) : Option String :=
  (store.metadata item.id).bind fun metadata =>
    (columnText fmt.floatText metadata field).map btrim

def isTvVideo (item : MediaItem) : Bool :=
  item.mediaType == "Video" && isTvCollection (item.collectionType.map toAsciiLowercase)

def tvSeriesLookupCandidatesForSeries (seriesId : String) : List MediaItem :=
  store.items.filter fun item =>
    (isTvVideo item ||
      item.mediaType == "Series" && isTvCollection (item.collectionType.map toAsciiLowercase) &&
        ((store.metadata item.id).bind fun metadata =>
          columnText fmt.floatText metadata "PluginVodKind").any
            (toAsciiLowercase · == "series")) &&
      metadataColumn fmt store item "SeriesId" == some seriesId

def tvSeriesLookupCandidatesForSeason (seasonId : String) : List MediaItem :=
  store.items.filter fun item =>
    isTvVideo item && metadataColumn fmt store item "SeasonId" == some seasonId

def isCanonicalId (text : String) : Bool :=
  text.toList.length == 32 && text.toList.all fun c => c.isDigit || ('a' ≤ c && c ≤ 'f')

def tvSeriesLookupCandidatesWithoutCanonicalSeriesId : List MediaItem :=
  store.items.filter fun item =>
    isTvVideo item &&
      !((metadataColumn fmt store item "SeriesId").any isCanonicalId &&
        (metadataColumn fmt store item "SeriesName").any (· ≠ ""))

def presentItems (items : List MediaItem) : Option (List MediaItem) :=
  if items.isEmpty then none else some items

def tvEpisodeCatalogSnapshotForSeries (seriesId : String) :
    Except Panic (Option (List MediaItem)) :=
  (readUuid seriesId).map fun canonical => canonical.bind fun canonical =>
    presentItems (tvSeriesLookupCandidatesForSeries fmt store canonical.simple)

def tvEpisodeCatalogSnapshotForSeason (seasonId : String) :
    Except Panic (Option (List MediaItem)) :=
  (readUuid seasonId).map fun canonical => canonical.bind fun canonical =>
    presentItems (tvSeriesLookupCandidatesForSeason fmt store canonical.simple)

def itemWithMetadata (id : Uuid) : Option (MediaItem × Json) :=
  (store.items.find? (·.id == id)).bind fun item => (store.metadata item.id).map (item, ·)

def anchoredSeriesId (seriesId : String) : Except Panic (Option String) := do
  match (← readUuid seriesId).bind (itemWithMetadata store) with
  | some (anchor, metadata) =>
    return (← fmt.pluginVodSeriesAnchorInfo anchor metadata).map (·.1)
  | none => return none

def anchoredSnapshot (seriesId : String) : Except Panic (Option (List MediaItem × String)) := do
  match ← anchoredSeriesId fmt store seriesId with
  | some canonicalSeriesId =>
    return (← tvEpisodeCatalogSnapshotForSeries fmt store canonicalSeriesId).map
      (·, canonicalSeriesId)
  | none => return none

def tvEpisodeCatalogSnapshotScopedToSeries (seriesId : String) :
    Except Panic (List MediaItem × String) := do
  if let some snapshot ← tvEpisodeCatalogSnapshotForSeries fmt store seriesId then
    return (snapshot, seriesId)
  else if let some anchored ← anchoredSnapshot fmt store seriesId then
    return anchored
  else if let some snapshot ← tvEpisodeCatalogSnapshotForSeason fmt store seriesId then
    return (snapshot, seriesId)
  else
    return (tvSeriesLookupCandidatesWithoutCanonicalSeriesId fmt store, seriesId)

def anchorNameFor (item : MediaItem) (seriesId : String) : Except Panic (Option String) := do
  match store.metadata item.id with
  | some metadata =>
    match ← fmt.pluginVodSeriesAnchorInfo item metadata with
    | some (anchorId, anchorName) =>
      return if ← jellyfinIdMatches anchorId seriesId then some anchorName else none
    | none => return none
  | none => return none

def seriesNameForIdFromSnapshot (snapshot : List MediaItem) (seriesId : String) :
    Except Panic (Option String) :=
  snapshot.findSomeM? fun item => do
    if let some anchorName ← anchorNameFor fmt store item seriesId then
      return some anchorName
    else
      match fmt.tvEpisodeInfo item with
      | some info =>
        let id ← fmt.tvSeriesIdForEpisode info (store.metadata item.id)
        return if ← jellyfinIdMatches id seriesId then some info.seriesName else none
      | none => return none

def seriesNameForId (seriesId : String) : Except Panic (Option String) := do
  let snapshot ← tvEpisodeCatalogSnapshotForSeries fmt store seriesId
  seriesNameForIdFromSnapshot fmt store
    (snapshot.getD (tvSeriesLookupCandidatesWithoutCanonicalSeriesId fmt store)) seriesId

def isEpisodeOf (item : MediaItem) (seriesId : String) (seasonId : Option String) :
    Except Panic Bool := do
  if ← fmt.tvEpisodeMatchesSeries item (store.metadata item.id) seriesId then
    match seasonId with
    | some seasonId => fmt.tvEpisodeMatchesSeason item (store.metadata item.id) seasonId
    | none => return true
  else return false

def isUnknownSeries (episodes : List MediaItem) (seriesId : String) : Except Panic Bool := do
  if episodes.isEmpty then return (← seriesNameForId fmt store seriesId).isNone
  else return false

def seriesEpisodesResult (query : ItemsQuery) (seriesId : String) (requestedUserId : Uuid) :
    Except Failure ItemsPage := do
  let (items, resolvedSeriesId) ← tvEpisodeCatalogSnapshotScopedToSeries fmt store seriesId
  let candidateEpisodes ←
    filteredMediaItems fmt store.toItemStore items query (some requestedUserId)
  let episodes ← candidateEpisodes.filterM fun item =>
    isEpisodeOf fmt store item resolvedSeriesId query.seasonId
  if ← isUnknownSeries fmt store episodes resolvedSeriesId then
    .error (.notFound "Series not found")
  else
    return queryPage store.toItemStore (some requestedUserId) query
      (sortBy (fmt.compareTvEpisodesWithMetadata store.metadata) episodes)

end Episodes

end Jellyrin.Items
