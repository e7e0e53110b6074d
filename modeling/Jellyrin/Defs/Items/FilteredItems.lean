import Jellyrin.Defs.Items.CatalogQuery

/-! The items that a request selects, filtered and sorted in memory. -/

namespace Jellyrin.Items

open Api Ascii ClientIds Text Metadata

/-! Folders. -/

def normalizedFolderPath (path : String) : String := trimEndMatches '/' (Json.trim path)

def childVirtualFolders (fmt : ItemFormats) (parent : VirtualFolder) (folders : List VirtualFolder) :
    List VirtualFolder :=
  let parentLocations := (parent.locations.map normalizedFolderPath).filter (· ≠ "")
  if parentLocations.isEmpty then []
  else
    let children := folders.filter fun folder => folder.id ≠ parent.id &&
      (folder.locations.map normalizedFolderPath).any parentLocations.contains
    sortBy (compareOn fun folder => fmt.toLowercase folder.name) children

def parentFolderIds (fmt : ItemFormats) (folders : List VirtualFolder) (parentId : Uuid) :
    List Uuid :=
  parentId ::
    match folders.find? fun folder => folder.id == parentId with
    | some parent => (childVirtualFolders fmt parent folders).map (·.id)
    | none => []

/-! Filters. -/

def presentValues (values : List String) : Option (List String) :=
  if values.isEmpty then none else some values

structure ItemSelectors where
  personIds : Option (List String)
  genreIds : Option (List String)
  studioIds : Option (List String)
  tags : Option (List String)

def metadataIsRead (query : ItemsQuery) (selectors : ItemSelectors) : Bool :=
  selectors.personIds.isSome || (normalizedPrefix query.searchTerm).isSome ||
    selectors.genreIds.isSome || selectors.studioIds.isSome ||
    (csvValuesLowercase query.officialRatings).isSome || selectors.tags.isSome ||
    (csvValuesLowercase query.seriesStatus).isSome || query.hasTrailer.isSome ||
    query.hasOverview.isSome || query.hasImdbId.isSome || query.hasTmdbId.isSome ||
    query.hasTvdbId.isSome || query.hasOfficialRating.isSome || query.isLocked.isSome ||
    (csvValuesLowercase query.filters).any (·.contains "hastrailer") ||
    (csvValuesLowercase query.years).isSome || query.minCommunityRating.isSome ||
    query.maxCommunityRating.isSome || query.minCriticRating.isSome ||
    query.maxCriticRating.isSome || query.minPremiereDate.isSome || query.maxPremiereDate.isSome

def flagOrToken (flag : Option Bool) (filters : Option (List String))
    (value : List String → Option Bool) : Option Bool :=
  flag.or (filters.bind value)

def tokenIfPresent (token : String) (filters : List String) : Option Bool :=
  if filters.contains token then some true else none

section Filters

variable (fmt : ItemFormats) (query : ItemsQuery) (metadata : Uuid → Option Json)

def meetsFieldFilters (item : MediaItem) : Bool :=
  let filters := csvValuesLowercase query.filters
  (csvValuesLowercase query.includeItemTypes).all
      (·.contains (toAsciiLowercase (effectiveMediaItemType item))) &&
    (csvValuesLowercase query.excludeItemTypes).all
      (!·.contains (toAsciiLowercase (effectiveMediaItemType item))) &&
    (csvValuesLowercase query.mediaTypes).all (·.contains (toAsciiLowercase item.mediaType)) &&
    (csvValuesLowercase query.locationTypes).all
      (·.contains (toAsciiLowercase (mediaItemLocationType item))) &&
    (csvValuesLowercase query.excludeLocationTypes).all
      (!·.contains (toAsciiLowercase (mediaItemLocationType item))) &&
    (csvValuesLowercase query.containers).all (fun containers =>
      (mediaItemContainer item).any fun container =>
        containers.contains (toAsciiLowercase container)) &&
    (csvValuesLowercase query.videoTypes).all (·.contains (mediaItemVideoType item)) &&
    (csvValuesLowercase query.audioLanguages).all
      (fmt.mediaItemHasStreamLanguage item "Audio") &&
    (csvValuesLowercase query.subtitleLanguages).all
      (fmt.mediaItemHasStreamLanguage item "Subtitle") &&
    flagIs (flagOrToken query.hasSubtitles filters (tokenIfPresent "hassubtitles"))
      (fmt.mediaItemHasStreamType item "Subtitle") &&
    flagIs (flagOrToken query.hasTrailer filters (tokenIfPresent "hastrailer"))
      (hasMetadata metadata item metadataHasRemoteTrailer) &&
    flagIs query.hasOverview (hasMetadata metadata item fmt.metadataHasOverview) &&
    flagIs query.hasImdbId (hasMetadata metadata item (metadataHasProviderId · "Imdb")) &&
    flagIs query.hasTmdbId (hasMetadata metadata item (metadataHasProviderId · "Tmdb")) &&
    flagIs query.hasTvdbId (hasMetadata metadata item (metadataHasProviderId · "Tvdb")) &&
    dimensionsMatch query.isHd query.is4k query.minWidth query.maxWidth query.minHeight
      query.maxHeight item &&
    query.isMissing.all (!·) && query.isUnaired.all (!·) &&
    flagIs query.hasOfficialRating (hasMetadata metadata item fmt.metadataHasOfficialRating) &&
    flagIs query.isLocked (hasMetadata metadata item metadataIsLocked) &&
    inBounds (query.minDateCreated.bind fmt.parseItemQueryDate)
      (query.maxDateCreated.bind fmt.parseItemQueryDate) (some item.createdAt) &&
    inBounds (query.minDateLastSaved.bind fmt.parseItemQueryDate)
      (query.maxDateLastSaved.bind fmt.parseItemQueryDate) (some item.updatedAt) &&
    (flagOrToken query.isFolder filters folderFilterValue).all (!·)

def meetsSearchFilter (item : MediaItem) : Bool :=
  (normalizedPrefix query.searchTerm).all fun term =>
    contains (toAsciiLowercase item.name) term ||
      hasMetadata metadata item (fmt.metadataValueMatchesSearch term)

def meetsValueFilters (selectors : ItemSelectors) (item : MediaItem) : Bool :=
  let entities (itemType : String) (keys : List String) (values : Option (List String)) : Bool :=
    values.all fun values =>
      hasMetadata metadata item (metadataMatchesEntityIds fmt.floatText · itemType keys values)
  let values (keys : List String) (values : Option (List String)) : Bool :=
    values.all fun values =>
      hasMetadata metadata item (metadataMatchesValues fmt.floatText · keys values)
  entities "Person" ["People", "Cast", "SeriesPeople"] selectors.personIds &&
    entities "Genre" ["Genres", "SeriesGenres"] selectors.genreIds &&
    entities "Studio" ["Studios", "SeriesStudios"] selectors.studioIds &&
    values ["OfficialRating", "OfficialRatings", "SeriesOfficialRating"]
      (csvValuesLowercase query.officialRatings) &&
    values ["Tags"] selectors.tags &&
    values ["SeriesStatus", "Status"] (csvValuesLowercase query.seriesStatus) &&
    values ["ProductionYear", "Years"] (csvValuesLowercase query.years)

def meetsRangeFilters (item : MediaItem) : Bool :=
  (metadata item.id).all (fmt.ratingsMatch query.minCommunityRating query.maxCommunityRating
    query.minCriticRating query.maxCriticRating)

def meetsPremiereFilter (item : MediaItem) : Bool :=
  let minPremiereDate := query.minPremiereDate.bind fmt.parseItemQueryDate
  let maxPremiereDate := query.maxPremiereDate.bind fmt.parseItemQueryDate
  (minPremiereDate.isNone && maxPremiereDate.isNone) ||
    ((metadata item.id).bind fmt.metadataItemFilterPremiereDate).any fun premiereDate =>
      minPremiereDate.all (· ≤ premiereDate) && maxPremiereDate.all (premiereDate ≤ ·)

def meetsFilters (store : ItemStore) (parentIds : Option (List Uuid)) (ids : Option (List Uuid))
    (selectors : ItemSelectors) (item : MediaItem) : Bool :=
  isVisibleTo query.allowedPluginTunerIds store.metadata item &&
    ids.all (·.contains item.id) && parentIds.all (·.contains item.virtualFolderId) &&
    meetsFieldFilters fmt query metadata item && meetsSearchFilter fmt query metadata item &&
    meetsValueFilters fmt query metadata selectors item &&
    meetsRangeFilters fmt query metadata item && meetsPremiereFilter fmt query metadata item &&
    nameMatches query.nameStartsWith query.nameStartsWithOrGreater query.nameLessThan item

end Filters

def favoriteFilter (query : ItemsQuery) : Option (Bool × FavoriteFilterMode) :=
  match query.isFavorite with
  | some value => some (value, .favoriteOnly)
  | none => ((csvValuesLowercase query.filters).bind favoriteFilterValue).map fun mode => (true, mode)

def meetsPlaybackFilters (store : ItemStore) (query : ItemsQuery) (userId : Option Uuid)
    (item : MediaItem) : Bool :=
  let filters := csvValuesLowercase query.filters
  let isPlayed := flagOrToken query.isPlayed filters playedFilterValue
  let isResumable := filters.any resumableFilterValue
  if isPlayed.isSome || (favoriteFilter query).isSome || isResumable then
    match userId with
    | none => false
    | some userId =>
      let state := store.playback userId item.id
      flagIs isPlayed (state.any (·.played)) &&
        (favoriteFilter query).all (fun (want, mode) =>
          (state.any fun state =>
            match mode with
            | .favoriteOnly => state.isFavorite
            | .favoriteOrLikes => isLiked state) == want) &&
        (!isResumable || state.any fun state => 0 < state.positionTicks && !state.played)
  else true

/-! Orders. -/

def queryShouldSortEpisodePersonResultsByIndex (query : ItemsQuery) : Bool :=
  (csvValuesLowercase query.includeItemTypes).any fun types =>
    !query.personIds.isEmpty && !types.isEmpty && types.all (· == "episode")

def compareFiltered (fmt : ItemFormats) (query : ItemsQuery) (metadata : Uuid → Option Json) :
    MediaItem → MediaItem → Ordering :=
  if queryShouldSortEpisodePersonResultsByIndex query then
    fmt.compareTvEpisodesWithMetadata metadata
  else
    (sortDirection (query.sortOrder.getD "")).order (compareMediaItems (sortFields query.sortBy))

def metadataRead (store : ItemStore) (query : ItemsQuery) (selectors : ItemSelectors) :
    Uuid → Option Json :=
  if metadataIsRead query selectors then store.metadata else fun _ => none

def filteredMediaItems (fmt : ItemFormats) (store : ItemStore) (items : List MediaItem)
    (query : ItemsQuery) (userId : Option Uuid) : Except Failure (List MediaItem) := do
  let parentId ← traverseOption parseJellyfinUuid query.parentId
  let ids ← traverseOption parseUuidList query.ids
  let personIds ← normalizedCatalogFilterValues query.personIds "PersonIds"
  let genreIds ← normalizedCatalogFilterValues query.genreIds "GenreIds"
  let studioIds ← normalizedCatalogFilterValues query.studioIds "StudioIds"
  let tags ← normalizedCatalogFilterValues query.tags "Tags"
  let selectors : ItemSelectors :=
    ⟨presentValues personIds, presentValues genreIds, presentValues studioIds, presentValues tags⟩
  let metadata := metadataRead store query selectors
  let parentIds := parentId.map (parentFolderIds fmt store.folders)
  let items := items.filter fun item =>
    meetsFilters fmt query metadata store parentIds ids selectors item &&
      meetsPlaybackFilters store query userId item
  return sortBy (compareFiltered fmt query metadata) items

end Jellyrin.Items
