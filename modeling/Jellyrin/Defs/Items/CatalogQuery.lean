import Jellyrin.Defs.Api.ClientIds
import Jellyrin.Defs.Items.MediaItem

/-! The query of the catalogue repository, and the requests that are answered by it. -/

namespace Jellyrin.Items

open Api Ascii ClientIds Text Metadata

def mediaItemCatalogMaxFacetSelectors : Nat := 64

inductive MediaItemCatalogSortField where
  | sortName
  | dateCreated
  | dateLastMediaAdded
  | premiereDate
  | communityRating
  | datePlayed
  deriving DecidableEq

inductive MediaItemFavoriteFilter where
  | favorite (expected : Bool)
  | favoriteOrLiked
  deriving DecidableEq

inductive MediaItemCatalogSearchScope where
  | name
  | allMetadataScalars
  | searchHintFields
  deriving DecidableEq

structure MediaItemCatalogQuery where
  startIndex : Nat := 0
  limit : Nat := 100
  includeTotalRecordCount : Bool := true
  ids : List Uuid := []
  virtualFolderIds : List Uuid := []
  allowedPluginTunerIds : Option (List String) := none
  includeItemTypes : List String := []
  excludeItemTypes : List String := []
  collectionTypes : List String := []
  mediaTypes : List String := []
  containers : List String := []
  videoTypes : List String := []
  audioLanguages : List String := []
  subtitleLanguages : List String := []
  genreIds : List String := []
  personIds : List String := []
  studioIds : List String := []
  tags : List String := []
  officialRatings : List String := []
  seriesStatuses : List String := []
  years : List String := []
  locationTypes : List String := []
  excludeLocationTypes : List String := []
  searchTerm : Option String := none
  searchScope : MediaItemCatalogSearchScope := .name
  hasSubtitles : Option Bool := none
  hasTrailer : Option Bool := none
  hasOverview : Option Bool := none
  hasImdbId : Option Bool := none
  hasTmdbId : Option Bool := none
  hasTvdbId : Option Bool := none
  hasOfficialRating : Option Bool := none
  isLocked : Option Bool := none
  isHd : Option Bool := none
  is4k : Option Bool := none
  minWidth : Option Int := none
  maxWidth : Option Int := none
  minHeight : Option Int := none
  maxHeight : Option Int := none
  minCommunityRating : Option UInt64 := none
  maxCommunityRating : Option UInt64 := none
  minCriticRating : Option UInt64 := none
  maxCriticRating : Option UInt64 := none
  minPremiereDate : Option Int := none
  maxPremiereDate : Option Int := none
  isMissing : Option Bool := none
  isUnaired : Option Bool := none
  isFolder : Option Bool := none
  minDateCreated : Option Int := none
  maxDateCreated : Option Int := none
  minDateLastSaved : Option Int := none
  maxDateLastSaved : Option Int := none
  nameStartsWith : Option String := none
  nameStartsWithOrGreater : Option String := none
  nameLessThan : Option String := none
  userId : Option Uuid := none
  isPlayed : Option Bool := none
  favorite : Option MediaItemFavoriteFilter := none
  isResumable : Bool := false
  sort : List (MediaItemCatalogSortField × SortDirection) := []

/-! What the fields of a query mean. -/

def anyOf (values : List String) (value : String) : Bool :=
  (csvValuesLowercase values).all (·.contains (toAsciiLowercase value))

def noneOf (values : List String) (value : String) : Bool :=
  (csvValuesLowercase values).all (!·.contains (toAsciiLowercase value))

def flagIs (expected : Option Bool) (actual : Bool) : Bool := expected.all (actual == ·)

def inBounds (low high value : Option Int) : Bool :=
  low.all (fun low => value.any (low ≤ ·)) && high.all fun high => value.any (· ≤ high)

def isPositiveF64 (bits : UInt64) : Bool := 0 < bits && bits ≤ 0x7FF0000000000000

def isLiked (state : PlaybackState) : Bool := state.isFavorite || state.rating.any isPositiveF64

def hasMetadata (metadata : Uuid → Option Json) (item : MediaItem) (p : Json → Bool) : Bool :=
  (metadata item.id).any p

def dimensionsMatch (isHd is4k : Option Bool) (minWidth maxWidth minHeight maxHeight : Option Int)
    (item : MediaItem) : Bool :=
  flagIs isHd (item.height.any (720 ≤ ·)) &&
    flagIs is4k (item.width.any (3840 ≤ ·) || item.height.any (2160 ≤ ·)) &&
    inBounds minWidth maxWidth item.width && inBounds minHeight maxHeight item.height

def ItemFormats.ratingsMatch (fmt : ItemFormats)
    (minCommunity maxCommunity minCritic maxCritic : Option UInt64) (metadata : Json) : Bool :=
  let community := fmt.firstMetadataNumberFromJson metadata ["CommunityRating", "Rating"]
  let critic := fmt.firstMetadataNumberFromJson metadata ["CriticRating"]
  minCommunity.all (fun low => community.any (fmt.f64Le low ·)) &&
    maxCommunity.all (fun high => community.any (fmt.f64Le · high)) &&
    minCritic.all (fun low => critic.any (fmt.f64Le low ·)) &&
    maxCritic.all fun high => critic.any (fmt.f64Le · high)

def isVisibleTo (allowed : Option (List String)) (metadata : Uuid → Option Json)
    (item : MediaItem) : Bool :=
  allowed.all fun allowed => !isPluginVodVirtualItem item ||
    hasMetadata metadata item fun metadata =>
      (metadata.stringField "TunerId").any fun tunerId =>
        allowed.any (eqIgnoreAsciiCase · tunerId)

def searchHintFields : List String :=
  ["Album", "AlbumName", "AlbumArtist", "AlbumArtists", "SeriesName", "Series", "Artists"]

def nameMatches (startsWith startsWithOrGreater lessThan : Option String) (item : MediaItem) :
    Bool :=
  let name := toAsciiLowercase item.name
  (normalizedPrefix startsWith).all (Text.startsWith name ·) &&
    (normalizedPrefix startsWithOrGreater).all (decide <| · ≤ name) &&
    (normalizedPrefix lessThan).all (decide <| name < ·)

/-! Sort keys. -/

section SortKeys

variable (fmt : ItemFormats) (store : ItemStore) (userId : Option Uuid)

def compareField : MediaItemCatalogSortField → MediaItem → MediaItem → Ordering
  | .sortName => compareNames
  | .dateCreated => compareOn MediaItem.createdAt
  | .dateLastMediaAdded => compareOn MediaItem.updatedAt
  | .premiereDate => fun left right =>
    compareNullsLast compare ((store.metadata left.id).bind fmt.metadataItemFilterPremiereDate)
      ((store.metadata right.id).bind fmt.metadataItemFilterPremiereDate)
  | .communityRating => fun left right =>
    let rating (item : MediaItem) := (store.metadata item.id).bind fun metadata =>
      fmt.firstMetadataNumberFromJson metadata ["CommunityRating", "Rating"]
    compareNullsLast fmt.compareF64 (rating left) (rating right)
  | .datePlayed => fun left right =>
    let datePlayed (item : MediaItem) := (userId.bind fun userId =>
      store.playback userId item.id).map (·.updatedAt)
    compareNullsLast compare (datePlayed left) (datePlayed right)

def compareBySort (sort : List (MediaItemCatalogSortField × SortDirection)) :
    MediaItem → MediaItem → Ordering :=
  let sort := if sort.isEmpty then [(.sortName, .ascending)] else sort
  let lastDirection := (sort.getLast?.map Prod.snd).getD .ascending
  compareChain
    (sort.map fun (field, direction) => direction.order (compareField fmt store userId field))
    (lastDirection.order compareIds)

end SortKeys

namespace MediaItemCatalogQuery

variable (fmt : ItemFormats) (store : ItemStore) (query : MediaItemCatalogQuery)

def selectsId (item : MediaItem) : Bool := query.ids.isEmpty || query.ids.contains item.id

def selectsSearched (item : MediaItem) : Bool :=
  (normalizedPrefix query.searchTerm).all fun term =>
    contains (toAsciiLowercase item.name) term ||
      match query.searchScope with
      | .name => false
      | .allMetadataScalars => hasMetadata store.metadata item (fmt.metadataValueMatchesSearch term)
      | .searchHintFields => hasMetadata store.metadata item fun metadata =>
          searchHintFields.any fun field => (metadata.get field).any fun value =>
            (leaves value).any fun leaf => (nameText fmt.floatText leaf).any fun text =>
              contains (toAsciiLowercase text) term

def selectsRated (item : MediaItem) : Bool :=
  (query.minCommunityRating.isNone && query.maxCommunityRating.isNone &&
      query.minCriticRating.isNone && query.maxCriticRating.isNone) ||
    hasMetadata store.metadata item (fmt.ratingsMatch query.minCommunityRating
      query.maxCommunityRating query.minCriticRating query.maxCriticRating)

def selectsEntity (itemType : String) (keys values : List String) (item : MediaItem) : Bool :=
  (csvValuesLowercase values).all fun values =>
    hasMetadata store.metadata item (metadataMatchesEntityIds fmt.floatText · itemType keys values)

def selectsValue (keys values : List String) (item : MediaItem) : Bool :=
  (csvValuesLowercase values).all fun values =>
    hasMetadata store.metadata item (metadataMatchesValues fmt.floatText · keys values)

def selectsProvider (expected : Option Bool) (provider : String) (item : MediaItem) : Bool :=
  flagIs expected (hasMetadata store.metadata item (metadataHasProviderId · provider))

/-- Predicates on the state of a user hold of nothing without one; a missing state is one with
nothing in it. -/
def selectsPlayback (item : MediaItem) : Bool :=
  if query.isPlayed.isSome || query.favorite.isSome || query.isResumable then
    query.userId.any fun userId =>
      let state := store.playback userId item.id
      flagIs query.isPlayed (state.any (·.played)) &&
        query.favorite.all (fun favorite =>
          match favorite with
          | .favorite expected => state.any (·.isFavorite) == expected
          | .favoriteOrLiked => state.any isLiked) &&
        (!query.isResumable || state.any fun state => 0 < state.positionTicks && !state.played)
  else true

def selectsFields (item : MediaItem) : Bool :=
  anyOf query.includeItemTypes (effectiveMediaItemType item) &&
    noneOf query.excludeItemTypes (effectiveMediaItemType item) &&
    (csvValuesLowercase query.collectionTypes).all (fun types =>
      item.collectionType.any fun kind => types.contains (toAsciiLowercase kind)) &&
    anyOf query.mediaTypes item.mediaType &&
    anyOf query.locationTypes (mediaItemLocationType item) &&
    noneOf query.excludeLocationTypes (mediaItemLocationType item) &&
    (csvValuesLowercase query.containers).all (fun containers =>
      (mediaItemContainer item).any fun container =>
        containers.contains (toAsciiLowercase container)) &&
    anyOf query.videoTypes (mediaItemVideoType item) &&
    (csvValuesLowercase query.audioLanguages).all
      (fmt.mediaItemHasStreamLanguage item "Audio") &&
    (csvValuesLowercase query.subtitleLanguages).all
      (fmt.mediaItemHasStreamLanguage item "Subtitle") &&
    flagIs query.hasSubtitles (fmt.mediaItemHasStreamType item "Subtitle") &&
    flagIs query.hasTrailer (hasMetadata store.metadata item metadataHasRemoteTrailer) &&
    flagIs query.hasOverview (hasMetadata store.metadata item fmt.metadataHasOverview) &&
    selectsProvider store query.hasImdbId "Imdb" item &&
    selectsProvider store query.hasTmdbId "Tmdb" item &&
    selectsProvider store query.hasTvdbId "Tvdb" item &&
    dimensionsMatch query.isHd query.is4k query.minWidth query.maxWidth query.minHeight
      query.maxHeight item &&
    flagIs query.isMissing false && flagIs query.isUnaired false &&
    flagIs query.hasOfficialRating
      (hasMetadata store.metadata item fmt.metadataHasOfficialRating) &&
    flagIs query.isLocked (hasMetadata store.metadata item metadataIsLocked) &&
    inBounds query.minDateCreated query.maxDateCreated (some item.createdAt) &&
    inBounds query.minDateLastSaved query.maxDateLastSaved (some item.updatedAt) &&
    flagIs query.isFolder false

def selectsValues (item : MediaItem) : Bool :=
  selectsEntity fmt store "Person" ["People", "Cast", "SeriesPeople"] query.personIds item &&
    selectsEntity fmt store "Genre" ["Genres", "SeriesGenres"] query.genreIds item &&
    selectsEntity fmt store "Studio" ["Studios", "SeriesStudios"] query.studioIds item &&
    selectsValue fmt store ["OfficialRating", "OfficialRatings", "SeriesOfficialRating"]
      query.officialRatings item &&
    selectsValue fmt store ["Tags"] query.tags item &&
    selectsValue fmt store ["SeriesStatus", "Status"] query.seriesStatuses item &&
    selectsValue fmt store ["ProductionYear", "Years"] query.years item

/-- All fields of the query but the identifiers, the search term and the ratings. -/
def selectsOther (item : MediaItem) : Bool :=
  isVisibleTo query.allowedPluginTunerIds store.metadata item &&
    (query.virtualFolderIds.isEmpty || query.virtualFolderIds.contains item.virtualFolderId) &&
    query.selectsFields fmt store item && query.selectsValues fmt store item &&
    inBounds query.minPremiereDate query.maxPremiereDate
      ((store.metadata item.id).bind fmt.metadataItemFilterPremiereDate) &&
    nameMatches query.nameStartsWith query.nameStartsWithOrGreater query.nameLessThan item &&
    query.selectsPlayback store item

def selects (item : MediaItem) : Bool :=
  query.selectsId item && query.selectsSearched fmt store item &&
    query.selectsRated fmt store item && query.selectsOther fmt store item

def compareRows : MediaItem → MediaItem → Ordering :=
  compareBySort fmt store query.userId query.sort

def rows (items : List MediaItem) : List MediaItem :=
  sortBy (query.compareRows fmt store) (items.filter (query.selects fmt store))

end MediaItemCatalogQuery

/-! The gate. -/

def normalizedSelectors (values : List String) : List String :=
  sortDedup ((csvValuesLowercase values).getD [])

def normalizedCatalogFilterValues (values : List String) (field : String) :
    Except Failure (List String) :=
  let selectors := normalizedSelectors values
  if mediaItemCatalogMaxFacetSelectors < selectors.length then
    .error (.badRequest (field ++ " accepts at most " ++
      toString mediaItemCatalogMaxFacetSelectors ++ " distinct values"))
  else .ok selectors

def traverseOption {α β : Type} (f : α → Except Panic (Except ApiError β)) (value : Option α) :
    Except Failure (Option β) :=
  match value with
  | some value => (handled (f value)).map some
  | none => .ok none

def catalogFilterTokens : List String :=
  ["isfolder", "isnotfolder", "isplayed", "isunplayed", "isfavorite", "isfavoriteorlikes", "likes",
    "isresumable", "hassubtitles", "hastrailer"]

def catalogSortField (field : String) : Option MediaItemCatalogSortField :=
  match toAsciiLowercase (Json.trim field) with
  | "sortname" | "name" => some .sortName
  | "datecreated" => some .dateCreated
  | "datelastmediaadded" => some .dateLastMediaAdded
  | "premieredate" => some .premiereDate
  | "communityrating" => some .communityRating
  | "dateplayed" => some .datePlayed
  | _ => none

def catalogSortFields (query : ItemsQuery) : List MediaItemCatalogSortField :=
  let sort := (split ',' (query.sortBy.getD "SortName")).filterMap catalogSortField
  if sort.isEmpty then [.sortName] else sort

def catalogSort (query : ItemsQuery) : List (MediaItemCatalogSortField × SortDirection) :=
  let directions := (split ',' (query.sortOrder.getD "")).map fun order =>
    sortDirection (Json.trim order)
  let default := directions.head?.getD .ascending
  (catalogSortFields query).zipIdx.map fun (field, index) =>
    (field, (directions[index]?).getD default)

def catalogFilters (query : ItemsQuery) : List String := (csvValuesLowercase query.filters).getD []

def isCatalogQuery (query : ItemsQuery) (personIds : List String) : Bool :=
  let includeItemTypes := (csvValuesLowercase query.includeItemTypes).getD []
  query.parentId.isNone && query.seasonId.isNone && query.seriesId.isNone &&
    query.startIndex.all (· < 2 ^ 63) && query.isAiring.isNone &&
    (includeItemTypes.all fun itemType =>
      itemType ≠ "tvchannel" && itemType ≠ "livetvchannel" &&
        !(itemType == "series" && query.allowedPluginTunerIds.isNone)) &&
    !(!personIds.isEmpty && !includeItemTypes.isEmpty && includeItemTypes.all (· == "episode")) &&
    (catalogFilters query).all catalogFilterTokens.contains &&
    (catalogSortFields query).length ≤ 3

def tokenFlag (flag : Option Bool) (filters : List String) (token : String) : Option Bool :=
  flag.or (if filters.contains token then some true else none)

def catalogFavorite (isFavorite : Option Bool) (filters : List String) :
    Option MediaItemFavoriteFilter :=
  match isFavorite with
  | some value => some (.favorite value)
  | none => (favoriteFilterValue filters).map fun mode =>
    match mode with
    | .favoriteOnly => .favorite true
    | .favoriteOrLikes => .favoriteOrLiked

def catalogQueryOf (fmt : ItemFormats) (query : ItemsQuery) (userId : Option Uuid) (limit : Nat)
    (ids : Option (List Uuid)) (genreIds personIds studioIds tags : List String) :
    MediaItemCatalogQuery where
  startIndex := query.startIndex.getD 0
  limit := min limit mediaItemCatalogMaxPageSize
  includeTotalRecordCount := (queryFlag query.enableTotalRecordCount).getD true
  ids := ids.getD []
  allowedPluginTunerIds := query.allowedPluginTunerIds
  includeItemTypes := query.includeItemTypes
  excludeItemTypes := query.excludeItemTypes
  mediaTypes := query.mediaTypes
  containers := query.containers
  videoTypes := query.videoTypes
  audioLanguages := query.audioLanguages
  subtitleLanguages := query.subtitleLanguages
  genreIds := genreIds
  personIds := personIds
  studioIds := studioIds
  tags := tags
  officialRatings := query.officialRatings
  seriesStatuses := query.seriesStatus
  years := query.years
  locationTypes := query.locationTypes
  excludeLocationTypes := query.excludeLocationTypes
  searchTerm := query.searchTerm
  searchScope := .name
  hasSubtitles := tokenFlag query.hasSubtitles (catalogFilters query) "hassubtitles"
  hasTrailer := tokenFlag query.hasTrailer (catalogFilters query) "hastrailer"
  hasOverview := query.hasOverview
  hasImdbId := query.hasImdbId
  hasTmdbId := query.hasTmdbId
  hasTvdbId := query.hasTvdbId
  hasOfficialRating := query.hasOfficialRating
  isLocked := query.isLocked
  isHd := query.isHd
  is4k := query.is4k
  minWidth := query.minWidth
  maxWidth := query.maxWidth
  minHeight := query.minHeight
  maxHeight := query.maxHeight
  minCommunityRating := query.minCommunityRating
  maxCommunityRating := query.maxCommunityRating
  minCriticRating := query.minCriticRating
  maxCriticRating := query.maxCriticRating
  minPremiereDate := query.minPremiereDate.bind fmt.parseItemQueryDate
  maxPremiereDate := query.maxPremiereDate.bind fmt.parseItemQueryDate
  isMissing := query.isMissing
  isUnaired := query.isUnaired
  isFolder := query.isFolder.or (folderFilterValue (catalogFilters query))
  minDateCreated := query.minDateCreated.bind fmt.parseItemQueryDate
  maxDateCreated := query.maxDateCreated.bind fmt.parseItemQueryDate
  minDateLastSaved := query.minDateLastSaved.bind fmt.parseItemQueryDate
  maxDateLastSaved := query.maxDateLastSaved.bind fmt.parseItemQueryDate
  nameStartsWith := query.nameStartsWith
  nameStartsWithOrGreater := query.nameStartsWithOrGreater
  nameLessThan := query.nameLessThan
  userId := userId
  isPlayed := query.isPlayed.or (playedFilterValue (catalogFilters query))
  favorite := catalogFavorite query.isFavorite (catalogFilters query)
  isResumable := resumableFilterValue (catalogFilters query)
  sort := catalogSort query

def mediaCatalogQueryForItems (fmt : ItemFormats) (query : ItemsQuery) (userId : Option Uuid) :
    Except Failure (Option MediaItemCatalogQuery) := do
  let genreIds ← normalizedCatalogFilterValues query.genreIds "GenreIds"
  let personIds ← normalizedCatalogFilterValues query.personIds "PersonIds"
  let studioIds ← normalizedCatalogFilterValues query.studioIds "StudioIds"
  let tags ← normalizedCatalogFilterValues query.tags "Tags"
  match query.limit with
  | none => return none
  | some limit =>
    if isCatalogQuery query personIds then
      let ids ← traverseOption parseUuidList query.ids
      return some (catalogQueryOf fmt query userId limit ids genreIds personIds studioIds tags)
    else return none

end Jellyrin.Items
