import Jellyrin.Defs.Api.ApiError
import Jellyrin.Defs.Data.EntityId
import Jellyrin.Defs.Data.Text
import Mathlib.Data.List.Destutter
import Mathlib.Data.List.Sort

/-! The query of `/Items` and what its lists and tokens stand for. -/

namespace Jellyrin.Items

open Ascii Text

def mediaItemCatalogMaxPageSize : Nat := 500

structure VirtualFolder where
  id : Uuid
  name : String
  collectionType : Option String
  locations : List String

def VirtualFolder.isTvLibrary (folder : VirtualFolder) : Bool :=
  folder.collectionType.any (eqIgnoreAsciiCase · "tvshows")

structure ItemsQuery where
  userId : Option String := none
  ids : Option String := none
  parentId : Option String := none
  seasonId : Option String := none
  seriesId : Option String := none
  includeItemTypes : List String := []
  excludeItemTypes : List String := []
  mediaTypes : List String := []
  containers : List String := []
  videoTypes : List String := []
  audioLanguages : List String := []
  subtitleLanguages : List String := []
  personIds : List String := []
  genreIds : List String := []
  studioIds : List String := []
  officialRatings : List String := []
  tags : List String := []
  seriesStatus : List String := []
  years : List String := []
  searchTerm : Option String := none
  isPlayed : Option Bool := none
  isFavorite : Option Bool := none
  isAiring : Option Bool := none
  isFolder : Option Bool := none
  hasSubtitles : Option Bool := none
  hasTrailer : Option Bool := none
  hasOverview : Option Bool := none
  hasImdbId : Option Bool := none
  hasTmdbId : Option Bool := none
  hasTvdbId : Option Bool := none
  isHd : Option Bool := none
  is4k : Option Bool := none
  minWidth : Option Int := none
  maxWidth : Option Int := none
  minHeight : Option Int := none
  maxHeight : Option Int := none
  isMissing : Option Bool := none
  isUnaired : Option Bool := none
  hasOfficialRating : Option Bool := none
  isLocked : Option Bool := none
  /-- Ratings are kept by the bits of their `f64`. -/
  minCommunityRating : Option UInt64 := none
  maxCommunityRating : Option UInt64 := none
  minCriticRating : Option UInt64 := none
  maxCriticRating : Option UInt64 := none
  minPremiereDate : Option String := none
  maxPremiereDate : Option String := none
  minDateCreated : Option String := none
  maxDateCreated : Option String := none
  minDateLastSaved : Option String := none
  maxDateLastSaved : Option String := none
  filters : List String := []
  nameStartsWith : Option String := none
  nameStartsWithOrGreater : Option String := none
  nameLessThan : Option String := none
  recursive : Option Bool := none
  startIndex : Option Nat := none
  limit : Option Nat := none
  sortBy : Option String := none
  sortOrder : Option String := none
  fields : Option String := none
  enableImages : Option String := none
  enableUserData : Option String := none
  enableTotalRecordCount : Option String := none
  locationTypes : List String := []
  excludeLocationTypes : List String := []
  /-- Set by the handler: the tuners whose catalogues the user may see, if that is restricted. -/
  allowedPluginTunerIds : Option (List String) := none
  deriving DecidableEq

def ItemsQuery.withPage (query : ItemsQuery) (startIndex limit : Option Nat) : ItemsQuery :=
  { query with startIndex, limit }

@[simp] theorem ItemsQuery.withPage_startIndex (query : ItemsQuery) (startIndex limit : Option Nat) :
    (query.withPage startIndex limit).startIndex = startIndex := rfl

@[simp] theorem ItemsQuery.withPage_limit (query : ItemsQuery) (startIndex limit : Option Nat) :
    (query.withPage startIndex limit).limit = limit := rfl

def ItemsQuery.withTuners (query : ItemsQuery) (allowed : Option (List String)) : ItemsQuery :=
  { query with allowedPluginTunerIds := allowed }

@[simp] theorem ItemsQuery.withTuners_startIndex (query : ItemsQuery) (allowed : Option (List String)) :
    (query.withTuners allowed).startIndex = query.startIndex := rfl

@[simp] theorem ItemsQuery.withTuners_limit (query : ItemsQuery) (allowed : Option (List String)) :
    (query.withTuners allowed).limit = query.limit := rfl

@[simp] theorem ItemsQuery.withTuners_searchTerm (query : ItemsQuery)
    (allowed : Option (List String)) : (query.withTuners allowed).searchTerm = query.searchTerm := rfl

@[simp] theorem ItemsQuery.withTuners_allowedPluginTunerIds (query : ItemsQuery)
    (allowed : Option (List String)) :
    (query.withTuners allowed).allowedPluginTunerIds = allowed := rfl

def parseQueryBool (value : String) : Option Bool :=
  if toAsciiLowercase value = "true" then some true
  else if toAsciiLowercase value = "false" then some false
  else none

def queryFlag (value : Option String) : Option Bool := value.bind parseQueryBool

def csvValuesLowercase (values : List String) : Option (List String) :=
  let values := (((values.flatMap (split ',')).map Json.trim).filter (· ≠ "")).map toAsciiLowercase
  if values.isEmpty then none else some values

def sortDedup (values : List String) : List String :=
  (values.insertionSort (· ≤ ·)).destutter (· ≠ ·)

def normalizedPrefix (value : Option String) : Option String :=
  ((value.map Json.trim).filter (· ≠ "")).map toAsciiLowercase

def folderFilterValue (filters : List String) : Option Bool :=
  if filters.contains "isfolder" then some true
  else if filters.contains "isnotfolder" then some false
  else none

def playedFilterValue (filters : List String) : Option Bool :=
  if filters.contains "isplayed" then some true
  else if filters.contains "isunplayed" then some false
  else none

inductive FavoriteFilterMode where
  | favoriteOnly
  | favoriteOrLikes
  deriving DecidableEq

def favoriteFilterValue (filters : List String) : Option FavoriteFilterMode :=
  if filters.any fun filter => filter == "isfavoriteorlikes" || filter == "likes" then
    some .favoriteOrLikes
  else if filters.contains "isfavorite" then some .favoriteOnly
  else none

def resumableFilterValue (filters : List String) : Bool := filters.contains "isresumable"

def queryRequestsOnlyItemType (query : ItemsQuery) (itemType : String) : Bool :=
  match csvValuesLowercase query.includeItemTypes with
  | some [includeType] => eqIgnoreAsciiCase includeType itemType
  | _ => false

def isDescending (order : String) : Bool := eqIgnoreAsciiCase order "Descending"

def fastNameSearchQueryIsSimple (query : ItemsQuery) : Bool :=
  query.parentId.isNone && query.ids.isNone && query.seasonId.isNone && query.seriesId.isNone &&
    query.excludeItemTypes.isEmpty && query.mediaTypes.isEmpty && query.containers.isEmpty &&
    query.videoTypes.isEmpty && query.audioLanguages.isEmpty && query.subtitleLanguages.isEmpty &&
    query.personIds.isEmpty && query.genreIds.isEmpty && query.studioIds.isEmpty &&
    query.officialRatings.isEmpty && query.tags.isEmpty && query.seriesStatus.isEmpty &&
    query.years.isEmpty && query.filters.isEmpty && query.isPlayed.isNone &&
    query.isFavorite.isNone && query.isAiring.isNone && query.isFolder.isNone &&
    query.hasSubtitles.isNone && query.hasTrailer.isNone && query.hasOverview.isNone &&
    query.hasImdbId.isNone && query.hasTmdbId.isNone && query.hasTvdbId.isNone &&
    query.isHd.isNone && query.is4k.isNone && query.minWidth.isNone && query.maxWidth.isNone &&
    query.minHeight.isNone && query.maxHeight.isNone && query.isMissing.isNone &&
    query.isUnaired.isNone && query.hasOfficialRating.isNone && query.isLocked.isNone &&
    query.minCommunityRating.isNone && query.maxCommunityRating.isNone &&
    query.minCriticRating.isNone && query.maxCriticRating.isNone &&
    query.minPremiereDate.isNone && query.maxPremiereDate.isNone &&
    query.minDateCreated.isNone && query.maxDateCreated.isNone &&
    query.minDateLastSaved.isNone && query.maxDateLastSaved.isNone &&
    query.nameStartsWith.isNone && query.nameStartsWithOrGreater.isNone &&
    query.nameLessThan.isNone && query.locationTypes.isEmpty &&
    query.excludeLocationTypes.isEmpty && !query.sortOrder.any isDescending &&
    query.sortBy.all fun sortBy => (split ',' sortBy).all fun field =>
      toAsciiLowercase (Json.trim field) ∈ ["", "sortname", "name"]

end Jellyrin.Items
