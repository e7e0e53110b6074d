import Jellyrin.Defs.Xtream.LiveImport

/-! The movies and the episodes that are imported from a provider. -/

namespace Jellyrin.Xtream

open Ascii Json Text

structure RemoteMediaItemUpsert where
  id : String
  name : String
  path : String
  mediaType : String
  collectionType : String
  metadata : Json
  deriving DecidableEq

def xtreamScopedCatalogKey (tunerId legacyKey : String) : String :=
  if eqIgnoreAsciiCase tunerId xtreamPrimaryTunerId then legacyKey
  else tunerId ++ ":" ++ legacyKey

def pathCharacter (c : Char) : Char :=
  if c ∈ ['/', '\\', ':', '*', '?', '"', '<', '>', '|'] ∨ isControl c = true then ' ' else c

def splitWhitespace (cs : List Char) : List (List Char) :=
  (cs.splitOnP isWhitespace).filter (· ≠ [])

def xtreamPathSegment (value : String) : String :=
  let cleaned := [' '].intercalate (splitWhitespace (value.toList.map pathCharacter))
  if cleaned = [] then "Untitled" else String.ofList cleaned

def xtreamVirtualLibraryRoot (tunerId collection : String) : String :=
  if eqIgnoreAsciiCase tunerId xtreamPrimaryTunerId then "xtream://" ++ collection
  else "xtream://" ++ xtreamPathSegment tunerId ++ "/" ++ collection

def xtreamExtension (value : Json) (key default : String) : Option String :=
  match value.stringField key with
  | some value => sanitizedXtreamExtension value
  | none => sanitizedXtreamExtension default

def xtreamI64 (value : Json) (keys : List String) : Option Int :=
  keys.findSome? fun key =>
    match value.get key with
    | some (.number n) => if -2 ^ 63 ≤ n ∧ n < 2 ^ 63 then some n else none
    | some (.string text) => parseI64 (trim text)
    | _ => none

def isI32 (n : Int) : Bool := -2 ^ 31 ≤ n && n < 2 ^ 31

def xtreamI32 (value : Json) (keys : List String) : Option Int :=
  (xtreamI64 value keys).filter isI32

def categoryName (categories : List Json) (id : String) : Option String :=
  categories.reverse.findSome? fun category =>
    (category.stringField "Id").bind fun other =>
      (category.stringField "Name").bind fun name => if other = id then some name else none

def categoryGenres (categories : List Json) (item : Json) : List String :=
  ((itemCategoryId item).bind (categoryName categories)).toList

def texts (values : List String) : Json := .array (values.map .string)

section Items

variable {Url : Type} (crate : UrlCrate Url)

def vodMetadata (reference : XtreamRemoteSourceRef) (id streamId name : String)
    (categories : List Json) (stream : Json) : Json :=
  let imageUrl := ((stream.stringField "stream_icon").bind (safeXtreamImageUrl crate)).or
    ((stream.stringField "cover").bind (safeXtreamImageUrl crate))
  let metadata := Json.ofFields
    [("Provider", .string "xtream"), ("XtreamKind", .string "vod"),
      ("RemoteSourceRef", reference.toJson), ("XtreamStreamId", .string streamId),
      ("ProviderIds", Json.ofFields [("Xtream", .string streamId)]), ("Name", .string name),
      ("Genres", texts (categoryGenres categories stream)), ("Tags", texts ["Xtream Codes"]),
      ("PrimaryImageTag", .string (stableEntityId "xtream-vod-image" id))]
  let metadata := setIfSome "PrimaryImageUrl" imageUrl (setIfSome "ImageUrl" imageUrl metadata)
  let metadata := (xtreamI32 stream ["year", "releaseDate", "release_date"]).elim metadata
    fun year => metadata.set "ProductionYear" (.number year)
  setIfSome "Overview" ((stream.stringField "plot").or (stream.stringField "overview")) metadata

def parseVodStream (tunerId : String) (categories : List Json) (stream : Json) :
    Option RemoteMediaItemUpsert := do
  let streamId ← textOrNumberField stream "stream_id"
  if validXtreamIdentifier streamId = false then none
  else
    let name := (stream.stringField "name").getD streamId
    let extension ← xtreamExtension stream "container_extension" "mp4"
    let reference ← XtreamRemoteSourceRef.new tunerId "vod" streamId extension
    let id := stableEntityId "xtream-vod" (xtreamScopedCatalogKey tunerId streamId)
    some
      { id
        name
        path := xtreamVirtualLibraryRoot tunerId "movies" ++ "/" ++ xtreamPathSegment name ++ " [" ++
          xtreamPathSegment streamId ++ "]." ++ extension
        mediaType := "Video"
        collectionType := "movies"
        metadata := vodMetadata crate reference id streamId name categories stream }

def parseVodStreams (tunerId : String) (streams categories : List Json) :
    List RemoteMediaItemUpsert :=
  streams.filterMap (parseVodStream crate tunerId categories)

/-! The episodes of a series, each with the season it is listed under. -/

def xtreamEpisodeValues (info : Json) : List (Option Int × Json) :=
  match info.get "episodes" with
  | some (.array values) => values.map fun episode => (none, episode)
  | some (.object seasons) => seasons.flatMap fun (season, episodes) =>
      (episodes.asArray.getD []).map fun episode => ((parseI64 season).filter isI32, episode)
  | _ => []

def seriesEpisodeCount (info : Json) : Nat :=
  match info.get "episodes" with
  | some (.array values) => values.length
  | some (.object seasons) =>
    seasons.foldl (fun count season => count + (season.2.asArray.getD []).length) 0
  | _ => 0

def validSeriesEpisodePrefix (info : Json) (limit : Nat) : Bool :=
  ((xtreamEpisodeValues info).take limit).all fun entry =>
    (textOrNumberField entry.2 "id").any validXtreamIdentifier

structure SeriesContext where
  tunerId : String
  seriesId : String
  seriesName : String
  seriesStableId : String
  seriesImageUrl : Option String
  genres : List String
  seriesInfo : Json

def twoDigits (n : Int) : String :=
  if n < 0 then "-" ++ zeroPadded 1 n.natAbs else zeroPadded 2 n.natAbs

def seriesContext (jsonText : Json → String) (tunerId : String) (seriesItem info : Json)
    (categories : List Json) : SeriesContext :=
  let seriesId := (textOrNumberField seriesItem "series_id").getD
    (stableEntityId "xtream-series-missing-id" (jsonText seriesItem))
  let seriesInfo := (info.get "info").getD seriesItem
  { tunerId
    seriesId
    seriesName := ((seriesInfo.stringField "name").or (seriesItem.stringField "name")).getD
      ("Series " ++ seriesId)
    seriesStableId := stableEntityId "xtream-series" (xtreamScopedCatalogKey tunerId seriesId)
    seriesImageUrl := (((seriesInfo.stringField "cover").bind (safeXtreamImageUrl crate)).or
      ((seriesInfo.stringField "cover_big").bind (safeXtreamImageUrl crate))).or
        ((seriesItem.stringField "cover").bind (safeXtreamImageUrl crate))
    genres := categoryGenres categories seriesItem
    seriesInfo }

def episodeMetadata (series : SeriesContext) (reference : XtreamRemoteSourceRef)
    (id episodeId title : String) (seasonNumber episodeNumber : Int) (episode : Json) : Json :=
  let episodeInfo := (episode.get "info").getD episode
  let imageUrl := (((episodeInfo.stringField "movie_image").bind (safeXtreamImageUrl crate)).or
    ((episodeInfo.stringField "cover").bind (safeXtreamImageUrl crate))).or series.seriesImageUrl
  let metadata := Json.ofFields
    [("Provider", .string "xtream"), ("XtreamKind", .string "series-episode"),
      ("RemoteSourceRef", reference.toJson), ("XtreamSeriesId", .string series.seriesId),
      ("XtreamEpisodeId", .string episodeId),
      ("ProviderIds", Json.ofFields [("Xtream", .string episodeId)]),
      ("SeriesProviderIds", Json.ofFields [("Xtream", .string series.seriesId)]),
      ("Name", .string title), ("SeriesName", .string series.seriesName),
      ("SeriesId", .string series.seriesStableId),
      ("SeasonId", .string (stableEntityId "xtream-season" (xtreamScopedCatalogKey series.tunerId
        (series.seriesId ++ ":" ++ toString seasonNumber)))),
      ("ParentIndexNumber", .number seasonNumber), ("IndexNumber", .number episodeNumber),
      ("Genres", texts series.genres), ("Tags", texts ["Xtream Codes"]),
      ("PrimaryImageTag", .string (stableEntityId "xtream-episode-image" id)),
      ("SeriesPrimaryImageTag",
        .string (stableEntityId "xtream-series-image" series.seriesStableId))]
  let metadata := setIfSome "PrimaryImageUrl" imageUrl (setIfSome "ImageUrl" imageUrl metadata)
  let metadata := setIfSome "SeriesImageUrl" series.seriesImageUrl metadata
  let metadata := setIfSome "Overview"
    ((episodeInfo.stringField "plot").or (series.seriesInfo.stringField "plot")) metadata
  setIfSome "PremiereDate"
    ((episodeInfo.stringField "releasedate").or (episode.stringField "air_date")) metadata

def parseEpisode (series : SeriesContext) (count : Nat) (entry : Option Int × Json) :
    Option RemoteMediaItemUpsert := do
  let episode := entry.2
  let episodeId ← textOrNumberField episode "id"
  if validXtreamIdentifier episodeId = false then none
  else
    let episodeInfo := (episode.get "info").getD episode
    let numberKeys := ["episode_num", "episode_number", "num"]
    let episodeNumber := ((xtreamI32 episode numberKeys).or
      (xtreamI32 episodeInfo numberKeys)).getD (count + 1)
    let seasonNumber := ((xtreamI32 episode ["season", "season_number"]).or entry.1).getD 1
    let title := ((episode.stringField "title").or (episode.stringField "name")).getD
      ("Episode " ++ toString episodeNumber)
    let extension ← xtreamExtension episode "container_extension" "mp4"
    let reference ← XtreamRemoteSourceRef.new series.tunerId "series-episode" episodeId extension
    let id := stableEntityId "xtream-series-episode"
      (xtreamScopedCatalogKey series.tunerId (series.seriesId ++ ":" ++ episodeId))
    some
      { id
        name := title
        path := xtreamVirtualLibraryRoot series.tunerId "series" ++ "/" ++
          xtreamPathSegment series.seriesName ++ "/Season " ++ toString seasonNumber ++ "/S" ++
          twoDigits seasonNumber ++ "E" ++ twoDigits episodeNumber ++ " - " ++
          xtreamPathSegment title ++ " [" ++ xtreamPathSegment episodeId ++ "]." ++ extension
        mediaType := "Video"
        collectionType := "tvshows"
        metadata := episodeMetadata crate series reference id episodeId title seasonNumber
          episodeNumber episode }

def parseEpisodes (series : SeriesContext) (episodeLimit : Option Nat) :
    List RemoteMediaItemUpsert → List (Option Int × Json) → List RemoteMediaItemUpsert
  | episodes, [] => episodes
  | episodes, entry :: rest =>
    if episodeLimit.any (· ≤ episodes.length) then episodes
    else
      parseEpisodes series episodeLimit
        (episodes ++ (parseEpisode crate series episodes.length entry).toList) rest

def parseSeriesEpisodes (jsonText : Json → String) (tunerId : String) (seriesItem info : Json)
    (categories : List Json) (episodeLimit : Option Nat) : List RemoteMediaItemUpsert :=
  parseEpisodes crate (seriesContext crate jsonText tunerId seriesItem info categories) episodeLimit
    [] (xtreamEpisodeValues info)

end Items

end Jellyrin.Xtream
