import Jellyrin.Defs.Items.ListingRequests

/-! What the name and the path of an episode tell. -/

namespace Jellyrin.Items

open Api Ascii ClientIds Text

def parseDigits (digits : List Char) : Option Int :=
  (parseUnsigned (2 ^ 31 - 1) (String.ofList digits)).map Int.ofNat

def parseSeasonComponent (value : String) : Option Int :=
  let value := toAsciiLowercase (Json.trim value)
  ((stripPrefix value "season").or (stripPrefix value "series")).bind fun rest =>
    parseDigits ((Json.trim rest).toList.takeWhile Char.isDigit)

def sxeNumbersAt : List Char → Option (Option (Int × Int))
  | [] => none
  | s :: rest =>
    let season := rest.takeWhile Char.isDigit
    match rest.dropWhile Char.isDigit with
    | [] => none
    | e :: rest =>
      let episode := rest.takeWhile Char.isDigit
      if s.toLower ≠ 's' || season.isEmpty || e.toLower ≠ 'e' || episode.isEmpty then none
      else some ((parseDigits season).bind fun season =>
        (parseDigits episode).map fun episode => (season, episode))

def parseSxeNumbers (value : String) : Option (Int × Int) :=
  (value.toList.tails.findSome? sxeNumbersAt).join

def componentTexts (path : String) : List String :=
  let start := match split '/' path with
    | "" :: _ :: _ => ["/"]
    | "." :: _ => ["."]
    | _ => []
  start ++ pathComponents path

def rposition (p : String → Bool) (components : List String) : Option Nat :=
  (components.reverse.findIdx? p).map (components.length - 1 - ·)

def tvEpisodePathInfo (name path : String) : TvEpisodeInfo :=
  let components := (componentTexts path).dropLast
  let seasonComponentIndex := rposition (parseSeasonComponent · |>.isSome) components
  { seriesName :=
      ((((seasonComponentIndex.filter (1 ≤ ·)).bind fun index => components[index - 1]?).or
        components.getLast?)).getD name
    seasonNumber :=
      ((seasonComponentIndex.bind (components[·]?)).bind parseSeasonComponent).or
        ((parseSxeNumbers name).map (·.1))
    episodeNumber := (parseSxeNumbers name).map (·.2) }

def pathFormats : ItemFormats := { plainFormats with tvEpisodePathInfo }

example : tvEpisodePathInfo "S01E02 Pilot" "/tv/Show/Season 3/e.mkv" = ⟨"Show", some 3, some 2⟩ := by
  decide

example : tvEpisodePathInfo "Pilot" "plugin-vod://a1" = ⟨"plugin-vod:", none, none⟩ := by
  decide

/-! Seasons of a series, and the episodes that a season opens with. -/

open Metadata

structure TvSeasonSummary where
  id : Option String
  seasonNumber : Option Int
  episodeCount : Nat
  unplayedCount : Nat
  /-- The episodes that are counted. -/
  counted : List MediaItem
  deriving DecidableEq

structure TvSeasonItem where
  id : String
  name : String
  parentId : String
  indexNumber : Option Int
  childCount : Nat
  unplayedItemCount : Nat
  played : Bool
  /-- The episodes in `childCount`. -/
  counted : List MediaItem
  deriving DecidableEq

def TvSeasonSummary.new (seasonNumber : Option Int) : TvSeasonSummary := ⟨none, seasonNumber, 0, 0, []⟩

abbrev TvSeasons := BTreeMap (WithBot Int) TvSeasonSummary

section Seasons

variable (fmt : ItemFormats) (metadata : Uuid → Option Json)

def episodeSeasonNumber (episode : MediaItem) : Option Int :=
  (fmt.tvEpisodeInfoWithMetadata episode (metadata episode.id)).bind (·.seasonNumber)

def TvSeasonSummary.count (played : MediaItem → Bool) (summary : TvSeasonSummary)
    (episode : MediaItem) (id : Option String) : TvSeasonSummary where
  id
  seasonNumber := summary.seasonNumber
  episodeCount := summary.episodeCount + 1
  unplayedCount := if played episode then summary.unplayedCount else summary.unplayedCount + 1
  counted := summary.counted ++ [episode]

def TvSeasonSummary.addEpisode (played : MediaItem → Bool) (summary : TvSeasonSummary)
    (episode : MediaItem) : Except Panic TvSeasonSummary :=
  match summary.id with
  | some id => .ok (summary.count played episode (some id))
  | none =>
    (fmt.metadataUuid (metadata episode.id) "SeasonId").map (summary.count played episode)

def gatheredSeasons (played : MediaItem → Bool) (episodes : List MediaItem) :
    Except Panic TvSeasons :=
  gatherM (fun episode => (episodeSeasonNumber fmt metadata episode : WithBot Int))
    TvSeasonSummary.new (TvSeasonSummary.addEpisode fmt metadata played) episodes

/-- A series without numbers at all has one season, which is shown as the first. -/
def presentUnnumberedSeasonAsFirst (seasons : TvSeasons) (seriesName : String) : TvSeasons :=
  if HashMap.size seasons ≠ 1 then seasons
  else
    match seasons.lookup (none : Option Int) with
    | none => seasons
    | some summary =>
      -- Its episodes are still looked up without a number.
      AList.insert (some (1 : Int) : Option Int)
        { summary with
          id := some (summary.id.getD (ItemFormats.tvSeasonId seriesName none))
          seasonNumber := some 1 }
        (seasons.erase (none : Option Int))

def tvSeasonItem (seriesName seriesId : String) (summary : TvSeasonSummary) : TvSeasonItem where
  id := summary.id.getD (ItemFormats.tvSeasonId seriesName summary.seasonNumber)
  name := (summary.seasonNumber.map fun season => "Season " ++ toString season).getD
    "Season Unknown"
  parentId := seriesId
  indexNumber := summary.seasonNumber
  childCount := summary.episodeCount
  unplayedItemCount := summary.unplayedCount
  played := 0 < summary.episodeCount && summary.unplayedCount == 0
  counted := summary.counted

def seasonOrder (season : TvSeasonItem) : Int := season.indexNumber.getD (2 ^ 63 - 1)

def seasonsToItems (seasons : TvSeasons) (seriesName seriesId : String) : List TvSeasonItem :=
  sortBy (compareOn seasonOrder) <|
    (presentUnnumberedSeasonAsFirst seasons seriesName).values.map
      (tvSeasonItem seriesName seriesId)

def firstSeriesName (episodes : List MediaItem) : Option String :=
  episodes.findSome? fun episode =>
    (fmt.tvEpisodeInfoWithMetadata episode (metadata episode.id)).map (·.seriesName)

def firstSeriesId (episodes : List MediaItem) : Except Panic (Option String) :=
  episodes.findSomeM? fun episode => fmt.metadataUuid (metadata episode.id) "SeriesId"

end Seasons

section Result

variable (fmt : ItemFormats) (store : CatalogStore)

def seriesEpisodes (allowedTunerIds : Option (List String)) (seriesId : String) :
    Except Panic (List MediaItem) := do
  let (items, resolvedSeriesId) ← tvEpisodeCatalogSnapshotScopedToSeries fmt store seriesId
  (items.filter (isVisibleTo allowedTunerIds store.metadata)).filterM fun item =>
    fmt.tvEpisodeMatchesSeries item (store.metadata item.id) resolvedSeriesId

def isPlayed (requestedUserId : Uuid) (item : MediaItem) : Bool :=
  (store.playback requestedUserId item.id).any (·.played)

def seriesSeasonsResult (query : ItemsQuery) (seriesId : String) (requestedUserId : Uuid) :
    Except Failure (QueryResult TvSeasonItem) := do
  let episodes ← seriesEpisodes fmt store query.allowedPluginTunerIds seriesId
  match firstSeriesName fmt store.metadata episodes with
  | none => .error (.notFound "Series not found")
  | some seriesName =>
    let id ← firstSeriesId fmt store.metadata episodes
    let gathered ← gatheredSeasons fmt store.metadata (isPlayed store requestedUserId) episodes
    let seasons := seasonsToItems gathered seriesName
      (id.getD (ItemFormats.tvSeriesId seriesName))
    let startIndex := query.startIndex.getD 0
    return {
      items := match query.limit with
        | some limit => slice startIndex limit seasons
        | none => seasons.drop startIndex
      totalRecordCount := seasons.length
      startIndex }

end Result

end Jellyrin.Items
