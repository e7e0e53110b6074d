import Jellyrin.Defs.Data.FirstOfKey
import Jellyrin.Defs.Items.SeriesSeasons
import Jellyrin.Defs.TvProjection.SeriesPage

/-! The next episodes of a user, one of each series. -/

namespace Jellyrin.TvProjection

open Ascii Items

structure TvNextUpPage where
  items : List MediaItem
  totalRecordCount : Nat
  startIndex : Nat
  deriving DecidableEq

/-! Episodes as their names and paths tell them. -/

def isTvEpisode (item : MediaItem) : Bool := effectiveMediaItemType item == "Episode"

def tvEpisodeSeriesKey (item : MediaItem) : String :=
  if isTvEpisode item then toAsciiLowercase (tvEpisodePathInfo item.name item.path).seriesName
  else item.virtualFolderId.hyphenated

def pathInfo (item : MediaItem) : Option TvEpisodeInfo :=
  if isTvEpisode item then some (tvEpisodePathInfo item.name item.path) else none

def pathSeries (item : MediaItem) : String :=
  toAsciiLowercase (((pathInfo item).map (·.seriesName)).getD item.name)

def pathNumber (number : TvEpisodeInfo → Option Int) (item : MediaItem) : Int :=
  ((pathInfo item).bind number).getD lastNumber

def compareTvEpisodeItems : MediaItem → MediaItem → Ordering :=
  compareChain [compareOn pathSeries, compareOn (pathNumber (·.seasonNumber)),
    compareOn (pathNumber (·.episodeNumber)), compareNames] compareIds

def nextBySeries (episodes : List MediaItem) : BTreeMap String (Option MediaItem) :=
  gather tvEpisodeSeriesKey (fun _ => none) (keepFirst compareTvEpisodeItems) episodes

def candidateItem (member : TvSeriesMember) : MediaItem where
  id := member.itemId
  virtualFolderId := member.virtualFolderId
  name := member.itemName
  path := member.itemPath
  mediaType := "Video"
  collectionType := some "tvshows"
  bitrate := none
  width := none
  height := none
  mediaStreams := []
  createdAt := 0
  updatedAt := 0

def mediaItemsByIds (catalog : TvCatalog) (ids : List Uuid) : List MediaItem :=
  ids.filterMap fun id => (catalog.rows.find? fun row =>
    row.item.id == id && row.missingSince.isNone).map (·.item)

def saturated (n : Nat) : Nat := min n (2 ^ 63 - 1)

def unplayed (catalog : TvCatalog) (played : Uuid → Bool) : List TvSeriesMember :=
  catalog.tables.members.filter fun member => !played member.itemId

def affected (catalog : TvCatalog) (played : Uuid → Bool) (folder : Option Uuid)
    (series : TvSeriesRow) : Bool :=
  catalog.tables.members.any fun member => played member.itemId &&
    inScope folder member.virtualFolderId && member.seriesId == series.seriesId &&
      member.virtualFolderId == series.virtualFolderId

def completed (catalog : TvCatalog) (played : Uuid → Bool) (folder : Option Uuid)
    (series : TvSeriesRow) : Bool :=
  affected catalog played folder series && !catalog.tables.members.any fun candidate =>
    candidate.seriesId == series.seriesId &&
      candidate.virtualFolderId == series.virtualFolderId && !played candidate.itemId

def eligibleSeries (catalog : TvCatalog) (played : Uuid → Bool) (folder : Option Uuid) :
    List TvSeriesRow :=
  catalog.tables.series.filter fun series => 0 < series.episodeCount &&
    inScope folder series.virtualFolderId && !completed catalog played folder series

namespace Postgres

variable (pg : Postgres)

/-- `ORDER BY season_number, episode_number, sort_name, item_id`. -/
def compareMembers : TvSeriesMember → TvSeriesMember → Ordering :=
  compareChain [compareOn TvSeriesMember.seasonNumber, compareOn TvSeriesMember.episodeNumber,
    fun a b => pg.compare a.sortName b.sortName] (compareOn fun member => member.itemId.toNat)

/-- `ORDER BY lower(series_name), series_name, series_id, virtual_folder_id`. -/
def compareSeries : TvSeriesRow → TvSeriesRow → Ordering :=
  compareChain [fun a b => pg.compare (pg.lower a.seriesName) (pg.lower b.seriesName),
    fun a b => pg.compare a.seriesName b.seriesName,
    fun a b => pg.compare a.seriesId b.seriesId] (compareOn fun row => row.virtualFolderId.toNat)

def allCovered (catalog : TvCatalog) : Bool :=
  !catalog.folders.any fun folder => pg.isTvFolder folder && !catalog.tables.covered folder.id

def tvNextUpCandidateItems (catalog : TvCatalog) (played : Uuid → Bool) : List MediaItem :=
  if pg.allCovered catalog then
    (sortBy (fun a b => pg.compare a.seriesId b.seriesId)
      (firstOfKey (·.seriesId) pg.compareMembers (unplayed catalog played))).map candidateItem
  else
    let candidates := (catalog.rows.filter fun row =>
      row.missingSince.isNone && row.item.mediaType == "Video" &&
        row.item.collectionType == some "tvshows" && !played row.item.id).map (·.item)
    (nextBySeries (candidates.filter isTvEpisode)).values.filterMap id

def nextUpCovered (catalog : TvCatalog) (folder : Option Uuid) : Bool :=
  (!catalog.folders.any fun row => pg.isTvFolder row && inScope folder row.id &&
    !catalog.tables.covered row.id) &&
  !(groups (·.seriesId) (catalog.tables.series.filter fun row =>
    inScope folder row.virtualFolderId)).any fun group => 1 < group.2.length

def fallbackNextUpPage (catalog : TvCatalog) (played : Uuid → Bool) (folder : Option Uuid)
    (startIndex limit : Nat) (includeTotalRecordCount : Bool) : TvNextUpPage :=
  let items := sortBy compareTvEpisodeItems ((pg.tvNextUpCandidateItems catalog played).filter
    fun item => inScope folder item.virtualFolderId)
  { items := slice startIndex limit items
    totalRecordCount := if includeTotalRecordCount then items.length else 0
    startIndex }

def firstUnplayed (catalog : TvCatalog) (played : Uuid → Bool) (series : TvSeriesRow) :
    Option TvSeriesMember :=
  (sortBy pg.compareMembers (catalog.tables.members.filter fun member =>
    member.seriesId == series.seriesId && member.virtualFolderId == series.virtualFolderId &&
      !played member.itemId)).head?

def projectedNextUpPage (catalog : TvCatalog) (played : Uuid → Bool) (folder : Option Uuid)
    (startIndex limit : Nat) (includeTotalRecordCount : Bool) : TvNextUpPage :=
  if !includeTotalRecordCount then
    let series := sortBy pg.compareSeries (catalog.tables.series.filter fun series =>
      inScope folder series.virtualFolderId)
    { items := (slice (saturated startIndex) (saturated limit)
        (series.filterMap (pg.firstUnplayed catalog played))).map candidateItem
      totalRecordCount := 0
      startIndex }
  else
    let series := sortBy pg.compareSeries (eligibleSeries catalog played folder)
    { items := ((slice (saturated startIndex) (saturated limit) series).filterMap
        (pg.firstUnplayed catalog played)).map candidateItem
      totalRecordCount := (eligibleSeries catalog played folder).length
      startIndex }

def tvNextUpCandidatePage (catalog : TvCatalog) (played : Uuid → Bool) (folder : Option Uuid)
    (startIndex limit : Nat) (includeTotalRecordCount : Bool) : TvNextUpPage :=
  if pg.nextUpCovered catalog folder then
    pg.projectedNextUpPage catalog played folder startIndex limit includeTotalRecordCount
  else pg.fallbackNextUpPage catalog played folder startIndex limit includeTotalRecordCount

def showsNextUp (catalog : TvCatalog) (played : Uuid → Bool) (folder : Option Uuid)
    (startIndex limit : Option Nat) (includeTotalRecordCount : Bool) : TvNextUpPage :=
  match limit with
  | some limit =>
    let page := pg.tvNextUpCandidatePage catalog played folder (startIndex.getD 0) limit
      includeTotalRecordCount
    { page with items := mediaItemsByIds catalog (page.items.map (·.id)) }
  | none =>
    let episodes := pg.tvNextUpCandidateItems catalog played
    let nextUp := sortBy compareTvEpisodeItems
      ((nextBySeries (episodes.filter isTvEpisode)).values.filterMap id)
    { items := mediaItemsByIds catalog ((nextUp.drop (startIndex.getD 0)).map (·.id))
      totalRecordCount := nextUp.length
      startIndex := startIndex.getD 0 }

end Postgres

end Jellyrin.TvProjection
