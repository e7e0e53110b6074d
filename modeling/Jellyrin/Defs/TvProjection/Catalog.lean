import Jellyrin.Defs.Data.Collation
import Jellyrin.Defs.Data.Rows
import Jellyrin.Defs.Items.MediaItem

/-! The rows of the media items, and the series and episodes that are kept of them folder by
folder. -/

namespace Jellyrin.TvProjection

open Items

def tvSeriesCatalogProjectionVersion : Nat := 3

structure Postgres extends Collation where
  jsonText : Json → String

structure MediaItemRow where
  item : MediaItem
  metadata : Json
  missingSince : Option Int
  deriving DecidableEq

structure TvSeriesRow where
  virtualFolderId : Uuid
  seriesId : String
  seriesName : String
  episodeCount : Nat
  deriving DecidableEq

structure TvSeriesMember where
  itemId : Uuid
  virtualFolderId : Uuid
  seriesId : String
  seasonNumber : Int
  episodeNumber : Int
  sortName : String
  itemName : String
  itemPath : String
  deriving DecidableEq

structure TvSeriesCoverage where
  virtualFolderId : Uuid
  projectionVersion : Nat
  episodeCount : Nat
  seriesCount : Nat
  deriving DecidableEq

structure TvTables where
  coverage : List TvSeriesCoverage
  series : List TvSeriesRow
  members : List TvSeriesMember
  deriving DecidableEq

namespace TvTables

def ofFolder (tables : TvTables) (folder : Uuid) : TvTables where
  coverage := tables.coverage.filter (·.virtualFolderId == folder)
  series := tables.series.filter (·.virtualFolderId == folder)
  members := tables.members.filter (·.virtualFolderId == folder)

def delete (tables : TvTables) (folder : Uuid) : TvTables where
  coverage := tables.coverage.filter (·.virtualFolderId != folder)
  series := tables.series.filter (·.virtualFolderId != folder)
  members := tables.members.filter (·.virtualFolderId != folder)

def covered (tables : TvTables) (folder : Uuid) : Bool :=
  tables.coverage.any fun row =>
    row.virtualFolderId == folder && row.projectionVersion == tvSeriesCatalogProjectionVersion

def Keyed (tables : TvTables) : Prop :=
  (tables.coverage.map (·.virtualFolderId)).Nodup ∧
    (tables.series.map fun row => (row.virtualFolderId, row.seriesId)).Nodup ∧
    (tables.members.map (·.itemId)).Nodup

instance (tables : TvTables) : Decidable tables.Keyed := inferInstanceAs (Decidable (_ ∧ _ ∧ _))

end TvTables

inductive DbError where
  | notNullViolation
  | uniqueViolation
  | integerOutOfRange
  /-- A number of the request does not fit a `bigint`. -/
  | tryFromInt
  deriving DecidableEq

def notNull {α : Type} : Option α → Except DbError α
  | none => .error .notNullViolation
  | some value => .ok value

def isTvType (collectionType : String) : Bool :=
  ["tvshows", "tvshow", "series"].contains collectionType

def isCanonicalId (seriesId : String) : Bool :=
  seriesId.toList.length == 32 &&
    seriesId.toList.all fun c => c.isDigit || ('a' ≤ c && c ≤ 'f')

namespace Postgres

variable (pg : Postgres)

def arrow (metadata : Json) (key : String) : Option String :=
  match metadata.get key with
  | none => none
  | some .null => none
  | some (.string text) => some text
  | some value => some (pg.jsonText value)

def isTvFolder (folder : VirtualFolder) : Bool :=
  isTvType (pg.lower (folder.collectionType.getD ""))

def isTvRow (row : MediaItemRow) : Bool :=
  row.missingSince.isNone && row.item.collectionType.any fun collectionType =>
    isTvType (pg.lower collectionType)

def isEpisode (row : MediaItemRow) : Bool := pg.isTvRow row && row.item.mediaType == "Video"

def isAnchor (row : MediaItemRow) : Bool :=
  pg.isTvRow row && row.item.mediaType == "Series" &&
    pg.lower ((pg.arrow row.metadata "PluginVodKind").getD "") == "series"

def isSource (row : MediaItemRow) : Bool := pg.isEpisode row || pg.isAnchor row

def seriesId (row : MediaItemRow) : Option String := (pg.arrow row.metadata "SeriesId").map btrim

def seriesName (row : MediaItemRow) : Option String :=
  (pg.arrow row.metadata "SeriesName").map btrim

def isInvalid (row : MediaItemRow) : Bool :=
  ((pg.seriesId row).filter (· ≠ "")).isNone || (pg.seriesId row).any (!isCanonicalId ·) ||
    ((pg.seriesName row).filter (· ≠ "")).isNone

def anchorName (rows : List MediaItemRow) : Option String :=
  minOf pg.compare ((rows.filter (·.item.mediaType == "Series")).filterMap pg.seriesName)

def firstName (rows : List MediaItemRow) : Option String :=
  (pg.anchorName rows).or (minOf pg.compare (rows.filterMap pg.seriesName))

def episodeNumber (metadata : Json) (key : String) : Except DbError Int :=
  match pg.arrow metadata key with
  | none => .ok lastNumber
  | some text =>
    if btrim text ≠ "" ∧ (btrim text).toList.all Char.isDigit = true then
      match Text.parseUnsigned (2 ^ 31 - 1) (btrim text) with
      | none => .error .integerOutOfRange
      | some number => .ok number
    else .ok lastNumber

/-! The projection of a folder. -/

def folderSources (rows : List MediaItemRow) (folder : Uuid) : List MediaItemRow :=
  rows.filter fun row => row.item.virtualFolderId == folder && pg.isSource row

def folderEpisodes (rows : List MediaItemRow) (folder : Uuid) : List MediaItemRow :=
  rows.filter fun row => row.item.virtualFolderId == folder && pg.isEpisode row

def eligible (folders : List VirtualFolder) (rows : List MediaItemRow) (folder : Uuid) : Bool :=
  folders.any (fun row => row.id == folder && pg.isTvFolder row) &&
    (!(pg.folderSources rows folder).any pg.isInvalid) &&
    !(groups pg.seriesId (pg.folderSources rows folder)).any fun group =>
      group.2.countP pg.isAnchor == 0 && 1 < (group.2.filterMap pg.seriesName).dedup.length

def seriesRow (folder : Uuid) (group : Option String × List MediaItemRow) :
    Except DbError TvSeriesRow := do
  let seriesId ← notNull group.1
  let seriesName ← notNull (pg.firstName group.2)
  .ok
    { virtualFolderId := folder
      seriesId
      seriesName
      episodeCount := group.2.countP (·.item.mediaType == "Video") }

def memberRow (row : MediaItemRow) : Except DbError TvSeriesMember := do
  let seasonNumber ← pg.episodeNumber row.metadata "ParentIndexNumber"
  let episodeNumber ← pg.episodeNumber row.metadata "IndexNumber"
  let seriesId ← notNull (pg.seriesId row)
  .ok
    { itemId := row.item.id
      virtualFolderId := row.item.virtualFolderId
      seriesId
      seasonNumber
      episodeNumber
      sortName := pg.lower row.item.name
      itemName := row.item.name
      itemPath := row.item.path }

/-- The answer tells whether the folder is covered; the tables come with it. -/
def rebuildTvSeriesCatalogProjection (folders : List VirtualFolder) (rows : List MediaItemRow)
    (tables : TvTables) (folder : Uuid) : Except DbError (Bool × TvTables) :=
  let tables := tables.delete folder
  if pg.eligible folders rows folder then do
    let series ← (groups pg.seriesId (pg.folderSources rows folder)).mapM (pg.seriesRow folder)
    let members ← (pg.folderEpisodes rows folder).mapM pg.memberRow
    let rebuilt : TvTables :=
      { coverage := tables.coverage ++
          [⟨folder, tvSeriesCatalogProjectionVersion, members.length, series.length⟩]
        series := tables.series ++ series
        members := tables.members ++ members }
    if rebuilt.Keyed then .ok (true, rebuilt) else .error .uniqueViolation
  else .ok (false, tables)

end Postgres

structure TvCatalog where
  folders : List VirtualFolder
  rows : List MediaItemRow
  tables : TvTables
  distinct : (rows.map (·.item.id)).Nodup
  inFolders : ∀ row ∈ rows, row.item.virtualFolderId ∈ folders.map (·.id)
  distinctFolders : (folders.map (·.id)).Nodup
  keyed : tables.Keyed

/-- The rows of every covered folder are those that a rebuild makes of the present items. -/
def UpToDate (pg : Postgres) (catalog : TvCatalog) : Prop :=
  ∀ folder, catalog.tables.covered folder = true →
    ∃ before after, pg.rebuildTvSeriesCatalogProjection catalog.folders catalog.rows before folder =
      .ok (true, after) ∧ catalog.tables.ofFolder folder = after.ofFolder folder

end Jellyrin.TvProjection
