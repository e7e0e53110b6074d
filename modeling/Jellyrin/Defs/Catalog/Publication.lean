import Jellyrin.Defs.Catalog.Store
import Jellyrin.Defs.Data.Paging
import Mathlib.Algebra.BigOperators.Group.Finset.Defs

/-! The publication of a provider's library: the stage that is read, and the merge into a folder. -/

namespace Jellyrin.Catalog

open Ascii Json Metadata

def remoteMediaCatalogStageMaxAppendItems : Nat := 1000

def remoteMediaCatalogStageMaxLibraryItems : Nat := 1000000

structure RemoteMediaItemUpsert where
  id : String
  name : String
  path : String
  mediaType : String
  collectionType : String
  info : MediaInfo
  metadata : Json

structure PreparedRemoteMediaItem where
  id : Uuid
  name : String
  path : String
  mediaType : String
  collectionType : String
  runtimeTicks : Option Int
  bitrate : Option Int
  width : Option Int
  height : Option Int
  mediaStreams : List Json
  metadata : Json
  deriving DecidableEq

def RemoteMediaItemUpsert.prepare (item : RemoteMediaItemUpsert) : Option PreparedRemoteMediaItem :=
  (Uuid.parseStr (trim item.id)).map fun id =>
    { id
      name := trim item.name
      path := trim item.path
      mediaType := trim item.mediaType
      collectionType := trim item.collectionType
      runtimeTicks := item.info.runtimeTicks
      bitrate := item.info.bitrate
      width := item.info.width
      height := item.info.height
      mediaStreams := item.info.mediaStreams
      metadata := item.metadata }

variable (fmt : TextFormats)

/-! The stage: items, and the rows that were extracted from them. -/

structure StagedSource where
  features : MediaItemQueryFilterProjectionFeatures
  projectedValueCount : Nat
  deriving DecidableEq

structure StageRows where
  facets : Finset (Uuid × FacetRow)
  facetAliases : Finset (Uuid × FacetAliasRow)
  genreSelectors : Finset (Uuid × String)
  filterSelectors : Finset (Uuid × MediaItemFilterSelectorKind × String)
  upcomingDates : Finset (Uuid × Int × Int)
  querySources : Finset (Uuid × StagedSource)
  queryValues : Finset (Uuid × QueryFilterValue)

structure StageTables where
  items : List PreparedRemoteMediaItem
  rows : StageRows

def StageRows.empty : StageRows := ⟨∅, ∅, ∅, ∅, ∅, ∅, ∅⟩

def StageRows.insert (rows added : StageRows) : StageRows where
  facets := rows.facets ∪ added.facets
  facetAliases := rows.facetAliases ∪ added.facetAliases
  genreSelectors := rows.genreSelectors ∪ added.genreSelectors
  filterSelectors := rows.filterSelectors ∪ added.filterSelectors
  upcomingDates := rows.upcomingDates ∪ added.upcomingDates
  querySources := rows.querySources ∪ added.querySources
  queryValues := rows.queryValues ∪ added.queryValues

section Rows

variable {R : Type} [DecidableEq R]

def rowsOfItems (rows : PreparedRemoteMediaItem → Finset R) (items : List PreparedRemoteMediaItem) :
    Finset (Uuid × R) :=
  items.toFinset.biUnion fun item => (rows item).image (item.id, ·)

def rowsOfItem (id : Uuid) (table : Finset (Uuid × R)) : Finset R :=
  (table.filter (·.1 = id)).image Prod.snd

end Rows

def preparedProjection (item : PreparedRemoteMediaItem) : MediaItemQueryFilterProjection :=
  extractMediaItemQueryFilterProjection fmt.floatText
    { path := item.path
      mediaType := item.mediaType
      mediaStreams := item.mediaStreams
      metadata := item.metadata }

def stagedSource (item : PreparedRemoteMediaItem) : StagedSource where
  features := (preparedProjection fmt item).features
  projectedValueCount := (preparedProjection fmt item).values.length

def extractStageRows (items : List PreparedRemoteMediaItem) : StageRows where
  facets := rowsOfItems (fun item => extractedFacets fmt item.metadata) items
  facetAliases := rowsOfItems (fun item => extractedAliases fmt item.metadata) items
  genreSelectors :=
    rowsOfItems (fun item => extractMediaItemGenreSelectors fmt.floatText item.metadata) items
  filterSelectors :=
    rowsOfItems (fun item => extractMediaItemFilterSelectors fmt.floatText item.metadata) items
  upcomingDates :=
    rowsOfItems (fun item =>
      (upcomingMediaItemPremiereParts fmt.parseRfc3339 item.metadata).toFinset) items
  querySources := rowsOfItems (fun item => {stagedSource fmt item}) items
  queryValues := rowsOfItems (fun item => projectedValues (preparedProjection fmt item)) items

def StageKeysDistinct (items : List PreparedRemoteMediaItem) : Prop :=
  (items.map (·.id)).Nodup ∧ (items.map (·.path)).Nodup

instance (items : List PreparedRemoteMediaItem) : Decidable (StageKeysDistinct items) :=
  inferInstanceAs (Decidable (_ ∧ _))

/-! The publication of a stage into a folder. -/

def jsonConcat (old new : Json) : Json :=
  (new.asObject.getD []).foldl (fun merged (key, value) => merged.set key value) old

def hasCompleteVodInfo (metadata : Json) : Bool :=
  (metadata.get "XtreamKind").bind asStr = some "vod" &&
    ((metadata.get "XtreamVodInfo").bind (·.get "Status")).bind asStr = some "Complete"

def mergedMetadata (old new : Json) : Json :=
  if hasCompleteVodInfo old && (new.get "XtreamVodInfo").isNone then jsonConcat old new else new

variable (folderId : Uuid)

def stagedRow (staged : PreparedRemoteMediaItem) : MediaItemRow where
  virtualFolderId := folderId
  name := staged.name
  path := staged.path
  mediaType := staged.mediaType
  collectionType := some staged.collectionType
  missingSince := none
  fileSize := none
  modifiedAt := none
  runtimeTicks := staged.runtimeTicks
  bitrate := staged.bitrate
  width := staged.width
  height := staged.height
  mediaStreams := staged.mediaStreams
  metadata := staged.metadata

/-- The columns that a publication compares are as they would be written. -/
def isPublished (merged old : MediaItemRow) : Bool :=
  old.missingSince.isNone &&
    { merged with fileSize := old.fileSize, modifiedAt := old.modifiedAt }.jsonb fmt = old.jsonb fmt

/-- `ON CONFLICT (id) DO UPDATE`, which leaves a row alone that is visible and has these columns. -/
def mergedRow (staged : PreparedRemoteMediaItem) (old : MediaItemRow) : MediaItemRow :=
  let merged :=
    { stagedRow folderId staged with metadata := mergedMetadata old.metadata staged.metadata }
  if isPublished fmt merged old then old else merged

def publishedRow (staged : PreparedRemoteMediaItem) (old : Option MediaItemRow) : MediaItemRow :=
  old.elim (stagedRow folderId staged) (mergedRow fmt folderId staged)

variable (stage : StageTables)

def StageTables.hasItem (id : Uuid) : Bool := stage.items.any (·.id = id)

def ownedByAnotherFolder (items : HashMap Uuid MediaItemRow) : Bool :=
  items.any fun id item => item.virtualFolderId ≠ folderId &&
    stage.items.any fun staged => staged.id = id || staged.path = item.path

/-- An item goes when its identifier is not staged, or its path is for another one. -/
def isTombstoned (id : Uuid) (item : MediaItemRow) : Bool :=
  item.virtualFolderId = folderId &&
    (!stage.hasItem id || stage.items.any fun staged => staged.path = item.path && staged.id ≠ id)

def tombstoneItems (now : Int) (items : HashMap Uuid MediaItemRow) : HashMap Uuid MediaItemRow :=
  items.mapEntries fun id item =>
    if isTombstoned folderId stage id item then
      { item with missingSince := item.missingSince.or (some now) }
    else item

def mergeStagedItem (s : Catalogue) (staged : PreparedRemoteMediaItem) : Option Catalogue :=
  let old := s.items.lookup staged.id
  let item := publishedRow fmt folderId staged old
  let rows := invalidateQueryFilterProjection old item (s.derived staged.id)
  if staged.metadata.isObject && !pathIsTaken s.items staged.id staged.path then
    some (s.putItem staged.id item rows)
  else none

def publishedSourceRow (source : StagedSource) : QueryFilterSourceRow where
  virtualFolderId := folderId
  extractorVersion := mediaItemQueryFilterProjectionVersion
  features := source.features
  projectedValueCount := source.projectedValueCount

/-- The derived rows of a staged item are brought in line with the staged ones. -/
def publishedRows (id : Uuid) (rows : DerivedRows) : DerivedRows :=
  let facets := rowsOfItem id stage.rows.facets
  let facetAliases := rowsOfItem id stage.rows.facetAliases
  let genreSelectors := rowsOfItem id stage.rows.genreSelectors
  let filterSelectors := rowsOfItem id stage.rows.filterSelectors
  let upcomingDates := rowsOfItem id stage.rows.upcomingDates
  let querySources := (rowsOfItem id stage.rows.querySources).image (publishedSourceRow folderId)
  let queryValues := (rowsOfItem id stage.rows.queryValues).image (⟨folderId, ·⟩)
  let keptAliases := Table.keepKeys (fun row => row) facetAliases rows.facetAliases
  let keptFacets := Table.keepKeys FacetRow.key facets rows.facets
  { facets := Table.upsert FacetRow.key facets keptFacets
    facetAliases := Table.upsert (fun row => row) facetAliases
      (Table.cascade FacetRow.key FacetAliasRow.owner keptFacets keptAliases)
    genreSelectors := Table.upsert (fun row => row) genreSelectors
      (Table.keepKeys (fun row => row) genreSelectors rows.genreSelectors)
    filterSelectors := Table.upsert (fun row => row) filterSelectors
      (Table.keepKeys (fun row => row) filterSelectors rows.filterSelectors)
    upcomingDates := Table.upsert (fun _ => ()) upcomingDates
      (Table.keepKeys (fun _ => ()) upcomingDates rows.upcomingDates)
    querySources := Table.upsert (fun _ => ()) querySources rows.querySources
    queryValues := Table.upsert (·.value.key) queryValues
      (Table.keepKeys (·.value.key) queryValues rows.queryValues) }

def PublicationIsComplete (derived : Uuid → DerivedRows) : Prop :=
  ∀ staged ∈ stage.rows.querySources,
    (∃ source ∈ (derived staged.1).querySources, source.virtualFolderId = folderId ∧
      source.extractorVersion = mediaItemQueryFilterProjectionVersion ∧
      source.projectedValueCount = staged.2.projectedValueCount) ∧
    ((derived staged.1).queryValues.filter (·.virtualFolderId = folderId)).card =
      staged.2.projectedValueCount

instance (derived : Uuid → DerivedRows) : Decidable (PublicationIsComplete folderId stage derived) :=
  inferInstanceAs (Decidable (∀ staged ∈ stage.rows.querySources, _))

def publishPreparedRemoteMediaLibraryStage (now : Int) (s : Catalogue) : Option Catalogue := do
  guard (!ownedByAnotherFolder folderId stage s.items)
  let s := { s with items := tombstoneItems folderId stage now s.items }
  let s ← stage.items.foldlM (mergeStagedItem fmt folderId) s
  let derived := fun id =>
    if stage.hasItem id then publishedRows folderId stage id (s.derived id) else s.derived id
  guard (PublicationIsComplete folderId stage derived)
  return { s with derived }

end Jellyrin.Catalog
