import Jellyrin.Defs.Data.RowTable
import Jellyrin.Defs.Metadata.Facets
import Jellyrin.Defs.Metadata.QueryFilterProjection
import Mathlib.Data.Finset.Option

/-! The rows that the database derives from an item, and how its tables are brought in line. -/

namespace Jellyrin.Catalog

open Metadata

structure TextFormats where
  floatText : UInt64 → String
  parseRfc3339 : String → Option (Int × Int)
  /-- `lower` of the database. -/
  lower : String → String
  /-- The whole number that the text of a float writes, if it writes one. -/
  wholeFloat : UInt64 → Option Int
  /-- What a float has become when it is read from the database, which keeps decimals. -/
  storedFloat : UInt64 → Int ⊕ UInt64

/-- A document as the database compares it: its numbers are equal when their values are. -/
def TextFormats.jsonb (fmt : TextFormats) (value : Json) : Json :=
  value.mapFloats fun bits => (fmt.wholeFloat bits).elim (.float bits) .number

/-- A document as it is read after the database has kept it. -/
def TextFormats.stored (fmt : TextFormats) (value : Json) : Json :=
  value.mapFloats fun bits => (fmt.storedFloat bits).elim .number .float

/-- A row, with its documents as they were written. -/
structure MediaItemRow where
  virtualFolderId : Uuid
  name : String
  path : String
  mediaType : String
  collectionType : Option String
  missingSince : Option Int
  fileSize : Option Int
  modifiedAt : Option Int
  runtimeTicks : Option Int
  bitrate : Option Int
  width : Option Int
  height : Option Int
  mediaStreams : List Json
  metadata : Json
  deriving DecidableEq

structure FacetRow where
  kind : MediaItemFacetKind
  normalizedValue : String
  displayValue : String
  stableId : String
  position : Nat
  /-- As the database compares it. -/
  payload : Json
  deriving DecidableEq

def FacetRow.key (row : FacetRow) : MediaItemFacetKind × String := (row.kind, row.normalizedValue)

structure FacetAliasRow where
  kind : MediaItemFacetKind
  normalizedValue : String
  entityId : String
  deriving DecidableEq

def FacetAliasRow.owner (row : FacetAliasRow) : MediaItemFacetKind × String :=
  (row.kind, row.normalizedValue)

structure QueryFilterSourceRow where
  virtualFolderId : Uuid
  extractorVersion : Nat
  features : MediaItemQueryFilterProjectionFeatures
  projectedValueCount : Nat
  deriving DecidableEq

structure QueryFilterValue where
  kind : MediaItemQueryFilterValueKind
  displayValue : String
  sourceKey : String
  sourcePriority : Nat
  sourcePosition : String
  deriving DecidableEq

def QueryFilterValue.key (value : QueryFilterValue) :
    MediaItemQueryFilterValueKind × String × String :=
  (value.kind, value.sourceKey, value.sourcePosition)

structure QueryFilterValueRow where
  virtualFolderId : Uuid
  value : QueryFilterValue
  deriving DecidableEq

structure DerivedRows where
  facets : Finset FacetRow
  facetAliases : Finset FacetAliasRow
  genreSelectors : Finset String
  filterSelectors : Finset (MediaItemFilterSelectorKind × String)
  upcomingDates : Finset (Int × Int)
  querySources : Finset QueryFilterSourceRow
  queryValues : Finset QueryFilterValueRow
  deriving DecidableEq

def DerivedRows.empty : DerivedRows := ⟨∅, ∅, ∅, ∅, ∅, ∅, ∅⟩

variable (fmt : TextFormats)

def MediaItemRow.jsonb (item : MediaItemRow) : MediaItemRow :=
  { item with
    mediaStreams := item.mediaStreams.map fmt.jsonb
    metadata := fmt.jsonb item.metadata }

def MediaItemRow.stored (item : MediaItemRow) : MediaItemRow :=
  { item with
    mediaStreams := item.mediaStreams.map fmt.stored
    metadata := fmt.stored item.metadata }

/-! What the extractors give. -/

def facetRow (facet : ExtractedMediaItemFacet) : FacetRow where
  kind := facet.kind
  normalizedValue := facet.normalizedValue
  displayValue := facet.displayValue
  stableId := facet.stableId
  position := facet.position
  payload := fmt.jsonb facet.payload

def facetAliasRows (facet : ExtractedMediaItemFacet) : Finset FacetAliasRow :=
  facet.aliases.image (⟨facet.kind, facet.normalizedValue, ·⟩)

def extractedFacets (metadata : Json) : Finset FacetRow :=
  ((extractMediaItemFacets fmt.floatText metadata).map (facetRow fmt)).toFinset

def extractedAliases (metadata : Json) : Finset FacetAliasRow :=
  (extractMediaItemFacets fmt.floatText metadata).foldr (fun facet rows =>
    facetAliasRows facet ∪ rows) ∅

def projectionSource (item : MediaItemRow) : MediaItemQueryFilterProjectionSource where
  path := item.path
  mediaType := item.mediaType
  mediaStreams := item.mediaStreams
  metadata := item.metadata

def queryFilterValue (value : MediaItemQueryFilterProjectedValue) : QueryFilterValue where
  kind := value.kind
  displayValue := value.displayValue
  sourceKey := value.sourceKey
  sourcePriority := value.sourcePriority
  sourcePosition := encodeMediaItemQueryFilterPosition value.position

variable (projection : MediaItemQueryFilterProjection)

def querySourceRow (folderId : Uuid) : QueryFilterSourceRow where
  virtualFolderId := folderId
  extractorVersion := projection.extractorVersion
  features := projection.features
  projectedValueCount := projection.values.length

def projectedValues : Finset QueryFilterValue := (projection.values.map queryFilterValue).toFinset

def queryValueRows (folderId : Uuid) : Finset QueryFilterValueRow :=
  (projectedValues projection).image (⟨folderId, ·⟩)

def ValueKeysDistinct : Prop :=
  (projection.values.map fun value => (queryFilterValue value).key).Nodup

instance : Decidable (ValueKeysDistinct projection) :=
  inferInstanceAs (Decidable (List.Nodup _))

/-! The writers. -/

def deleteFacets (rows : DerivedRows) : DerivedRows :=
  { rows with facets := ∅, facetAliases := ∅ }

def replacePostgresMediaItemFacets (metadata : Json) (rows : DerivedRows) : DerivedRows :=
  { deleteFacets rows with
    facets := extractedFacets fmt metadata
    facetAliases := extractedAliases fmt metadata
    genreSelectors := extractMediaItemGenreSelectors fmt.floatText metadata
    filterSelectors := extractMediaItemFilterSelectors fmt.floatText metadata
    upcomingDates := (upcomingMediaItemPremiereParts fmt.parseRfc3339 metadata).toFinset }

def deleteQuerySource (rows : DerivedRows) : DerivedRows :=
  { rows with querySources := ∅, queryValues := ∅ }

def replacePostgresMediaItemQueryFilterProjection (folderId : Uuid) (rows : DerivedRows) :
    Option DerivedRows :=
  if ValueKeysDistinct projection then
    some { deleteQuerySource rows with
      querySources := {querySourceRow projection folderId}
      queryValues := queryValueRows projection folderId }
  else none

/-- What `jellyrin_reconcile_query_filter_summary_item` raises an exception for. -/
def ValidProjection : Prop :=
  0 < projection.extractorVersion ∧
    projection.features.containerPresent = projection.features.container.isSome ∧
    ValueKeysDistinct projection

instance : Decidable (ValidProjection projection) := inferInstanceAs (Decidable (_ ∧ _ ∧ _))

def oldProjectionMatches (folderId : Uuid) (rows : DerivedRows) : Bool :=
  querySourceRow projection folderId ∈ rows.querySources &&
    rows.queryValues.filter (·.virtualFolderId = folderId) = queryValueRows projection folderId

/-- `jellyrin_reconcile_query_filter_summary_item` on the rows of the item: a projection that is
not the old one is left alone. -/
def reconcileQueryFilterSummaryItem (folderId : Uuid) (old new : MediaItemQueryFilterProjection)
    (rows : DerivedRows) : Option DerivedRows :=
  if ValidProjection old ∧ ValidProjection new then
    if oldProjectionMatches old folderId rows then
      replacePostgresMediaItemQueryFilterProjection new folderId rows
    else some rows
  else none

def writtenProjection (item : MediaItemRow) : MediaItemQueryFilterProjection :=
  extractMediaItemQueryFilterProjection fmt.floatText (projectionSource item)

/-- `postgres_media_item_query_filter_projection_from_live`, of what is read of the row. -/
def mediaItemProjection (item : MediaItemRow) : MediaItemQueryFilterProjection :=
  writtenProjection fmt (item.stored fmt)

/-- The end of a point update, which began with a given projection of the item. -/
def finishMediaItemQueryFilterSummaryPointUpdate (item : MediaItemRow)
    (old : MediaItemQueryFilterProjection) (rows : DerivedRows) : Option DerivedRows :=
  let projection := mediaItemProjection fmt item
  if projection = old then some rows
  else reconcileQueryFilterSummaryItem item.virtualFolderId old projection rows

end Jellyrin.Catalog
