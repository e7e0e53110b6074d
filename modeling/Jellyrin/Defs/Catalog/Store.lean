import Jellyrin.Defs.Catalog.DerivedRows

/-! The catalogue, and the transactions that write one of its items. -/

namespace Jellyrin.Catalog

open Ascii Json Metadata

structure VirtualFolder where
  name : String
  collectionType : Option String
  locations : List String
  deriving DecidableEq

structure MediaInfo where
  runtimeTicks : Option Int
  bitrate : Option Int
  width : Option Int
  height : Option Int
  mediaStreams : List Json

structure PlaybackStateRow where
  userId : Uuid
  itemId : Uuid
  positionTicks : Int
  deriving DecidableEq

structure ListEntryRow where
  listId : Uuid
  itemId : Uuid
  deriving DecidableEq

/-- The tables of the catalogue, those that are derived from an item kept by item.  Playback states
and entries of lists are deleted with their item. -/
structure Catalogue where
  folders : HashMap Uuid VirtualFolder
  items : HashMap Uuid MediaItemRow
  derived : Uuid → DerivedRows
  playbackStates : Finset PlaybackStateRow
  listEntries : Finset ListEntryRow

def Catalogue.empty : Catalogue where
  folders := ∅
  items := ∅
  derived := fun _ => DerivedRows.empty
  playbackStates := ∅
  listEntries := ∅

variable (fmt : TextFormats)

def Catalogue.putItem (s : Catalogue) (id : Uuid) (item : MediaItemRow) (rows : DerivedRows) :
    Catalogue :=
  { s with items := s.items.insert id item, derived := Function.update s.derived id rows }

@[simp] theorem Catalogue.lookup_putItem (s : Catalogue) (id : Uuid) (item : MediaItemRow)
    (rows : DerivedRows) : (s.putItem id item rows).items.lookup id = some item :=
  AList.lookup_insert s.items

theorem Catalogue.lookup_putItem_of_ne (s : Catalogue) {id other : Uuid} (item : MediaItemRow)
    (rows : DerivedRows) (h : other ≠ id) :
    (s.putItem id item rows).items.lookup other = s.items.lookup other :=
  AList.lookup_insert_ne h

@[simp] theorem Catalogue.derived_putItem (s : Catalogue) (id : Uuid) (item : MediaItemRow)
    (rows : DerivedRows) : (s.putItem id item rows).derived id = rows := Function.update_self ..

theorem Catalogue.derived_putItem_of_ne (s : Catalogue) {id other : Uuid} (item : MediaItemRow)
    (rows : DerivedRows) (h : other ≠ id) :
    (s.putItem id item rows).derived other = s.derived other := Function.update_of_ne h ..

def pathIsTaken (items : HashMap Uuid MediaItemRow) (id : Uuid) (path : String) : Bool :=
  items.any fun other item => other ≠ id && item.missingSince.isNone && item.path = path

def MediaItemRow.withMediaInfo (item : MediaItemRow) (info : MediaInfo) : MediaItemRow :=
  { item with
    runtimeTicks := info.runtimeTicks
    bitrate := info.bitrate
    width := info.width
    height := info.height
    mediaStreams := info.mediaStreams }

def pointUpdatedRows (old item : MediaItemRow) (written : Option Json) (rows : DerivedRows) :
    Option DerivedRows :=
  let rows :=
    match written with
    | some metadata => replacePostgresMediaItemFacets fmt metadata rows
    | none => rows
  finishMediaItemQueryFilterSummaryPointUpdate fmt item (mediaItemProjection fmt old) rows

def updateMediaItemMediaInfo (id : Uuid) (info : MediaInfo) (s : Catalogue) : Option Catalogue := do
  let old ← s.items.lookup id
  let item := old.withMediaInfo info
  if item.jsonb fmt = old.jsonb fmt then return s
  let rows ← pointUpdatedRows fmt old item none (s.derived id)
  return s.putItem id item rows

/-- `update_media_item_metadata` and `update_media_item_metadata_json`: a document that is no
object fails the check of the column. -/
def updateMediaItemMetadata (id : Uuid) (metadata : Json) (s : Catalogue) : Option Catalogue := do
  let old ← s.items.lookup id
  if fmt.jsonb metadata = fmt.jsonb old.metadata then return s
  guard metadata.isObject
  let item := { old with metadata }
  let rows ← pointUpdatedRows fmt old item (some metadata) (s.derived id)
  return s.putItem id item rows

def updateMediaItemMediaInfoAndMetadata (id : Uuid) (info : MediaInfo) (metadata : Json)
    (s : Catalogue) : Option Catalogue := do
  let old ← s.items.lookup id
  let mediaInfoChanged : Bool := (old.withMediaInfo info).jsonb fmt ≠ old.jsonb fmt
  let metadataChanged : Bool := fmt.jsonb metadata ≠ fmt.jsonb old.metadata
  if !mediaInfoChanged && !metadataChanged then return s
  guard (!metadataChanged || metadata.isObject)
  let informed := if mediaInfoChanged then old.withMediaInfo info else old
  let written := if metadataChanged then some metadata else none
  let item := { informed with metadata := written.getD old.metadata }
  let rows ← pointUpdatedRows fmt old item written (s.derived id)
  return s.putItem id item rows

/-- `jsonb_set` of one field, and nothing else: no derived row is written. -/
def publishPluginVodRuntimeProbe (id : Uuid) (candidateRuntimeTicks : Option Int) (marker : Json)
    (s : Catalogue) : Option Catalogue := do
  let old ← s.items.lookup id
  guard old.metadata.isObject
  let item :=
    { old with
      runtimeTicks := if old.runtimeTicks.any (0 < ·) then old.runtimeTicks else candidateRuntimeTicks
      metadata := old.metadata.set "PluginVodMediaRuntimeProbe" marker }
  return s.putItem id item (s.derived id)

/-! The scan of local files. -/

def metadataLockData (metadata : Json) : Bool :=
  ((metadata.fieldCaseInsensitive "LockData").bind asBool).getD false

def metadataLockKey (value : String) : String :=
  String.ofList ((value.toList.filter Char.isAlphanum).map Char.toLower)

def lockedFieldAliases : String → List String
  | "overview" => ["plot", "shortoverview"]
  | "productionyear" => ["year"]
  | "premieredate" => ["premiered"]
  | "genres" => ["genre", "musicgenres"]
  | "studios" => ["studio"]
  | "people" => ["actors", "director", "directors"]
  | "providerids" => ["imdbid", "tmdbid", "tvdbid", "uniqueid"]
  | _ => []

def metadataLockedFields (metadata : Json) : List String :=
  (((metadata.fieldCaseInsensitive "LockedFields").bind asArray).getD []).filterMap asStr
    |>.flatMap fun field => metadataLockKey field :: lockedFieldAliases (metadataLockKey field)

def mergeScannedMetadata (current scanned : Json) : Json :=
  let current := if current.isObject then current else .object []
  if metadataLockData current then current
  else
    let locked := metadataLockedFields current
    (scanned.asObject.getD []).foldl (fun current (key, value) =>
      if metadataLockKey key ∈ locked then current else current.set key value) current

structure LocalMediaFile where
  name : String
  path : String
  mediaType : String
  fileSize : Option Int
  modifiedAt : Option Int
  info : MediaInfo
  metadata : Json

def scannedItem (folderId : Uuid) (folder : VirtualFolder) (file : LocalMediaFile)
    (metadata : Json) : MediaItemRow where
  virtualFolderId := folderId
  name := file.name
  path := file.path
  mediaType := file.mediaType
  collectionType := folder.collectionType
  missingSince := none
  fileSize := file.fileSize
  modifiedAt := file.modifiedAt
  runtimeTicks := file.info.runtimeTicks
  bitrate := file.info.bitrate
  width := file.info.width
  height := file.info.height
  mediaStreams := file.info.mediaStreams
  metadata

def invalidateQueryFilterProjection (old : Option MediaItemRow) (item : MediaItemRow)
    (rows : DerivedRows) : DerivedRows :=
  match old with
  | some old =>
    if old.path = item.path ∧ old.virtualFolderId = item.virtualFolderId ∧
        old.mediaType = item.mediaType then rows
    else deleteQuerySource rows
  | none => rows

/-- The transaction of a scan.  The identifier, the folder and the current document were read
before it began, so that other transactions may have come in between. -/
def postgresUpsertLocalMediaItem (id folderId : Uuid) (folder : VirtualFolder)
    (file : LocalMediaFile) (current : Json) (s : Catalogue) : Option Catalogue := do
  let metadata := mergeScannedMetadata current file.metadata
  let item := scannedItem folderId folder file metadata
  guard (folderId ∈ s.folders)
  guard (!pathIsTaken s.items id item.path)
  let rows := invalidateQueryFilterProjection (s.items.lookup id) item (s.derived id)
  let rows := replacePostgresMediaItemFacets fmt metadata rows
  let rows ← replacePostgresMediaItemQueryFilterProjection (writtenProjection fmt item) folderId rows
  return s.putItem id item rows

end Jellyrin.Catalog
