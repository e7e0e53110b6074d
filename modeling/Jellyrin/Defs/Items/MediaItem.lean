import Jellyrin.Defs.Data.JsonFields
import Jellyrin.Defs.Data.SortBy
import Jellyrin.Defs.Items.ItemsQuery
import Jellyrin.Defs.Metadata.Selectors

/-! The items of the catalogue and what is told from them. -/

namespace Jellyrin.Items

open Ascii Text Metadata

structure MediaItem where
  id : Uuid
  virtualFolderId : Uuid
  name : String
  path : String
  mediaType : String
  collectionType : Option String
  bitrate : Option Int
  width : Option Int
  height : Option Int
  mediaStreams : List Json
  createdAt : Int
  updatedAt : Int
  deriving DecidableEq

structure PlaybackState where
  positionTicks : Int
  played : Bool
  isFavorite : Bool
  /-- The bits of an `f64`. -/
  rating : Option UInt64
  updatedAt : Int
  deriving DecidableEq

structure TvEpisodeInfo where
  seriesName : String
  seasonNumber : Option Int
  episodeNumber : Option Int
  deriving DecidableEq

structure ItemFormats where
  floatText : UInt64 → String
  /-- `str::to_lowercase`. -/
  toLowercase : String → String
  parseItemQueryDate : String → Option Int
  /-- `as_f64` of a number, `str::parse` of a text. -/
  asF64 : Json → Option UInt64
  /-- `<=` of `f64`. -/
  f64Le : UInt64 → UInt64 → Bool
  /-- The order in which the database sorts numbers. -/
  compareF64 : UInt64 → UInt64 → Ordering
  compareF64_trans : Std.TransCmp compareF64
  /-- `media_item_streams`: the streams with their texts completed. -/
  mediaItemStreams : MediaItem → List Json
  mediaItemStreams_id : ∀ item id, mediaItemStreams { item with id } = mediaItemStreams item
  /-- What the name and the path of an episode tell. -/
  tvEpisodePathInfo : String → String → TvEpisodeInfo

instance (fmt : ItemFormats) : Std.TransCmp fmt.compareF64 := fmt.compareF64_trans

/-- What the database keeps besides the items: the playback states by user and item. -/
structure ItemStore where
  folders : List VirtualFolder
  metadata : Uuid → Option Json
  playback : Uuid → Uuid → Option PlaybackState

/-- Items have identifiers of their own and belong to folders; they are in the order in which the
repository lists them. -/
structure CatalogStore extends ItemStore where
  items : List MediaItem
  userConfiguration : Uuid → Option Json
  distinct : (items.map (·.id)).Nodup
  inFolders : ∀ item ∈ items, item.virtualFolderId ∈ folders.map (·.id)

/-! Paths. -/

def pathComponents (path : String) : List String :=
  (split '/' path).filter fun component => component ≠ "" && component ≠ "."

def pathExtension (path : String) : Option String := do
  let fileName ← ((pathComponents path).getLast?).filter (· ≠ "..")
  let afterDot := fileName.toList.rtakeWhile (· ≠ '.')
  let stem := fileName.toList.rdropWhile (· ≠ '.')
  if stem.length ≤ 1 then none else some (String.ofList afterDot)

def mediaItemContainer (item : MediaItem) : Option String :=
  (pathExtension item.path).map toAsciiLowercase

def tvExtraDirectories : List String :=
  ["extras", "featurettes", "special features", "behind the scenes", "deleted scenes",
    "interviews", "trailers"]

def isTvExtraMediaItem (item : MediaItem) : Bool :=
  (pathComponents ((stripPrefix item.path "file://").getD item.path)).dropLast.any fun component =>
    tvExtraDirectories.contains (toAsciiLowercase (Json.trim component))

def isPluginVodVirtualItem (item : MediaItem) : Bool := startsWith item.path "plugin-vod://"

/-! Types. -/

def isTvCollection (collectionType : Option String) : Bool :=
  collectionType.any fun kind => ["tvshows", "tvshow", "series"].contains kind

def effectiveMediaItemType (item : MediaItem) : String :=
  if item.mediaType = "Series" then "Series"
  else if item.mediaType = "Video" then
    if item.collectionType = some "movies" then "Movie"
    else if item.collectionType.any fun kind => ["musicvideos", "musicvideo"].contains kind then
      "MusicVideo"
    else if isTvCollection item.collectionType then
      if isTvExtraMediaItem item then "Video" else "Episode"
    else "Video"
  else if ["Audio", "Photo", "Book"].contains item.mediaType then item.mediaType
  else "BaseItem"

def mediaItemLocationType (_item : MediaItem) : String := "FileSystem"

def mediaItemVideoType (item : MediaItem) : String :=
  if eqIgnoreAsciiCase item.mediaType "Video" then "videofile" else "unknown"

namespace ItemFormats

variable (fmt : ItemFormats)

def tvEpisodeInfo (item : MediaItem) : Option TvEpisodeInfo :=
  if effectiveMediaItemType item = "Episode" then some (fmt.tvEpisodePathInfo item.name item.path)
  else none

/-! Streams. -/

def normalizeLanguageCode (language : String) : Option String :=
  let language := Json.trim language
  if language = "" ∨ eqIgnoreAsciiCase language "und" = true then none
  else if toAsciiLowercase language = "fre" then some "fra"
  else if toAsciiLowercase language = "ger" then some "deu"
  else some language

def streamsOfType (item : MediaItem) (streamType : String) : List Json :=
  (fmt.mediaItemStreams item).filter fun stream =>
    ((stream.get "Type").bind Json.asStr).any (eqIgnoreAsciiCase · streamType)

def mediaItemHasStreamType (item : MediaItem) (streamType : String) : Bool :=
  !(fmt.streamsOfType item streamType).isEmpty

def mediaItemStreamLanguages (item : MediaItem) (streamType : String) : List String :=
  (fmt.streamsOfType item streamType).filterMap fun stream =>
    ((stream.get "Language").bind Json.asStr).bind normalizeLanguageCode

def mediaItemHasStreamLanguage (item : MediaItem) (streamType : String)
    (languages : List String) : Bool :=
  (fmt.mediaItemStreamLanguages item streamType).any fun language =>
    languages.contains (toAsciiLowercase language)

end ItemFormats

/-! Metadata. -/

def remoteTrailerValueHasUrl : Json → Bool
  | .string value => Json.trim value ≠ ""
  | .object fields =>
    let object := Json.object fields
    (((((object.get "Url").or (object.get "url")).or (object.get "Path")).or
      (object.get "path")).bind Json.asStr).any fun value => Json.trim value ≠ ""
  | _ => false

def metadataHasRemoteTrailer (metadata : Json) : Bool :=
  ["RemoteTrailers", "Trailers"].any fun key =>
    (metadata.fieldCaseInsensitive key).any fun value =>
      match value with
      | .array values => values.any remoteTrailerValueHasUrl
      | value => remoteTrailerValueHasUrl value

def metadataHasProviderId (metadata : Json) (providerKey : String) : Bool :=
  ["ProviderIds", "SeriesProviderIds"].any fun key =>
    (((metadata.fieldCaseInsensitive key).bind (·.fieldCaseInsensitive providerKey)).bind
      Json.asStr).any fun value => Json.trim value ≠ ""

def metadataIsLocked (metadata : Json) : Bool :=
  ((metadata.fieldCaseInsensitive "LockData").bind Json.asBool).getD false

namespace ItemFormats

variable (fmt : ItemFormats)

def hasText (metadata : Json) (keys : List String) : Bool :=
  (firstMetadataValueFromJson fmt.floatText metadata keys).any fun value => Json.trim value ≠ ""

def metadataHasOverview (metadata : Json) : Bool :=
  fmt.hasText metadata ["Overview", "SeriesOverview"]

def metadataHasOfficialRating (metadata : Json) : Bool :=
  fmt.hasText metadata ["OfficialRating", "OfficialRatings", "SeriesOfficialRating"]

def firstMetadataNumberFromJson (metadata : Json) (keys : List String) : Option UInt64 :=
  keys.findSome? fun key => (metadata.fieldCaseInsensitive key).bind fmt.asF64

def metadataItemFilterPremiereDate (metadata : Json) : Option Int :=
  (firstMetadataValueFromJson fmt.floatText metadata
    ["PremiereDate", "AirDate", "DateCreated"]).bind fmt.parseItemQueryDate

mutual

def metadataValueMatchesSearch (term : String) : Json → Bool
  | .string value => contains (toAsciiLowercase value) term
  | .number value => contains (toString value) term
  | .float bits => contains (fmt.floatText bits) term
  | .array values => anyValueMatchesSearch term values
  | .object fields => anyFieldMatchesSearch term fields
  | .bool _ | .null => false

def anyValueMatchesSearch (term : String) : List Json → Bool
  | [] => false
  | value :: rest => metadataValueMatchesSearch term value || anyValueMatchesSearch term rest

def anyFieldMatchesSearch (term : String) : List (String × Json) → Bool
  | [] => false
  | (_, value) :: rest => metadataValueMatchesSearch term value || anyFieldMatchesSearch term rest

end

def asI32 : Json → Option Int
  | .number value => if -2 ^ 31 ≤ value ∧ value < 2 ^ 31 then some value else none
  | .string text => (parseI64 text).filter fun value => -2 ^ 31 ≤ value ∧ value < 2 ^ 31
  | _ => none

def firstMetadataI32FromJson (metadata : Json) (keys : List String) : Option Int :=
  keys.findSome? fun key => (metadata.fieldCaseInsensitive key).bind asI32

end ItemFormats

/-! Orders. -/

inductive SortDirection where
  | ascending
  | descending
  deriving DecidableEq

def SortDirection.order (direction : SortDirection) {α : Type} (cmp : α → α → Ordering) (a b : α) :
    Ordering :=
  match direction with
  | ascending => cmp a b
  | descending => cmp b a

def sortDirection (order : String) : SortDirection :=
  if isDescending order then .descending else .ascending

def compareNames (left right : MediaItem) : Ordering :=
  compareOn (fun item => toAsciiLowercase item.name) left right

def compareIds (left right : MediaItem) : Ordering := compareOn MediaItem.id left right

inductive SortField where
  | sortName
  | dateCreated
  | dateLastMediaAdded
  deriving DecidableEq

def SortField.compare : SortField → MediaItem → MediaItem → Ordering
  | sortName => compareNames
  | dateCreated => compareOn MediaItem.createdAt
  | dateLastMediaAdded => compareOn MediaItem.updatedAt

def sortField (field : String) : Option SortField :=
  match toAsciiLowercase (Json.trim field) with
  | "sortname" | "name" => some .sortName
  | "datecreated" => some .dateCreated
  | "datelastmediaadded" => some .dateLastMediaAdded
  | _ => none

def sortFields (sortBy : Option String) : List SortField :=
  let fields := (split ',' (sortBy.getD "SortName")).filterMap sortField
  if fields.isEmpty then [.sortName] else fields

def compareMediaItems (fields : List SortField) : MediaItem → MediaItem → Ordering :=
  compareChain (fields.map SortField.compare) compareIds

def lastNumber : Int := 2 ^ 31 - 1

namespace ItemFormats

variable (fmt : ItemFormats)

def episodeSeriesName (metadata : Option Json) (item : MediaItem) : String :=
  toAsciiLowercase (((metadata.bind fun metadata =>
    firstMetadataValueFromJson fmt.floatText metadata ["SeriesName"]).or
      ((fmt.tvEpisodeInfo item).map (·.seriesName))).getD item.name)

def episodeNumberUnder (key : String) (fallback : TvEpisodeInfo → Option Int)
    (metadata : Option Json) (item : MediaItem) : Int :=
  ((firstMetadataI32FromJson (metadata.getD .null) [key]).or
    ((fmt.tvEpisodeInfo item).bind fallback)).getD lastNumber

def compareTvEpisodesWithMetadata (metadata : Uuid → Option Json) :
    MediaItem → MediaItem → Ordering :=
  compareChain [
    compareOn fun item => fmt.episodeSeriesName (metadata item.id) item,
    compareOn fun item =>
      fmt.episodeNumberUnder "ParentIndexNumber" (·.seasonNumber) (metadata item.id) item,
    compareOn fun item =>
      fmt.episodeNumberUnder "IndexNumber" (·.episodeNumber) (metadata item.id) item,
    compareNames] compareIds

end ItemFormats

/-! The orders are orders. -/

instance : Std.TransCmp compareNames := inferInstanceAs (Std.TransCmp (compareOn _))

instance : Std.TransCmp compareIds := inferInstanceAs (Std.TransCmp (compareOn _))

instance (direction : SortDirection) {α : Type} (cmp : α → α → Ordering) [Std.TransCmp cmp] :
    Std.TransCmp (direction.order cmp) := by
  cases direction with
  | ascending => exact inferInstanceAs (Std.TransCmp cmp)
  | descending => exact inferInstanceAs (Std.TransCmp fun a b => cmp b a)

instance (field : SortField) : Std.TransCmp field.compare := by
  cases field with
  | sortName => exact inferInstanceAs (Std.TransCmp compareNames)
  | dateCreated => exact inferInstanceAs (Std.TransCmp (compareOn MediaItem.createdAt))
  | dateLastMediaAdded => exact inferInstanceAs (Std.TransCmp (compareOn MediaItem.updatedAt))

instance (fields : List SortField) : Std.TransCmp (compareMediaItems fields) := by
  refine transCmp_compareChain (fun cmp hcmp => ?_) inferInstance
  obtain ⟨field, -, rfl⟩ := List.mem_map.mp hcmp
  infer_instance

instance (fmt : ItemFormats) (metadata : Uuid → Option Json) :
    Std.TransCmp (fmt.compareTvEpisodesWithMetadata metadata) := by
  refine transCmp_compareChain (fun cmp hcmp => ?_) inferInstance
  simp only [List.mem_cons, List.not_mem_nil, or_false] at hcmp
  obtain rfl | rfl | rfl | rfl := hcmp <;> infer_instance

def plainFormats : ItemFormats where
  floatText _ := ""
  toLowercase := toAsciiLowercase
  parseItemQueryDate _ := none
  asF64 _ := none
  f64Le a b := a ≤ b
  compareF64 := compareOn UInt64.toNat
  compareF64_trans := inferInstance
  mediaItemStreams item := item.mediaStreams
  mediaItemStreams_id _ _ := rfl
  tvEpisodePathInfo name _ := ⟨name, none, none⟩

def itemNamed (id : Nat) (name : String) : MediaItem where
  id := BitVec.ofNat 128 id
  virtualFolderId := 0
  name
  path := "/media/" ++ name
  mediaType := "Video"
  collectionType := some "movies"
  bitrate := none
  width := none
  height := none
  mediaStreams := []
  createdAt := 0
  updatedAt := 0

end Jellyrin.Items
