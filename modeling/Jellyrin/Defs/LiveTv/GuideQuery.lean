import Jellyrin.Defs.Data.HashMap
import Jellyrin.Defs.LiveTv.GuideItems

/-! The programmes that a user asks for, with the channels of the database to fall back on. -/

namespace Jellyrin.LiveTv.Guide

open Api Ascii ClientIds Text

/-! The database. -/

structure LiveTvChannelRecord where
  channelId : String
  tunerId : String
  remoteId : String
  categoryId : Option String
  categoryName : Option String
  name : String
  sortName : String
  number : Option String
  streamUrl : String
  logoUrl : Option String
  channelType : String
  metadata : Json
  deriving DecidableEq

structure LiveTvCategoryRecord where
  categoryId : String
  name : String

/-- The configuration under `livetv`, and the enabled channels and the categories in the order of
the catalogue. -/
structure Database where
  configuration : Option Json
  channels : List LiveTvChannelRecord
  categories : List LiveTvCategoryRecord

def defaultLiveTvConfiguration : Json := Json.ofFields [
  ("GuideDays", .null),
  ("RecordingPath", .string ""),
  ("MovieRecordingPath", .string ""),
  ("SeriesRecordingPath", .string ""),
  ("EnableRecordingSubfolders", .bool false),
  ("EnableOriginalAudioWithEncodedRecordings", .bool false),
  ("TunerHosts", .array []),
  ("ListingProviders", .array []),
  ("Timers", .array []),
  ("SeriesTimers", .array []),
  ("Recordings", .array []),
  ("PrePaddingSeconds", .number 180),
  ("PostPaddingSeconds", .number 180),
  ("MediaLocationsCreated", .array []),
  ("RecordingPostProcessor", .string ""),
  ("RecordingPostProcessorArguments", .string ""),
  ("SaveRecordingNFO", .bool false),
  ("SaveRecordingImages", .bool false)]

structure LiveTvChannelQuery where
  startIndex : Nat
  limit : Option Nat
  tunerIds : List String
  categoryIds : List String

def LiveTvChannelQuery.all : LiveTvChannelQuery := ⟨0, none, [], []⟩

def boundIds (ids : List String) : List String := (ids.map Json.trim).filter (· ≠ "")

/-- `append_live_tv_channel_filters`: a filter without identifiers is left out. -/
def LiveTvChannelQuery.selects (query : LiveTvChannelQuery) (record : LiveTvChannelRecord) :
    Bool :=
  ((boundIds query.tunerIds).isEmpty || (boundIds query.tunerIds).contains record.tunerId) &&
    ((boundIds query.categoryIds).isEmpty ||
      record.categoryId.any (boundIds query.categoryIds).contains)

namespace Database

def config (db : Database) : Json := db.configuration.getD defaultLiveTvConfiguration

def liveTvChannelCount (db : Database) (query : LiveTvChannelQuery) : Nat :=
  (db.channels.filter query.selects).length

def liveTvChannelPage (db : Database) (query : LiveTvChannelQuery) : List LiveTvChannelRecord :=
  let rows := db.channels.filter query.selects
  match query.limit with
  | some limit => (rows.drop query.startIndex).take limit
  | none => rows

def liveTvChannelById (db : Database) (channelId : String) : Option LiveTvChannelRecord :=
  db.channels.find? fun record => record.channelId == Json.trim channelId

end Database

def liveTvXtreamMaxImportLimit : Nat := 100000

/-! Channels by their identifiers. -/

def liveTvLookupId (value : String) : Except Panic String :=
  (readUuid (Json.trim value)).map fun id =>
    match id with
    | some id => id.simple
    | none => toAsciiLowercase (Json.trim value)

def catalogue (db : Database) : List LiveTvChannelRecord :=
  db.liveTvChannelPage
    { LiveTvChannelQuery.all with
      limit := some (min (db.liveTvChannelCount .all) liveTvXtreamMaxImportLimit) }

def lookupIndex (records : List LiveTvChannelRecord) :
    Except Panic (HashMap String LiveTvChannelRecord) :=
  records.foldlM (fun index record =>
    [record.channelId, record.remoteId, liveTvChannelPublicId record.channelId].foldlM
      (fun index id => return index.insert (← liveTvLookupId id) record) index) ∅

def liveTvChannelRecordsByAnyIds (db : Database) (channelIds : List String) :
    Except Panic (List LiveTvChannelRecord) := do
  let requested := (channelIds.map Json.trim).filter fun channelId =>
    channelId ≠ "" && !eqIgnoreAsciiCase channelId "null"
  if requested.isEmpty || db.liveTvChannelCount .all = 0 then return []
  let index ← lookupIndex (catalogue db)
  let ids ← requested.mapM liveTvLookupId
  return ids.filterMap index.lookup

/-! The items of the database. -/

namespace Surroundings

variable (env : Surroundings)

def liveTvChannelRecordToJson (record : LiveTvChannelRecord) : Json :=
  let publicChannelId := liveTvChannelPublicId record.channelId
  let base := Json.object (record.metadata.asObject.getD [])
    |>.set "Id" (.string publicChannelId)
    |>.set "ChannelId" (.string publicChannelId)
    |>.set "JellyrinChannelId" (.string record.channelId)
    |>.set "RemoteId" (.string record.remoteId)
    |>.set "ServerId" (.string env.serverId)
    |>.set "Name" (.string record.name)
    |>.set "SortName" (.string record.sortName)
    |>.set "Number" (optionalString record.number)
  let base :=
    if Json.trim record.streamUrl = "" then
      ["Path", "MediaPath", "Url", "DirectStreamUrl"].foldl Json.remove base
    else base.set "Path" (.string record.streamUrl)
  let base := base
    |>.set "TunerHostId" (.string record.tunerId)
    |>.set "Type" (.string "TvChannel")
    |>.set "MediaType" (.string "Video")
    |>.set "ChannelType" (.string record.channelType)
    |>.set "IsFolder" (.bool false)
    |>.set "IsLive" (.bool true)
    |>.set "CanDelete" (.bool false)
    |>.set "CanDownload" (.bool false)
    |>.set "EnableMediaSourceDisplay" (.bool true)
    |>.set "PlayAccess" (.string "Full")
    |>.set "LocationType" (.string "Remote")
    |>.set "RunTimeTicks" .null
    |>.set "UserData" (userData publicChannelId)
    |>.set "CurrentProgram" .null
  let base :=
    match record.categoryName with
    | some categoryName => base
      |>.set "Genres" (.array [.string categoryName])
      |>.set "Tags" (.array [.string categoryName])
      |>.set "GenreItems" (.array [Json.ofFields [
        ("Id", .string (stableEntityId "LiveTvGenre" categoryName)),
        ("Name", .string categoryName)]])
    | none => base
  let base := applyLiveTvCategoryFlags base
  let base :=
    match record.logoUrl with
    | some logoUrl => base.set "ImageUrl" (.string logoUrl)
    | none => base
  let base := applyLiveTvImageMetadata base
  if (liveTvChannelPath base).isSome || (liveTvChannelProviderReference base).isSome then
    env.setMediaSources base
  else base

/-! Programmes that stand for a channel without a guide. -/

def fallbackHours : Int := 12 * 3600 * 10 ^ 9

def copiedFields : List String :=
  ["Genres", "Tags", "GenreItems", "JellyrinChannelId", "Path", "MediaSources", "TunerHostId"]

def isRequested (channelIds : List String) (channel : Json) : Bool :=
  channelIds.isEmpty || (channel.stringField "Id").any fun channelId =>
    channelIds.any fun requested => eqIgnoreAsciiCase requested channelId

def liveTvFallbackProgramItem (channel : Json) : Option Json := do
  let channelId ← channel.stringField "Id"
  let rawChannelId := (channel.stringField "JellyrinChannelId").getD channelId
  let channelName := (channel.stringField "Name").getD channelId
  let programId := liveTvFallbackProgramPublicId channelId
  let program := Json.ofFields [
    ("Id", .string programId),
    ("Name", .string channelName),
    ("SortName", .string channelName),
    ("Type", .string "Program"),
    ("ServerId", .string env.serverId),
    ("MediaType", .string "Video"),
    ("ParentId", .string (liveTvPlaybackChannelPublicId rawChannelId)),
    ("ChannelId", .string channelId),
    ("ChannelName", .string channelName),
    ("ChannelNumber", optionalString (channel.stringField "Number")),
    ("IsFolder", .bool false),
    ("IsLive", .bool true),
    ("CanDelete", .bool false),
    ("CanDownload", .bool false),
    ("EnableMediaSourceDisplay", .bool true),
    ("PlayAccess", .string "Full"),
    ("LocationType", .string "Remote"),
    ("StartDate", .string (env.formatTimeForJson (env.now - fallbackHours))),
    ("EndDate", .string (env.formatTimeForJson (env.now + fallbackHours))),
    ("Overview", .string ""),
    ("RunTimeTicks", .null),
    ("BackdropImageTags", .array []),
    ("CurrentProgram", .null),
    ("UserData", userData programId)]
  let program :=
    match liveTvImageUrl channel with
    | some imageUrl => program.set "ImageUrl" (.string imageUrl)
    | none => program
  let program := applyLiveTvImageMetadata (env.applyLiveTvProgramRuntimeTicks program)
  let program := copiedFields.foldl (fun program key =>
    match channel.fieldCaseInsensitive key with
    | some value => program.set key value
    | none => program) program
  return applyLiveTvCategoryFlags program

def liveTvFallbackProgramItems (channels : List Json) (channelIds : List String) : List Json :=
  (channels.filter (isRequested channelIds)).filterMap env.liveTvFallbackProgramItem

end Surroundings

/-! Filters. -/

structure LiveTvProgramFilters where
  isAiring : Option Bool
  hasAired : Option Bool
  isMovie : Option Bool
  isSeries : Option Bool
  isSports : Option Bool
  isKids : Option Bool
  isNews : Option Bool

namespace LiveTvProgramFilters

def hasCategoryFilters (filters : LiveTvProgramFilters) : Bool :=
  filters.isMovie.isSome || filters.isSeries.isSome || filters.isSports.isSome ||
    filters.isKids.isSome || filters.isNews.isSome

def isEmpty (filters : LiveTvProgramFilters) : Bool :=
  filters.isAiring.isNone && filters.hasAired.isNone && !filters.hasCategoryFilters

end LiveTvProgramFilters

def liveTvProgramBoolMatches (program : Json) (field : String) (expected : Option Bool) : Bool :=
  expected.all fun expected => (program.boolField field).getD false == expected

namespace Surroundings

variable (env : Surroundings)

def liveTvProgramAiringAt (program : Json) : Bool :=
  match env.liveTvProgramDatetime program "StartDate",
    env.liveTvProgramDatetime program "EndDate" with
  | some start, some finish => start ≤ env.now && env.now < finish
  | _, _ => false

def liveTvProgramHasAired (program : Json) : Bool :=
  (env.liveTvProgramDatetime program "EndDate").any fun finish => finish ≤ env.now

def liveTvProgramMatchesFilters (program : Json) (filters : LiveTvProgramFilters) : Bool :=
  liveTvProgramBoolMatches program "IsMovie" filters.isMovie &&
    liveTvProgramBoolMatches program "IsSeries" filters.isSeries &&
    liveTvProgramBoolMatches program "IsSports" filters.isSports &&
    liveTvProgramBoolMatches program "IsKids" filters.isKids &&
    liveTvProgramBoolMatches program "IsNews" filters.isNews &&
    filters.isAiring.all (fun isAiring =>
      ((program.boolField "IsLive").getD false || env.liveTvProgramAiringAt program) ==
        isAiring) &&
    filters.hasAired.all fun hasAired => env.liveTvProgramHasAired program == hasAired

def filterLiveTvPrograms (programs : List Json) (filters : LiveTvProgramFilters) : List Json :=
  if filters.isEmpty then programs
  else programs.filter fun program => env.liveTvProgramMatchesFilters program filters

end Surroundings

inductive LiveTvSeriesScope where
  | unscoped
  | noBroadcasts
  | externalSeriesId (seriesId : String)
  deriving DecidableEq

structure LiveTvProgramScope where
  filters : LiveTvProgramFilters
  allowedTunerIds : Option (List String)
  series : LiveTvSeriesScope

/-! The user's tuners. -/

def tunerIsAllowed (allowedTunerIds : List String) (id : String) : Bool :=
  allowedTunerIds.any fun allowed => eqIgnoreAsciiCase allowed id

def hasAllowedTuner (allowedTunerIds : List String) (item : Json) : Bool :=
  (item.stringField "TunerHostId").any (tunerIsAllowed allowedTunerIds)

def liveTvItemIsVisibleToTuners (item : Json) (allowedTunerIds : Option (List String)) : Bool :=
  allowedTunerIds.all fun allowed => hasAllowedTuner allowed item

def allowedChannelIds (channels : List Json) (allowedTunerIds : List String) : List String :=
  (channels.filter (hasAllowedTuner allowedTunerIds)).flatMap
    (·.stringFields ["Id", "JellyrinChannelId"])

def retainAuthorizedLiveTvPrograms (programs channels : List Json)
    (allowedTunerIds : List String) : Except Panic (List Json) :=
  programs.filterM fun program =>
    if hasAllowedTuner allowedTunerIds program then .ok true
    else
      (program.stringFields ["ChannelId", "JellyrinChannelId"]).anyM fun channelId =>
        (allowedChannelIds channels allowedTunerIds).anyM (jellyfinIdMatches · channelId)

/-! The answer. -/

structure QueryResult where
  totalRecordCount : Nat
  startIndex : Nat
  items : List Json
  deriving DecidableEq

def matchesSeries : LiveTvSeriesScope → Json → Bool
  | .externalSeriesId seriesId, program =>
    (program.stringFields ["ExternalSeriesId", "SeriesId"]).any (eqIgnoreAsciiCase · seriesId)
  | _, _ => true

def matchesChannels (channelIds : List String) (program : Json) : Except Panic Bool :=
  let channelIds := channelIds.filter fun id => !eqIgnoreAsciiCase id "null"
  if channelIds.isEmpty then .ok true
  else
    (program.stringFields ["ChannelId", "JellyrinChannelId"]).anyM fun channelId =>
      channelIds.anyM (jellyfinIdMatches · channelId)

def matchesCategories (categories : List LiveTvCategoryRecord) (categoryIds : List String)
    (program : Json) : Bool :=
  let categoryNames := (categories.filter fun category => categoryIds.any fun requested =>
    eqIgnoreAsciiCase requested category.categoryId ||
      eqIgnoreAsciiCase requested category.name).map fun category => toAsciiLowercase category.name
  categoryIds.isEmpty || categoryNames.isEmpty || ["Genres", "Tags"].any fun field =>
    ((program.stringListField field).getD []).any fun term =>
      categoryNames.contains (toAsciiLowercase term)

def pageOf (programs : List Json) (startIndex limit : Option Nat) : QueryResult :=
  let totalRecordCount := programs.length
  let startIndex := min (startIndex.getD 0) totalRecordCount
  let limit := limit.getD (totalRecordCount - startIndex)
  ⟨totalRecordCount, startIndex, (programs.drop startIndex).take limit⟩

namespace Surroundings

variable (env : Surroundings)

def guidePrograms (db : Database) (channelIds categoryIds : List String)
    (scope : LiveTvProgramScope) : Except Panic (List Json) := do
  let programs ← env.liveTvProgramItems db.config
  let programs := programs.filter (matchesSeries scope.series)
  let programs ←
    match scope.allowedTunerIds with
    | some allowed =>
      retainAuthorizedLiveTvPrograms programs (env.liveTvChannelItems db.config) allowed
    | none => pure programs
  let programs ← programs.filterM (matchesChannels channelIds)
  return programs.filter (matchesCategories db.categories categoryIds)

def requestedChannels (db : Database) (channelIds : List String) (scope : LiveTvProgramScope) :
    Except Panic (List LiveTvChannelRecord) :=
  if channelIds.isEmpty then .ok []
  else
    (liveTvChannelRecordsByAnyIds db channelIds).map fun records =>
      records.filter fun record => scope.allowedTunerIds.all (tunerIsAllowed · record.tunerId)

def recordPrograms (records : List LiveTvChannelRecord) : List Json :=
  env.liveTvFallbackProgramItems (records.map env.liveTvChannelRecordToJson) []

def persistedResult (db : Database) (categoryIds : List String) (startIndex limit : Option Nat)
    (scope : LiveTvProgramScope) : QueryResult :=
  let tunerIds := scope.allowedTunerIds.getD []
  let persistedCount := db.liveTvChannelCount
    { startIndex := 0, limit := none, tunerIds := tunerIds, categoryIds := categoryIds }
  if scope.filters.hasCategoryFilters then
    let records := db.liveTvChannelPage
      { startIndex := 0
        limit := some (min persistedCount liveTvXtreamMaxImportLimit)
        tunerIds := tunerIds
        categoryIds := categoryIds }
    pageOf (env.filterLiveTvPrograms (env.recordPrograms records) scope.filters) startIndex limit
  else
    let startIndex := min (startIndex.getD 0) persistedCount
    let limit := min (limit.getD (persistedCount - startIndex)) 500
    let records := db.liveTvChannelPage
      { startIndex := startIndex
        limit := some limit
        tunerIds := tunerIds
        categoryIds := categoryIds }
    ⟨persistedCount, startIndex, env.recordPrograms records⟩

def configuredResult (db : Database) (channelIds : List String) (startIndex limit : Option Nat)
    (scope : LiveTvProgramScope) : QueryResult :=
  pageOf (env.filterLiveTvPrograms (env.liveTvFallbackProgramItems
    (env.liveTvChannelItems db.config) channelIds) scope.filters) startIndex limit

def liveTvProgramResult (db : Database) (channelIds categoryIds : List String)
    (startIndex limit : Option Nat) (scope : LiveTvProgramScope) : Except Panic QueryResult := do
  if scope.series = .noBroadcasts then return ⟨0, 0, []⟩
  let guide ← env.guidePrograms db channelIds categoryIds scope
  let programs := env.filterLiveTvPrograms guide scope.filters
  if !guide.isEmpty && programs.isEmpty then return ⟨0, startIndex.getD 0, []⟩
  if !programs.isEmpty then return pageOf programs startIndex limit
  let requested ← requestedChannels db channelIds scope
  if !requested.isEmpty then
    return pageOf (env.filterLiveTvPrograms (env.recordPrograms requested) scope.filters) startIndex
      limit
  else if 0 < db.liveTvChannelCount
      { LiveTvChannelQuery.all with tunerIds := scope.allowedTunerIds.getD [] } then
    return env.persistedResult db categoryIds startIndex limit scope
  else return env.configuredResult db channelIds startIndex limit scope

end Surroundings

/-! A programme by its identifier. -/

def liveTvStableId (start value : String) : String :=
  let dashed := (toAsciiLowercase value).toList.map fun ch => if ch.isAlphanum then ch else '-'
  let normalized := String.ofList ((dashed.dropWhile (· == '-')).rdropWhile (· == '-'))
  if normalized = "" then start else start ++ "-" ++ normalized

def liveTvChannelRecordByAnyId (db : Database) (channelId : String) :
    Except Panic (Option LiveTvChannelRecord) := do
  let channelId := Json.trim channelId
  if let some record := db.liveTvChannelById channelId then return record
  if (← readUuid channelId).isNone then return none
  (catalogue db).findM? fun record => do
    if ← jellyfinIdMatches (liveTvChannelPublicId record.channelId) channelId then return true
    jellyfinIdMatches (liveTvPlaybackChannelPublicId record.channelId) channelId

def fallbackRecord (db : Database) (programId : String) :
    Except Panic (Option LiveTvChannelRecord) := do
  let candidates :=
    match stripPrefix (Json.trim programId) "fallback-program-" with
    | some channelId => channelId :: ((stripPrefix channelId "xtream-").map ("xtream_" ++ ·)).toList
    | none => []
  if db.liveTvChannelCount .all = 0 then return none
  if let some record ← candidates.findSomeM? (liveTvChannelRecordByAnyId db) then return record
  if (← readUuid programId).isNone then return none
  (catalogue db).findM? fun record => jellyfinIdMatches
    (liveTvFallbackProgramPublicId (liveTvChannelPublicId record.channelId)) (Json.trim programId)

namespace Surroundings

variable (env : Surroundings)

def liveTvProgramById (db : Database) (programId : String) : Except Panic (Option Json) := do
  let programs ← env.liveTvProgramItems db.config
  if !programs.isEmpty then
    return ← programs.findM? fun program =>
      (program.stringFields ["Id", "JellyrinProgramId"]).anyM
        (jellyfinIdMatches · (Json.trim programId))
  if let some record ← fallbackRecord db programId then
    return env.liveTvFallbackProgramItem (env.liveTvChannelRecordToJson record)
  return (env.liveTvChannelItems db.config).findSome? fun channel => do
    let channelId ← channel.stringField "Id"
    if eqIgnoreAsciiCase (liveTvFallbackProgramPublicId channelId) (Json.trim programId) ||
        eqIgnoreAsciiCase (liveTvStableId "fallback-program" channelId) (Json.trim programId) then
      env.liveTvFallbackProgramItem channel
    else none

def liveTvProgram (db : Database) (allowedTuners : Option (List String)) (programId : String) :
    Except Failure Json := do
  match ← env.liveTvProgramById db programId with
  | none => .error (.notFound "Live TV item not found")
  | some program =>
    if liveTvItemIsVisibleToTuners program allowedTuners then return program
    else .error (.notFound "Live TV item not found")

end Surroundings

end Jellyrin.LiveTv.Guide
