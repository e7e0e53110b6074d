import Jellyrin.Defs.Api.ClientIds
import Jellyrin.Defs.Data.JsonFields
import Mathlib.Data.List.ReduceOption
import Mathlib.Data.List.Sort

/-! The channels and programmes of a `livetv` configuration, as they are shown. -/

namespace Jellyrin.LiveTv.Guide

open Ascii ClientIds Text

/-- What the items are made with besides the configuration: a clock in nanoseconds, the reading and
writing of its times, and the media source of a channel. -/
structure Surroundings where
  serverId : String
  now : Int
  parseRfc3339 : String → Option Int
  formatTimeForJson : Int → String
  liveTvChannelMediaSource : Json → Option Json

def liveTvChannelPublicId (channelId : String) : String :=
  stableJellyfinUuid "LiveTvChannel" channelId

def liveTvPlaybackChannelPublicId (channelId : String) : String := liveTvChannelPublicId channelId

def liveTvFallbackProgramPublicId (channelId : String) : String :=
  stableJellyfinUuid "LiveTvFallbackProgram" channelId

/-! Images. -/

def liveTvImageUrl (item : Json) : Option String :=
  (item.stringAnyField ["LiveTvOriginalImageUrl", "OriginalImageUrl", "ExternalImageUrl",
    "PrimaryImageUrl", "LogoUrl", "IconUrl", "ChannelLogoUrl", "ImageUrl"]).filter fun url =>
      !startsWith url "/Items/" && !startsWith url "/Image/"

def liveTvImageTag (itemId imageUrl : String) : String :=
  stableEntityId "LiveTvImage" (itemId ++ ":" ++ imageUrl)

def setIfNull (item : Json) (field : String) (value : Json) : Json :=
  if (item.get field).all Json.isNull then item.set field value else item

def applyLiveTvImageMetadata (item : Json) : Json :=
  match item.stringField "Id", liveTvImageUrl item with
  | some itemId, some imageUrl =>
    let tag := liveTvImageTag itemId imageUrl
    let item := item
      |>.set "LiveTvOriginalImageUrl" (.string imageUrl)
      |>.set "ImageUrl" (.string ("/Items/" ++ itemId ++ "/Images/Primary?tag=" ++ tag))
      |>.set "ImageTags" (Json.ofFields [("Primary", .string tag)])
      |>.set "PrimaryImageTag" (.string tag)
    setIfNull (setIfNull item "PrimaryImageAspectRatio" (.number 1)) "BackdropImageTags" (.array [])
  | _, _ => item

theorem stringField_setIfNull (item value : Json) {name field : String}
    (h : eqIgnoreAsciiCase name field = false) :
    (setIfNull item name value).stringField field = item.stringField field := by
  rw [setIfNull]
  split
  · exact Json.stringField_set _ _ h
  · rfl

def imageFields : List String :=
  ["LiveTvOriginalImageUrl", "ImageUrl", "ImageTags", "PrimaryImageTag", "PrimaryImageAspectRatio",
    "BackdropImageTags"]

theorem stringField_applyLiveTvImageMetadata (item : Json) {field : String}
    (h : ∀ name ∈ imageFields, eqIgnoreAsciiCase name field = false) :
    (applyLiveTvImageMetadata item).stringField field = item.stringField field := by
  simp only [imageFields, List.forall_mem_cons, List.not_mem_nil, false_imp_iff, implies_true,
    and_true] at h
  obtain ⟨horiginal, hurl, htags, htag, hratio, hbackdrop⟩ := h
  rw [applyLiveTvImageMetadata]
  split
  · simp only [stringField_setIfNull _ _ hbackdrop, stringField_setIfNull _ _ hratio,
      Json.stringField_set _ _ htag, Json.stringField_set _ _ htags, Json.stringField_set _ _ hurl,
      Json.stringField_set _ _ horiginal]
  · rfl

/-! Categories. -/

def sportsTerms : List String :=
  ["sport", "sports", "football", "futbol", "fútbol", "soccer", "liga", "laliga", "nba", "nfl",
    "mlb", "nhl", "tennis", "golf", "f1", "formula", "racing", "motogp", "ufc", "boxing", "wwe"]

def kidsTerms : List String :=
  ["kid", "kids", "niños", "ninos", "infantil", "cartoon", "disney", "nick", "junior", "boomerang",
    "baby", "children"]

def newsTerms : List String :=
  ["news", "noticias", "noticia", "cnn", "bbc", "sky news", "euronews", "al jazeera", "fox news",
    "france 24", "24h", "24 horas"]

def seriesTerms : List String :=
  ["series", "serie", "show", "shows", "episod", "drama", "novela", "telenovela"]

def movieTerms : List String :=
  ["movie", "movies", "film", "films", "cine", "cinema", "pelicula", "película", "vod", "ppv",
    "box office", "premiere"]

def applyLiveTvCategoryFlags (item : Json) : Json :=
  let terms := item.stringFields ["Name", "ChannelName"] ++
    ["Genres", "Tags"].flatMap fun key => (item.stringListField key).getD []
  let haystack := toAsciiLowercase (" ".intercalate terms)
  let hasAny (needles : List String) : Json := .bool (needles.any (contains haystack))
  item
    |>.set "IsSports" (hasAny sportsTerms)
    |>.set "IsKids" (hasAny kidsTerms)
    |>.set "IsNews" (hasAny newsTerms)
    |>.set "IsSeries" (hasAny seriesTerms)
    |>.set "IsMovie" (hasAny movieTerms)
    |>.set "IsPremiere" (hasAny ["premiere", "estreno", "new"])
    |>.set "IsRepeat" (.bool false)

/-! Channels. -/

def itemBase : Json → Option (Json × Option String)
  | .object fields => some (.object fields, none)
  | .string name => some (.object [], some (Json.trim name))
  | _ => none

def optionalString : Option String → Json
  | some text => .string text
  | none => .null

def userData (id : String) : Json := Json.ofFields [
  ("PlaybackPositionTicks", .number 0),
  ("PlayCount", .number 0),
  ("IsFavorite", .bool false),
  ("Played", .bool false),
  ("Key", .string id),
  ("ItemId", .string id)]

def suppressRemoteLiveTvDirectStreamForItemDetail (mediaSource : Json) : Json :=
  if ((mediaSource.get "IsRemote").bind Json.asBool).getD false then
    (mediaSource.set "SupportsDirectStream" (.bool false)).remove "DirectStreamUrl"
  else mediaSource

def liveTvChannelPath (channel : Json) : Option String :=
  ((channel.stringField "Path").or (channel.stringField "MediaPath")).filter (· ≠ "")

def liveTvChannelProviderReference (channel : Json) : Option String :=
  channel.stringField "ProviderReference"

namespace Surroundings

variable (env : Surroundings)

def setMediaSources (channel : Json) : Json :=
  match env.liveTvChannelMediaSource channel with
  | some mediaSource =>
    channel.set "MediaSources"
      (.array [suppressRemoteLiveTvDirectStreamForItemDetail mediaSource])
  | none => channel

theorem stringField_setMediaSources (item : Json) {field : String}
    (h : eqIgnoreAsciiCase "MediaSources" field = false) :
    (env.setMediaSources item).stringField field = item.stringField field := by
  rw [setMediaSources]
  split
  · exact Json.stringField_set _ _ h
  · rfl

def liveTvChannelItem (tunerId tunerName : String) (channel : Json) (index : Nat) :
    Option Json := do
  let (base, rawName) ← itemBase channel
  let name := ((((base.stringField "Name").or (base.stringField "DisplayName")).or
    rawName).filter (· ≠ "")).getD ("Channel " ++ toString (index + 1))
  let number := ((base.stringField "Number").or (base.stringField "ChannelNumber")).or
    (base.stringField "GuideNumber")
  let rawId := (((base.stringField "Id").or (base.stringField "ChannelId")).or
    number).getD (tunerId ++ "-" ++ toString (index + 1))
  let id := liveTvChannelPublicId rawId
  let base := base
    |>.set "Id" (.string id)
    |>.set "ChannelId" (.string id)
    |>.set "JellyrinChannelId" (.string rawId)
    |>.set "ServerId" (.string env.serverId)
    |>.set "Name" (.string name)
    |>.set "SortName" (.string (number.getD name))
    |>.set "Number" (optionalString number)
    |>.set "TunerHostId" (.string tunerId)
    |>.set "TunerHostName" (.string tunerName)
    |>.set "Type" (.string "TvChannel")
    |>.set "MediaType" (.string "Video")
  let base := base
    |>.set "ChannelType" ((base.get "ChannelType").getD (.string "TV"))
    |>.set "IsFolder" (.bool false)
    |>.set "IsLive" (.bool true)
    |>.set "CanDelete" (.bool false)
    |>.set "CanDownload" (.bool false)
    |>.set "EnableMediaSourceDisplay" (.bool true)
    |>.set "PlayAccess" (.string "Full")
    |>.set "LocationType" (.string "Remote")
    |>.set "RunTimeTicks" .null
    |>.set "UserData" (userData id)
    |>.set "CurrentProgram" .null
  let base := applyLiveTvImageMetadata base
  return if (liveTvChannelPath base).isSome then env.setMediaSources base else base

def channelSortName (channel : Json) : String :=
  toAsciiLowercase (((channel.stringField "SortName").or (channel.stringField "Name")).getD "")

def elements (value : Json) (field : String) : List (Json × Nat) :=
  (((value.get field).bind Json.asArray).getD []).zipIdx

def liveTvChannelItems (config : Json) : List Json :=
  let channels := (elements config "TunerHosts").flatMap fun (tuner, tunerIndex) =>
    let tunerId := (tuner.stringField "Id").getD ("tuner-" ++ toString tunerIndex)
    let tunerName := (((tuner.stringField "FriendlyName").or (tuner.stringField "Name")).or
      (tuner.stringField "Url")).getD tunerId
    (elements tuner "Channels").filterMap fun (channel, channelIndex) =>
      env.liveTvChannelItem tunerId tunerName channel channelIndex
  channels.insertionSort fun left right => channelSortName left ≤ channelSortName right

/-! Programmes. -/

def liveTvProgramDatetime (program : Json) (field : String) : Option Int :=
  (program.stringField field).bind env.parseRfc3339

def applyLiveTvProgramRuntimeTicks (program : Json) : Json :=
  if (program.i64Field "RunTimeTicks").any fun ticks => 0 ≤ ticks then program
  else
    match env.liveTvProgramDatetime program "StartDate",
      env.liveTvProgramDatetime program "EndDate" with
    | some start, some finish =>
      let ticks := max (finish - start) 0 / 100
      if ticks < 2 ^ 63 then program.set "RunTimeTicks" (.number ticks) else program
    | _, _ => program

def programItemOf (sourceId : String) (channels : List Json) (base : Json)
    (rawName : Option String) (index : Nat) : Except Panic Json := do
  let name := ((((base.stringField "Name").or (base.stringField "Title")).or
    rawName).filter (· ≠ "")).getD ("Program " ++ toString (index + 1))
  let rawChannelId := (((base.stringField "ChannelId").or (base.stringField "Channel")).or
    (channels.head?.bind fun channel =>
      (channel.stringField "JellyrinChannelId").or (channel.stringField "Id"))).getD ""
  let matchedChannel ← channels.findM? fun channel =>
    (channel.stringFields ["Id", "JellyrinChannelId"]).anyM (jellyfinIdMatches · rawChannelId)
  let channelId := (matchedChannel.bind (·.stringField "Id")).getD
    (liveTvChannelPublicId rawChannelId)
  let channelName := matchedChannel.bind (·.stringField "Name")
  let rawId := ((base.stringField "Id").or (base.stringField "ProgramId")).getD
    (sourceId ++ "-program-" ++ toString (index + 1))
  let id := stableJellyfinUuid "LiveTvProgram" rawId
  let base := base
    |>.set "Id" (.string id)
    |>.set "JellyrinProgramId" (.string rawId)
    |>.set "Name" (.string name)
    |>.set "SortName" (.string name)
    |>.set "Type" (.string "Program")
    |>.set "ServerId" (.string env.serverId)
    |>.set "MediaType" (.string "Video")
    |>.set "TunerHostId" (.string sourceId)
    |>.set "ChannelId" (.string channelId)
    |>.set "JellyrinChannelId" (.string rawChannelId)
    |>.set "ChannelName" (optionalString channelName)
    |>.set "IsFolder" (.bool false)
  let base := base.set "IsLive" ((base.get "IsLive").getD (.bool false))
  let base := base.set "StartDate" (((base.get "StartDate").or (base.get "Start")).getD .null)
  let base := base.set "EndDate" (((base.get "EndDate").or (base.get "End")).getD .null)
  let base := base.set "Overview"
    (((base.get "Overview").or (base.get "Description")).getD (.string ""))
  let base := env.applyLiveTvProgramRuntimeTicks base
  let imageChannel ←
    if (liveTvImageUrl base).isSome then pure none
    else channels.findM? fun channel =>
      (channel.stringFields ["Id"]).anyM (jellyfinIdMatches · channelId)
  let base :=
    match imageChannel.bind liveTvImageUrl with
    | some imageUrl => base.set "ImageUrl" (.string imageUrl)
    | none => base
  return applyLiveTvCategoryFlags (applyLiveTvImageMetadata base)

def liveTvProgramItem (sourceId : String) (channels : List Json) (program : Json) (index : Nat) :
    Except Panic (Option Json) :=
  match itemBase program with
  | some (base, rawName) => (env.programItemOf sourceId channels base rawName index).map some
  | none => .ok none

def collectLiveTvPrograms (config : Json) (collectionKey : String) (channels : List Json) :
    Except Panic (List Json) := do
  let programs ← (elements config collectionKey).mapM fun (source, sourceIndex) =>
    let sourceId := (source.stringField "Id").getD
      (collectionKey ++ "-" ++ toString sourceIndex)
    (elements source "Programs").mapM fun (program, programIndex) =>
      env.liveTvProgramItem sourceId channels program programIndex
  return programs.flatten.reduceOption

def programStart (program : Json) : String := (program.stringField "StartDate").getD ""

def programName (program : Json) : String :=
  toAsciiLowercase ((program.stringField "Name").getD "")

def liveTvProgramItems (config : Json) : Except Panic (List Json) := do
  let channels := env.liveTvChannelItems config
  let listed ← env.collectLiveTvPrograms config "ListingProviders" channels
  let broadcast ← env.collectLiveTvPrograms config "TunerHosts" channels
  return (listed ++ broadcast).insertionSort fun left right =>
    programStart left < programStart right ∨
      programStart left = programStart right ∧ programName left ≤ programName right

end Surroundings

end Jellyrin.LiveTv.Guide
