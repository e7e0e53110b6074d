import Jellyrin.Defs.Data.Base64
import Jellyrin.Defs.Data.EntityId
import Jellyrin.Defs.Data.JsonFields
import Jellyrin.Defs.Data.Utf8
import Mathlib.Data.Finset.Basic

/-! The live channels that are imported from a provider, and how they are played. -/

namespace Jellyrin.Xtream

open Ascii Json Text

def xtreamProviderType : String := "xtream"

def xtreamPrimaryTunerId : String := "xtream-plugin"

def xtreamMaxBaseUrlBytes : Nat := 16 * 1024

def xtreamMaxImageUrlBytes : Nat := 16 * 1024

def xtreamMaxCredentialBytes : Nat := 4 * 1024

structure UrlCrate (Url : Type) where
  parse : String → Option Url
  toString : Url → String
  scheme : Url → String
  hostStr : Url → Option String
  username : Url → String
  password : Url → Option String
  query : Url → Option String
  fragment : Url → Option String
  setPath : Url → String → Url
  clearQuery : Url → Url
  clearFragment : Url → Url
  /-- `path_segments_mut`, of which the segments are cleared and these pushed. -/
  withSegments : Url → List String → Option Url

namespace UrlCrate

variable {Url : Type} (crate : UrlCrate Url)

def isHttp (url : Url) : Bool := crate.scheme url == "http" || crate.scheme url == "https"

/-- What is relied upon: an address with one of these schemes has a path of segments, and only
the part that is set changes. -/
structure Lawful : Prop where
  withSegments : ∀ url, crate.isHttp url = true → ∀ segments,
    (crate.withSegments url segments).isSome
  scheme_setPath : ∀ url path, crate.scheme (crate.setPath url path) = crate.scheme url
  scheme_clearQuery : ∀ url, crate.scheme (crate.clearQuery url) = crate.scheme url
  scheme_clearFragment : ∀ url, crate.scheme (crate.clearFragment url) = crate.scheme url

end UrlCrate

def liveTvU64Field (value : Json) (key : String) : Option Nat :=
  match value.get key with
  | some (.number n) => if 0 ≤ n ∧ n < 2 ^ 64 then some n.toNat else none
  | some (.string text) => parseUnsigned (2 ^ 64 - 1) text
  | _ => none

def textOrNumberField (value : Json) (field : String) : Option String :=
  (value.stringField field).or ((liveTvU64Field value field).map ToString.toString)

def itemCategoryId (item : Json) : Option String := textOrNumberField item "category_id"

structure LiveTvXtreamImportOptions where
  includeCategoryIds : Finset String
  excludeCategoryIds : Finset String
  limit : Option Nat

def LiveTvXtreamImportOptions.allows (options : LiveTvXtreamImportOptions) (stream : Json) : Bool :=
  let categoryId := itemCategoryId stream
  if options.includeCategoryIds ≠ ∅ ∧ categoryId.all (· ∉ options.includeCategoryIds) then false
  else !categoryId.any (· ∈ options.excludeCategoryIds)

def validXtreamSecret (value : String) : Bool :=
  value ≠ "" && value.utf8ByteSize ≤ xtreamMaxCredentialBytes && !value.toList.any isControl

def validXtreamIdentifier (value : String) : Bool :=
  value ≠ "" && value.utf8ByteSize ≤ 512 && !value.toList.any isControl

def xtreamExtensions : List String :=
  ["ts", "m2ts", "mts", "mp4", "m4v", "mov", "mkv", "webm", "avi", "asf", "wmv", "flv", "mpg",
    "mpeg", "mp3", "flac", "aac", "ogg", "oga", "wav"]

def sanitizedXtreamExtension (value : String) : Option String :=
  let extension := (stripPrefix (trim value) ".").getD (trim value)
  if extension = "" ∨ 32 < extension.utf8ByteSize ∨
      extension.toList.all Char.isAlphanum = false then none
  else if toAsciiLowercase extension ∈ xtreamExtensions then some (toAsciiLowercase extension)
  else none

structure XtreamRemoteSourceRef where
  version : UInt8
  provider : String
  tunerId : String
  kind : String
  remoteId : String
  extension : String
  deriving DecidableEq

namespace XtreamRemoteSourceRef

def new (tunerId kind remoteId extension : String) : Option XtreamRemoteSourceRef :=
  if trim tunerId = "" ∨ 512 < tunerId.utf8ByteSize ∨ tunerId.toList.any isControl = true ∨
      validXtreamIdentifier remoteId = false then none
  else
    (sanitizedXtreamExtension extension).bind fun extension =>
      if kind ∈ ["live", "vod", "series-episode"] then
        some
          { version := 1
            provider := xtreamProviderType
            tunerId := trim tunerId
            kind
            remoteId
            extension }
      else none

def asU8 : Json → Option UInt8
  | .number n => if 0 ≤ n ∧ n < 256 then some (.ofNat n.toNat) else none
  | _ => none

def fromValue : Json → Option XtreamRemoteSourceRef
  | .array [version, provider, tunerId, kind, remoteId, extension] => do
    some
      { version := ← asU8 version
        provider := ← provider.asStr
        tunerId := ← tunerId.asStr
        kind := ← kind.asStr
        remoteId := ← remoteId.asStr
        extension := ← extension.asStr }
  | .object fields => do
    let value := Json.object fields
    some
      { version := ← (value.get "Version").bind asU8
        provider := ← (value.get "Provider").bind asStr
        tunerId := ← (value.get "TunerId").bind asStr
        kind := ← (value.get "Kind").bind asStr
        remoteId := ← (value.get "RemoteId").bind asStr
        extension := ← (value.get "Extension").bind asStr }
  | _ => none

def toJson (reference : XtreamRemoteSourceRef) : Json :=
  .object
    [("Extension", .string reference.extension), ("Kind", .string reference.kind),
      ("Provider", .string reference.provider), ("RemoteId", .string reference.remoteId),
      ("TunerId", .string reference.tunerId), ("Version", .number reference.version.toNat)]

end XtreamRemoteSourceRef

def escapeChar (c : Char) : List Char :=
  if c = '"' then ['\\', '"']
  else if c = '\\' then ['\\', '\\']
  else if c = '\x08' then ['\\', 'b']
  else if c = '\x0C' then ['\\', 'f']
  else if c = '\n' then ['\\', 'n']
  else if c = '\r' then ['\\', 'r']
  else if c = '\t' then ['\\', 't']
  else if c.toNat < 0x20 then
    ['\\', 'u', '0', '0', (c.toNat / 16).digitChar, (c.toNat % 16).digitChar]
  else [c]

def jsonString (s : String) : String := "\"" ++ String.ofList (s.toList.flatMap escapeChar) ++ "\""

def XtreamRemoteSourceRef.text (reference : XtreamRemoteSourceRef) : String :=
  "\x7b\"Version\":" ++ ToString.toString reference.version.toNat ++
    ",\"Provider\":" ++ jsonString reference.provider ++
    ",\"TunerId\":" ++ jsonString reference.tunerId ++
    ",\"Kind\":" ++ jsonString reference.kind ++
    ",\"RemoteId\":" ++ jsonString reference.remoteId ++
    ",\"Extension\":" ++ jsonString reference.extension ++ "\x7d"

def encodedLiveProviderReference (reference : XtreamRemoteSourceRef) : String :=
  "xtream:v1:" ++ String.ofList (Base64.encode (asBytes reference.text))

def xtreamRemoteSourceRef (value : Json) : Option XtreamRemoteSourceRef := do
  let reference ← XtreamRemoteSourceRef.fromValue value
  if reference.version ≠ 1 ∨ eqIgnoreAsciiCase reference.provider xtreamProviderType = false then
    none
  else XtreamRemoteSourceRef.new reference.tunerId reference.kind reference.remoteId reference.extension

def xtreamLiveChannelId (tunerId remoteId : String) : String :=
  if eqIgnoreAsciiCase tunerId xtreamPrimaryTunerId then "xtream_" ++ remoteId
  else "xtream_" ++ stableEntityId "xtream-live-channel" (tunerId ++ ":" ++ remoteId)

section Urls

variable {Url : Type} (crate : UrlCrate Url)

def validatedXtreamBaseUrl (baseUrl : String) : Option Url :=
  if baseUrl = "" ∨ xtreamMaxBaseUrlBytes < baseUrl.utf8ByteSize ∨
      baseUrl.toList.any isControl = true then none
  else
    (crate.parse baseUrl).bind fun url =>
      if crate.isHttp url = false ∨ crate.hostStr url = none ∨ crate.username url ≠ "" ∨
          crate.password url ≠ none ∨ crate.fragment url ≠ none then none
      else some (crate.clearFragment (crate.clearQuery (crate.setPath url "/")))

def safeXtreamImageUrl (value : String) : Option String :=
  if value = "" ∨ xtreamMaxImageUrlBytes < value.utf8ByteSize ∨
      value.toList.any isControl = true then none
  else
    (crate.parse value).bind fun url =>
      if crate.isHttp url = false ∨ crate.hostStr url = none ∨ crate.username url ≠ "" ∨
          crate.password url ≠ none ∨ crate.query url ≠ none ∨ crate.fragment url ≠ none then none
      else some (crate.toString url)

def itemUrl (collection : String) (baseUrl : Url) (username password file : String) :
    Option String :=
  (crate.withSegments baseUrl [collection, username, password, file]).map crate.toString

def streamUrl (baseUrl : Url) (username password streamId : String) : Option String :=
  itemUrl crate "live" baseUrl username password (streamId ++ ".ts")

def movieUrl (baseUrl : Url) (username password streamId extension : String) : Option String :=
  itemUrl crate "movie" baseUrl username password (streamId ++ "." ++ extension)

def seriesUrl (baseUrl : Url) (username password episodeId extension : String) : Option String :=
  itemUrl crate "series" baseUrl username password (episodeId ++ "." ++ extension)

def configuredUsername (tunerConfig : Json) : Option String :=
  (tunerConfig.stringField "Username").or (tunerConfig.stringField "UserName")

def resolveRemoteSourceRef (tunerConfig value : Json) : Option String := do
  let reference ← xtreamRemoteSourceRef value
  let configuredTunerId ← tunerConfig.stringField "Id"
  if eqIgnoreAsciiCase configuredTunerId reference.tunerId = false then none
  else
    let baseUrl ← (tunerConfig.stringField "Url").bind (validatedXtreamBaseUrl crate)
    let username ← configuredUsername tunerConfig
    let password ← tunerConfig.stringField "Password"
    if validXtreamSecret username = false ∨ validXtreamSecret password = false then none
    else
      match reference.kind with
      | "live" => streamUrl crate baseUrl username password reference.remoteId
      | "vod" => movieUrl crate baseUrl username password reference.remoteId reference.extension
      | "series-episode" =>
        seriesUrl crate baseUrl username password reference.remoteId reference.extension
      | _ => none

def resolveLiveProviderReference (fromSlice : List UInt8 → Option Json) (tunerConfig : Json)
    (providerReference : String) : Option String := do
  let encoded ← stripPrefix (trim providerReference) "xtream:v1:"
  if encoded = "" ∨ 4 * 1024 < encoded.utf8ByteSize then none
  else
    let bytes ← Base64.decode encoded.toList
    let value ← fromSlice bytes
    let reference ← xtreamRemoteSourceRef value
    if reference.kind = "live" then resolveRemoteSourceRef crate tunerConfig value else none

def streamReference (tunerId : String) (stream : Json) : Option XtreamRemoteSourceRef := do
  let streamId ← textOrNumberField stream "stream_id"
  if validXtreamIdentifier streamId then XtreamRemoteSourceRef.new tunerId "live" streamId "ts"
  else none

def orNull (value : Option String) : Json := value.elim .null .string

def setIfSome (field : String) (value : Option String) (channel : Json) : Json :=
  value.elim channel fun text => channel.set field (.string text)

def parseStream (tunerId : String) (stream : Json) : Option Json := do
  let streamId ← textOrNumberField stream "stream_id"
  let reference ← streamReference tunerId stream
  let epgChannelId := stream.stringField "epg_channel_id"
  let channel := Json.ofFields
    [("Id", .string (xtreamLiveChannelId tunerId streamId)),
      ("RemoteId", .string streamId),
      ("Name", .string ((stream.stringField "name").getD streamId)),
      ("Number", orNull (textOrNumberField stream "num")),
      ("ProviderReference", .string (encodedLiveProviderReference reference)),
      ("ProviderType", .string xtreamProviderType),
      ("ChannelType", .string "TV"),
      ("IsHD", .bool false),
      ("IsFavorite", .bool false)]
  some (setIfSome "ImageUrl" ((stream.stringField "stream_icon").bind (safeXtreamImageUrl crate))
    (setIfSome "CategoryId" (itemCategoryId stream)
      (setIfSome "GuideChannelId" epgChannelId (setIfSome "GuideNumber" epgChannelId channel))))

def parseStreams (tunerId : String) (streams : List Json) (options : LiveTvXtreamImportOptions) :
    List Json :=
  let allowed := streams.filter options.allows
  ((options.limit.map allowed.take).getD allowed).filterMap (parseStream crate tunerId)

end Urls

end Jellyrin.Xtream
