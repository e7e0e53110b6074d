import Jellyrin.Defs.Data.Separated
import Jellyrin.Defs.Data.FixedWidth
import Jellyrin.Defs.Items.MediaItem
import Jellyrin.Defs.Playback.DedupeKey

/-! What a client says about the device that will play an item, and what is told from the streams of
the item. -/

namespace Jellyrin.Playback

open Ascii

structure DirectPlayProfileMatcher where
  profileType : Option String
  containers : List String
  videoCodecs : List String
  audioCodecs : List String

structure TranscodingProfileMatcher where
  profileType : Option String
  context : Option String
  containers : List String
  protocols : List String
  videoCodecs : List String
  audioCodecs : List String
  maxWidth : Option UInt32
  maxHeight : Option UInt32
  videoBitrate : Option UInt32
  audioBitrate : Option UInt32

structure SubtitleProfileMatcher where
  format : Option String
  method : Option String

inductive CodecConditionProperty where
  | width
  | height
  | videoBitrate
  | audioBitrate
  | videoProfile
  | audioProfile
  | videoLevel
  | videoBitDepth
  | videoFrameRate
  | audioChannels
  deriving DecidableEq

inductive CodecConditionComparison where
  | equal
  | notEqual
  | equalAny
  | notEqualAny
  | lessThan
  | lessThanEqual
  | greaterThan
  | greaterThanEqual
  deriving DecidableEq

inductive CodecConditionValue where
  | numeric (value : UInt32)
  | text (value : String)
  deriving DecidableEq

structure CodecCondition where
  property : CodecConditionProperty
  comparison : CodecConditionComparison
  values : List CodecConditionValue
  isRequired : Bool
  deriving DecidableEq

structure CodecProfileMatcher where
  profileType : Option String
  codecs : List String
  conditions : List CodecCondition
  /-- The properties of required conditions that could not be read. -/
  invalidRequiredConditions : List (Option CodecConditionProperty)

structure PlaybackInfoOptions where
  enableDirectPlay : Bool
  enableDirectStream : Bool
  enableTranscoding : Bool
  maxStreamingBitrate : Option UInt32
  audioStreamIndex : Option Int
  subtitleStreamIndex : Option Int
  directPlayProfiles : Option (List DirectPlayProfileMatcher)
  transcodingProfiles : Option (List TranscodingProfileMatcher)
  subtitleProfiles : Option (List SubtitleProfileMatcher)
  pluginVodSelectionHls : Bool
  codecProfiles : List CodecProfileMatcher

structure PlaybackFormats extends Items.ItemFormats where
  /-- `parse_codec_level` of a text with a point. -/
  decimalCodecLevel : String → Option UInt32
  parseFrameRateMillihertz : String → Option UInt32
  isXtreamRemoteMedia : Json → Bool
  isPluginVodRemoteMedia : Json → Bool

/-! Conditions. -/

def codecNumericValue : CodecConditionValue → Option UInt32
  | .numeric value => some value
  | .text _ => none

def compareNumbers (test : UInt32 → UInt32 → Bool) (condition : CodecCondition) :
    CodecConditionValue → Bool
  | .numeric actual =>
    match condition.values.head? with
    | some (.numeric value) => test actual value
    | _ => false
  | .text _ => false

def codecConditionMatches (condition : CodecCondition) :
    Option CodecConditionValue → Bool
  | none => !condition.isRequired
  | some actual =>
    match condition.comparison with
    | .equal => condition.values.head? == some actual
    | .notEqual => condition.values.head? != some actual
    | .equalAny => condition.values.contains actual
    | .notEqualAny => !condition.values.contains actual
    | .lessThan => compareNumbers (fun actual value => actual < value) condition actual
    | .lessThanEqual => compareNumbers (fun actual value => actual ≤ value) condition actual
    | .greaterThan => compareNumbers (fun actual value => value < actual) condition actual
    | .greaterThanEqual => compareNumbers (fun actual value => value ≤ actual) condition actual

def codecProfileTargetsStream (profile : CodecProfileMatcher) (item : Items.MediaItem)
    (streamType : String) (codec : Option String) : Bool :=
  let profileTypeMatches :=
    match profile.profileType.map toAsciiLowercase with
    | none => true
    | some "video" => eqIgnoreAsciiCase streamType "Video"
    | some "videoaudio" =>
      eqIgnoreAsciiCase item.mediaType "Video" && eqIgnoreAsciiCase streamType "Audio"
    | some "audio" =>
      eqIgnoreAsciiCase item.mediaType "Audio" && eqIgnoreAsciiCase streamType "Audio"
    | some _ => false
  profileTypeMatches &&
    (profile.codecs.isEmpty ||
      codec.any fun codec => profile.codecs.any fun candidate => eqIgnoreAsciiCase candidate codec)

/-! Texts. -/

def removeChars (removed : List Char) (value : String) : String :=
  String.ofList (value.toList.filter fun c => !removed.contains c)

def normalizeCodecProfile (property : CodecConditionProperty) (value : String) :
    Option String :=
  let normalized := removeChars [' ', '_', '-', '.'] (toAsciiLowercase (Json.trim value))
  if normalized = "" then none
  else if property = .audioProfile ∧ normalized ∈ ["aaclc", "aaclow", "lowcomplexity"] then
    some "lc"
  else some normalized

def audioChannelsFromLayout (value : String) : Option UInt32 :=
  let value := toAsciiLowercase (Json.trim value)
  if value = "mono" then some 1
  else if value = "stereo" then some 2
  else
    match Json.trim ((splitOnce (· == '(') value.toList).elim value fun parts =>
        String.ofList parts.1) with
    | "1.0" => some 1
    | "2.0" => some 2
    | "2.1" => some 3
    | "3.0" => some 3
    | "4.0" => some 4
    | "5.0" => some 5
    | "5.1" => some 6
    | "6.1" => some 7
    | "7.1" => some 8
    | _ => none

def isTextSubtitleCodec (codec : String) : Bool :=
  ["subrip", "srt", "ass", "ssa", "webvtt", "vtt", "mov_text"].contains (toAsciiLowercase codec)

/-! Streams. -/

def hasType (stream : Json) (streamType : String) : Bool :=
  ((stream.get "Type").bind Json.asStr).any (eqIgnoreAsciiCase · streamType)

def indexOf (stream : Json) : Option Int := (stream.get "Index").bind Json.valueI64

def codecOf (stream : Json) : Option String :=
  (((stream.get "Codec").bind Json.asStr).map Json.trim).filter (· ≠ "")

def mediaItemStreamCodec (item : Items.MediaItem) (streamType : String) : Option String :=
  item.mediaStreams.findSome? fun stream =>
    if hasType stream streamType then codecOf stream else none

def mediaItemStreamCodecByIndex (item : Items.MediaItem) (streamType : String) (index : Int) :
    Option String :=
  item.mediaStreams.findSome? fun stream =>
    if hasType stream streamType && indexOf stream == some index then codecOf stream else none

def defaultAudioStreamIndex (mediaStreams : List Json) : Option Int :=
  let indexed := mediaStreams.filter fun stream =>
    hasType stream "Audio" && (indexOf stream).isSome
  ((indexed.find? fun stream => ((stream.get "IsDefault").bind Json.asBool).getD false).or
    indexed.head?).bind indexOf

def PlaybackFormats.codecConditionRawValue (fmt : PlaybackFormats) : Json → Option String
  | .string value => if Json.trim value = "" then none else some (Json.trim value)
  | .number value => some (toString value)
  | .float bits => some (fmt.floatText bits)
  | _ => none

namespace PlaybackFormats

variable (fmt : PlaybackFormats) (item : Items.MediaItem) (options : PlaybackInfoOptions)

def parseCodecLevel (value : String) : Option UInt32 :=
  if value.toList.contains '.' then fmt.decimalCodecLevel value
  else (parseU32 value).filter fun level => 1 ≤ level ∧ level ≤ 255

def selectedAudioStreamIndex : Option Int :=
  options.audioStreamIndex.or (defaultAudioStreamIndex (fmt.mediaItemStreams item))

def selectedAudioCodec : Option String :=
  (fmt.selectedAudioStreamIndex item options).bind (mediaItemStreamCodecByIndex item "Audio")

def mediaItemStreamU32 (streamType : String) (selectedIndex : Option Int) (field : String) :
    Option UInt32 :=
  (fmt.mediaItemStreams item).findSome? fun stream =>
    if hasType stream streamType &&
        (selectedIndex.isNone || indexOf stream == selectedIndex) then
      ((stream.get field).bind Json.valueI64).bind U32.positive
    else none

def codecConditionStream (streamType : String) : Option Json :=
  let selectedIndex :=
    if eqIgnoreAsciiCase streamType "Audio" then fmt.selectedAudioStreamIndex item options
    else none
  (fmt.mediaItemStreams item).find? fun stream =>
    (stream.stringField "Type").any (eqIgnoreAsciiCase · streamType) &&
      selectedIndex.all fun index => stream.i64Field "Index" == some index

def codecProfileOf (property : CodecConditionProperty) (streamType : String) :
    Option CodecConditionValue :=
  ((fmt.codecConditionStream item options streamType).bind fun stream =>
    (stream.stringField "Profile").bind (normalizeCodecProfile property)).map .text

def codecConditionPropertyValue (property : CodecConditionProperty) :
    Option CodecConditionValue :=
  match property with
  | .width =>
    ((item.width.bind U32.positive).or (fmt.mediaItemStreamU32 item "Video" none "Width")).map
      .numeric
  | .height =>
    ((item.height.bind U32.positive).or (fmt.mediaItemStreamU32 item "Video" none "Height")).map
      .numeric
  | .videoBitrate =>
    ((fmt.mediaItemStreamU32 item "Video" none "BitRate").or (item.bitrate.bind U32.positive)).map
      .numeric
  | .audioBitrate =>
    ((fmt.mediaItemStreamU32 item "Audio" (fmt.selectedAudioStreamIndex item options)
        "BitRate").or
      (if eqIgnoreAsciiCase item.mediaType "Audio" then item.bitrate.bind U32.positive
        else none)).map .numeric
  | .videoProfile => fmt.codecProfileOf item options property "Video"
  | .audioProfile => fmt.codecProfileOf item options property "Audio"
  | .videoLevel =>
    ((fmt.codecConditionStream item options "Video").bind fun stream =>
      ((stream.fieldCaseInsensitive "Level").bind fmt.codecConditionRawValue).bind
        fmt.parseCodecLevel).map .numeric
  | .videoBitDepth =>
    ((fmt.codecConditionStream item options "Video").bind fun stream =>
      (stream.i64Field "BitDepth").bind U32.positive).map .numeric
  | .videoFrameRate =>
    ((fmt.codecConditionStream item options "Video").bind fun stream =>
      (["RealFrameRate", "ReferenceFrameRate", "AverageFrameRate"].findSome? fun field =>
        (stream.fieldCaseInsensitive field).bind fmt.codecConditionRawValue).bind
        fmt.parseFrameRateMillihertz).map .numeric
  | .audioChannels =>
    ((fmt.codecConditionStream item options "Audio").bind fun stream =>
      ((stream.i64Field "Channels").bind U32.positive).or
        ((stream.stringField "ChannelLayout").bind audioChannelsFromLayout)).map .numeric

def sourceNumeric (property : CodecConditionProperty) : Option UInt32 :=
  (fmt.codecConditionPropertyValue item options property).bind codecNumericValue

end PlaybackFormats

/-! Samples. -/

def plainPlaybackFormats : PlaybackFormats where
  toItemFormats := Items.plainFormats
  decimalCodecLevel _ := none
  parseFrameRateMillihertz value :=
    ((parseU32 value).filter fun rate => 0 < rate ∧ rate ≤ 1000).map (· * 1000)
  isXtreamRemoteMedia _ := false
  isPluginVodRemoteMedia _ := false

def plainOptions : PlaybackInfoOptions where
  enableDirectPlay := true
  enableDirectStream := true
  enableTranscoding := true
  maxStreamingBitrate := none
  audioStreamIndex := none
  subtitleStreamIndex := none
  directPlayProfiles := none
  transcodingProfiles := none
  subtitleProfiles := none
  pluginVodSelectionHls := false
  codecProfiles := []

def videoStream (codec : String) (index rate : Int) : Json :=
  .object [("Codec", .string codec), ("Index", .number index), ("RealFrameRate", .number rate),
    ("Type", .string "Video")]

def audioStream (codec : String) (index channels : Int) : Json :=
  .object [("Channels", .number channels), ("Codec", .string codec), ("Index", .number index),
    ("Type", .string "Audio")]

end Jellyrin.Playback
