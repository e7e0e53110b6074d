import Jellyrin.Defs.Playback.OutputConstraints
import Jellyrin.Defs.Transcode.CommandClass

/-! How an item is delivered to a client: as it is, remuxed, or transcoded. -/

namespace Jellyrin.Playback

open Ascii Transcode

inductive DeliveryMode where
  | directLocal
  | directProxy
  | hlsRemux
  | hlsTranscode
  | unsupported
  deriving DecidableEq

structure TranscodeDecision where
  delivery : DeliveryMode
  video : HlsStreamMode
  audio : HlsStreamMode
  reasons : List String
  output : PlaybackOutputConstraints
  deriving DecidableEq

def TranscodeDecision.unsupported (reasons : List String) : TranscodeDecision where
  delivery := .unsupported
  video := .drop
  audio := .drop
  reasons
  output := .default

def admits (candidates : List String) (value : String) : Bool :=
  candidates.isEmpty || candidates.any fun candidate => eqIgnoreAsciiCase candidate value

def isForType (profileType : Option String) (item : Items.MediaItem) : Bool :=
  profileType.all fun profileType => eqIgnoreAsciiCase profileType item.mediaType

def directPlayProfileMatches (item : Items.MediaItem) (profile : DirectPlayProfileMatcher) :
    Bool :=
  isForType profile.profileType item &&
    (Items.mediaItemContainer item).any fun container =>
      admits profile.containers container &&
        (profile.videoCodecs.isEmpty ||
          (mediaItemStreamCodec item "Video").any (admits profile.videoCodecs)) &&
        (mediaItemStreamCodec item "Audio").all (admits profile.audioCodecs)

def playbackProfileCompatible (item : Items.MediaItem) (options : PlaybackInfoOptions) : Bool :=
  options.directPlayProfiles.all fun profiles => profiles.any (directPlayProfileMatches item)

def playbackProfileVideoCodecCompatible (item : Items.MediaItem)
    (options : PlaybackInfoOptions) : Bool :=
  options.directPlayProfiles.all fun profiles => profiles.any fun profile =>
    isForType profile.profileType item &&
      (profile.videoCodecs.isEmpty ||
        (mediaItemStreamCodec item "Video").any (admits profile.videoCodecs))

def pushTranscodeReason (reasons : List String) (reason : String) : List String :=
  if reason ∈ reasons then reasons else reasons ++ [reason]

def hlsVideoStreamCopySupported (item : Items.MediaItem) : Bool :=
  item.mediaType ≠ "Video" ||
    (mediaItemStreamCodec item "Video").any (eqIgnoreAsciiCase · "h264")

def selectedTextSubtitlePrefersHls (options : PlaybackInfoOptions) : Bool :=
  options.subtitleProfiles.any fun profiles => profiles.any fun profile =>
    profile.method = some "hls" ∧
      (profile.format = some "vtt" ∨ profile.format = some "webvtt")

def conditionProperties (streamType : String) : List CodecConditionProperty :=
  if eqIgnoreAsciiCase streamType "Video" then
    [.videoProfile, .videoLevel, .videoBitDepth, .videoFrameRate, .width, .height, .videoBitrate]
  else [.audioProfile, .audioChannels, .audioBitrate]

def CodecConditionProperty.reason : CodecConditionProperty → String
  | .videoProfile => "VideoProfileNotSupported"
  | .videoLevel => "VideoLevelNotSupported"
  | .videoBitDepth => "VideoBitDepthNotSupported"
  | .videoFrameRate => "VideoFramerateNotSupported"
  | .width | .height => "VideoResolutionNotSupported"
  | .videoBitrate => "ContainerBitrateExceedsLimit"
  | .audioProfile => "AudioProfileNotSupported"
  | .audioChannels => "AudioChannelsNotSupported"
  | .audioBitrate => "AudioBitrateNotSupported"

def selectedSubtitleStreamIsImage (streams : List Json) (subtitleStreamIndex : Option Int) : Bool :=
  (subtitleStreamIndex.filter (0 ≤ ·)).any fun selected => streams.any fun stream =>
    hasType stream "Subtitle" && indexOf stream == some selected &&
      ((stream.get "Codec").bind Json.asStr).any fun codec => !isTextSubtitleCodec codec

def isTextSubtitle (stream : Json) : Bool :=
  hasType stream "Subtitle" && ((stream.get "Codec").bind Json.asStr).any isTextSubtitleCodec

namespace PlaybackFormats

variable (fmt : PlaybackFormats) (item : Items.MediaItem) (options : PlaybackInfoOptions)

def pluginVodDirectStreamProfileCompatible : Bool :=
  !(eqIgnoreAsciiCase item.mediaType "Video" && !fmt.mediaItemHasStreamType item "Video") &&
    options.directPlayProfiles.all fun profiles => profiles.any fun profile =>
      isForType profile.profileType item &&
        (Items.mediaItemContainer item).any fun container =>
          admits profile.containers container &&
            (mediaItemStreamCodec item "Video").all (admits profile.videoCodecs) &&
            (mediaItemStreamCodec item "Audio").all (admits profile.audioCodecs)

def playbackProfileCodecsCompatible : Bool :=
  options.directPlayProfiles.all fun profiles => profiles.any fun profile =>
    isForType profile.profileType item &&
      (profile.videoCodecs.isEmpty ||
        (mediaItemStreamCodec item "Video").any (admits profile.videoCodecs)) &&
      (profile.audioCodecs.isEmpty ||
        (fmt.selectedAudioCodec item options).all (admits profile.audioCodecs))

def streamCodec (streamType : String) : Option String :=
  if eqIgnoreAsciiCase streamType "Audio" then fmt.selectedAudioCodec item options
  else mediaItemStreamCodec item streamType

def streamProfiles (streamType : String) : List CodecProfileMatcher :=
  options.codecProfiles.filter fun profile =>
    codecProfileTargetsStream profile item streamType (fmt.streamCodec item options streamType)

def meets (condition : CodecCondition) : Bool :=
  codecConditionMatches condition (fmt.codecConditionPropertyValue item options condition.property)

def playbackCodecConditionsCompatible (streamType : String) : Bool :=
  (fmt.streamProfiles item options streamType).all fun profile =>
    profile.invalidRequiredConditions.isEmpty &&
      profile.conditions.all (fmt.meets item options)

def codecConditionPropertyCompatible (streamType : String) (property : CodecConditionProperty) :
    Bool :=
  !((fmt.streamProfiles item options streamType).any fun profile =>
      profile.invalidRequiredConditions.contains (some property)) &&
    (((fmt.streamProfiles item options streamType).flatMap (·.conditions)).filter
      fun condition => condition.property = property).all (fmt.meets item options)

def codecConditionsHaveUnknownRequiredCondition (streamType : String) : Bool :=
  (fmt.streamProfiles item options streamType).any fun profile =>
    profile.invalidRequiredConditions.any Option.isNone

def codecConditionIncompatibilityReasons (streamType : String) : List String :=
  let reasons := ((conditionProperties streamType).filter fun property =>
    !fmt.codecConditionPropertyCompatible item options streamType property).map (·.reason)
  let unknown :=
    if fmt.codecConditionsHaveUnknownRequiredCondition item options streamType then
      ["NoCompatibleStream"]
    else []
  (reasons ++ unknown).foldl pushTranscodeReason []

def textSubtitleProfileSupportsExternal : Bool :=
  (fmt.mediaItemStreams item).any isTextSubtitle &&
    options.subtitleProfiles.any fun profiles => profiles.any fun profile =>
      profile.method = some "external" ∧
        (profile.format = some "vtt" ∨ profile.format = some "webvtt")

def selectedTextSubtitleCanUseExternal : Bool :=
  (options.subtitleStreamIndex.filter (0 ≤ ·)).any fun index =>
    ((fmt.mediaItemStreams item).any fun stream =>
        isTextSubtitle stream && indexOf stream == some index) &&
      fmt.textSubtitleProfileSupportsExternal item options

def hlsAudioStreamCopySupported : Bool :=
  (fmt.selectedAudioStreamIndex item options).all fun selectedIndex =>
    (mediaItemStreamCodecByIndex item "Audio" selectedIndex).any fun codec =>
      ["aac", "mp3"].contains (toAsciiLowercase codec)

def selectedAudioStreamNeedsTranscode : Bool :=
  item.mediaType = "Video" &&
    (fmt.selectedAudioCodec item options).any fun codec =>
      ["ac3", "eac3", "dts", "truehd", "mlp", "flac"].contains (toAsciiLowercase codec)

def pluginVodHasNondefaultStreamSelection : Bool :=
  (options.audioStreamIndex.any fun selected =>
      (defaultAudioStreamIndex (fmt.mediaItemStreams item)).any fun default =>
        selected ≠ default) ||
    options.subtitleStreamIndex.any fun selected => 0 ≤ selected

def hlsTranscodingProfileMatches (profile : TranscodingProfileMatcher)
    (videoMode audioMode : HlsStreamMode) : Bool :=
  let outputVideoCodec :=
    match videoMode with
    | .encode => some "h264"
    | .copy => mediaItemStreamCodec item "Video"
    | .drop => none
  let outputAudioCodec :=
    match audioMode with
    | .encode => some "aac"
    | .copy => fmt.selectedAudioCodec item options
    | .drop => none
  isForType profile.profileType item &&
    (profile.context.all (eqIgnoreAsciiCase · "Streaming")) &&
    admits profile.protocols "hls" &&
    (profile.containers.isEmpty ||
      profile.containers.any fun container => ["ts", "mpegts"].contains container) &&
    outputVideoCodec.all (admits profile.videoCodecs) &&
    outputAudioCodec.all (admits profile.audioCodecs)

def selectedHlsTranscodingProfile (videoMode audioMode : HlsStreamMode) :
    Option TranscodingProfileMatcher :=
  options.transcodingProfiles.bind fun profiles => profiles.find? fun profile =>
    fmt.hlsTranscodingProfileMatches item options profile videoMode audioMode

def hlsTranscodingProfileSupported (videoMode audioMode : HlsStreamMode) : Bool :=
  options.transcodingProfiles.isNone ||
    (fmt.selectedHlsTranscodingProfile item options videoMode audioMode).isSome

/-! What the decision is taken on. -/

variable (metadata : Option Json) (ffmpegMode : FfmpegMode)

def pluginVodRemote : Bool := metadata.any fmt.isPluginVodRemoteMedia

def isRemote : Bool := metadata.any fmt.isXtreamRemoteMedia || fmt.pluginVodRemote metadata

def pluginVodStreamSelectionRequiresHls : Bool :=
  options.pluginVodSelectionHls && ffmpegMode ≠ .disabled && fmt.pluginVodRemote metadata &&
    fmt.pluginVodHasNondefaultStreamSelection item options

def selectedSubtitleRequiresProcessing : Bool :=
  (options.subtitleStreamIndex.any fun index => 0 ≤ index) &&
    !fmt.selectedTextSubtitleCanUseExternal item options

def profileCompatible : Bool :=
  if fmt.pluginVodRemote metadata then fmt.pluginVodDirectStreamProfileCompatible item options
  else playbackProfileCompatible item options

def videoCodecConditionsCompatible : Bool :=
  item.mediaType ≠ "Video" || fmt.playbackCodecConditionsCompatible item options "Video"

def audioCodecConditionsCompatible : Bool :=
  fmt.playbackCodecConditionsCompatible item options "Audio"

def maxStreamingBitrateExceeded : Bool :=
  options.maxStreamingBitrate.any fun limit =>
    (item.bitrate.bind U32.positive).any fun bitrate => limit < bitrate

def directRequested : Bool := options.enableDirectPlay || options.enableDirectStream

def directCompatible : Bool :=
  (fmt.profileCompatible item options metadata ||
      (!fmt.isRemote metadata && options.enableDirectStream)) &&
    fmt.videoCodecConditionsCompatible item options &&
    fmt.audioCodecConditionsCompatible item options &&
    !maxStreamingBitrateExceeded item options

def directChosen : Bool :=
  directRequested options && fmt.directCompatible item options metadata &&
    !fmt.selectedAudioStreamNeedsTranscode item options &&
    !fmt.selectedSubtitleRequiresProcessing item options &&
    !fmt.pluginVodStreamSelectionRequiresHls item options metadata ffmpegMode

def remuxVideoMode : HlsStreamMode :=
  if item.mediaType = "Video" then .copy else .drop

def remuxChosen : Bool :=
  ffmpegMode ≠ .disabled && options.enableDirectStream &&
    fmt.playbackProfileCodecsCompatible item options &&
    fmt.videoCodecConditionsCompatible item options &&
    fmt.audioCodecConditionsCompatible item options &&
    !maxStreamingBitrateExceeded item options &&
    !fmt.selectedAudioStreamNeedsTranscode item options &&
    (!fmt.selectedSubtitleRequiresProcessing item options ||
      selectedTextSubtitlePrefersHls options) &&
    (hlsVideoStreamCopySupported item || selectedTextSubtitlePrefersHls options) &&
    fmt.hlsAudioStreamCopySupported item options &&
    fmt.hlsTranscodingProfileSupported item options (remuxVideoMode item) .copy

def transcodeReasons : List String :=
  let found :=
    (if fmt.profileCompatible item options metadata then [] else ["ContainerOrCodecNotSupported"]) ++
    (if fmt.selectedAudioStreamNeedsTranscode item options then ["AudioCodecNotSupported"]
      else []) ++
    (if fmt.selectedSubtitleRequiresProcessing item options then ["SubtitleCodecNotSupported"]
      else []) ++
    (if fmt.videoCodecConditionsCompatible item options then []
      else fmt.codecConditionIncompatibilityReasons item options "Video") ++
    (if fmt.audioCodecConditionsCompatible item options then []
      else fmt.codecConditionIncompatibilityReasons item options "Audio") ++
    (if maxStreamingBitrateExceeded item options then ["ContainerBitrateExceedsLimit"] else []) ++
    (if directRequested options then [] else ["DirectPlayDisabled"])
  found.foldl pushTranscodeReason []

def transcodeVideoMode : HlsStreamMode :=
  if item.mediaType ≠ "Video" then .drop
  else if
      (fmt.pluginVodStreamSelectionRequiresHls item options metadata ffmpegMode ||
          hlsVideoStreamCopySupported item) &&
        playbackProfileVideoCodecCompatible item options &&
        fmt.videoCodecConditionsCompatible item options &&
        !maxStreamingBitrateExceeded item options &&
        !selectedSubtitleStreamIsImage (fmt.mediaItemStreams item) options.subtitleStreamIndex then
    .copy
  else .encode

def transcodeAudioMode : HlsStreamMode :=
  if fmt.hlsAudioStreamCopySupported item options &&
      !fmt.selectedAudioStreamNeedsTranscode item options &&
      fmt.audioCodecConditionsCompatible item options &&
      !maxStreamingBitrateExceeded item options then .copy
  else .encode

def transcodeAllowed : Bool :=
  ffmpegMode = .enabled && options.enableTranscoding &&
    ["Audio", "Video"].contains item.mediaType

def transcodeOutput (videoMode audioMode : HlsStreamMode) : Option PlaybackOutputConstraints :=
  fmt.playbackOutputConstraints item options
    (fmt.selectedHlsTranscodingProfile item options videoMode audioMode) videoMode audioMode

def transcodeDecision : TranscodeDecision :=
  let reasons := fmt.transcodeReasons item options metadata
  let video := fmt.transcodeVideoMode item options metadata ffmpegMode
  let audio := fmt.transcodeAudioMode item options
  if fmt.hlsTranscodingProfileSupported item options video audio = false then
    TranscodeDecision.unsupported ["NoCompatibleStream"]
  else
    match fmt.transcodeOutput item options video audio with
    | none => TranscodeDecision.unsupported (pushTranscodeReason reasons "NoCompatibleStream")
    | some output => ⟨.hlsTranscode, video, audio, reasons, output⟩

def playbackDeliveryDecisionWithFfmpegMode : TranscodeDecision :=
  if fmt.directChosen item options metadata ffmpegMode then
    { delivery := if fmt.isRemote metadata then .directProxy else .directLocal
      video := remuxVideoMode item
      audio := .copy
      reasons := []
      output := .default }
  else if fmt.remuxChosen item options ffmpegMode then
    { delivery := .hlsRemux
      video := remuxVideoMode item
      audio := .copy
      reasons := ["ContainerNotSupported"]
      output := .default }
  else if transcodeAllowed item options ffmpegMode then
    fmt.transcodeDecision item options metadata ffmpegMode
  else TranscodeDecision.unsupported ["NoCompatibleStream"]

end PlaybackFormats

end Jellyrin.Playback
