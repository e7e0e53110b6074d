import Jellyrin.Defs.Data.SortOn
import Jellyrin.Defs.Playback.DeviceProfile

/-! The limits within which FFmpeg encodes an item. -/

namespace Jellyrin.Playback

open Ascii Transcode

def minVideoTranscodeBitrate : UInt32 := 2000000

def maxVideoTranscodeBitrate : UInt32 := 8000000

def minOptionalU32 : Option UInt32 → Option UInt32 → Option UInt32
  | some left, some right => some (min left right)
  | some value, none | none, some value => some value
  | none, none => none

section Conditions

variable (item : Items.MediaItem) (options : PlaybackInfoOptions) (streamType codec : String)

def targetingProfiles : List CodecProfileMatcher :=
  options.codecProfiles.filter fun profile =>
    codecProfileTargetsStream profile item streamType (some codec)

def codecOutputConditions (property : CodecConditionProperty) : List CodecCondition :=
  ((targetingProfiles item options streamType codec).flatMap (·.conditions)).filter
    fun condition => condition.property = property

def codecOutputHasInvalidRequiredCondition : Bool :=
  (targetingProfiles item options streamType codec).any fun profile =>
    !profile.invalidRequiredConditions.isEmpty

def CodecCondition.upperBound (condition : CodecCondition) : Option UInt32 :=
  match condition.comparison with
  | .equal | .lessThanEqual => condition.values.head?.bind codecNumericValue
  | .equalAny => (condition.values.filterMap codecNumericValue).max?
  | .lessThan =>
    (condition.values.head?.bind codecNumericValue).bind fun value => U32.checkedSub value 1
  | .notEqual | .notEqualAny | .greaterThan | .greaterThanEqual => none

def codecOutputUpperBound (property : CodecConditionProperty) : Option UInt32 :=
  ((codecOutputConditions item options streamType codec property).filterMap
    CodecCondition.upperBound).min?

end Conditions

def codecOutputConditionsMatch (conditions : List CodecCondition)
    (value : CodecConditionValue) : Bool :=
  conditions.all fun condition => codecConditionMatches condition (some value)

section Selections

variable (item : Items.MediaItem) (options : PlaybackInfoOptions)

def selectedH264OutputProfile : Option (Option H264Profile) :=
  let conditions := codecOutputConditions item options "Video" "h264" .videoProfile
  if conditions.isEmpty then some none
  else
    ([H264Profile.main, .baseline, .high].find? fun profile =>
      codecOutputConditionsMatch conditions (.text profile.asStr)).map some

def levelsDescending : List UInt8 :=
  [62, 61, 60, 52, 51, 50, 42, 41, 40, 32, 31, 30, 22, 21, 20, 13, 12, 11, 10]

def selectedH264OutputLevel : Option (Option UInt8) :=
  let conditions := codecOutputConditions item options "Video" "h264" .videoLevel
  if conditions.isEmpty then some none
  else
    (levelsDescending.find? fun level =>
      codecOutputConditionsMatch conditions (.numeric level.toUInt32)).map some

def selectedVideoBitDepth : Option (Option UInt8) :=
  let conditions := codecOutputConditions item options "Video" "h264" .videoBitDepth
  if conditions.isEmpty then some none
  else if codecOutputConditionsMatch conditions (.numeric 8) then some (some 8)
  else none

def selectedAacOutputProfile : Option (Option AacProfile) :=
  let conditions := codecOutputConditions item options "Audio" "aac" .audioProfile
  if conditions.isEmpty then some none
  else if codecOutputConditionsMatch conditions (.text AacProfile.lowComplexity.asStr) then
    some (some .lowComplexity)
  else none

variable (fmt : PlaybackFormats)

def selectedAacOutputChannels : Option (Option UInt8) :=
  let conditions := codecOutputConditions item options "Audio" "aac" .audioChannels
  if conditions.isEmpty then some none
  else
    let inputChannels := (fmt.sourceNumeric item options .audioChannels).bind fun channels =>
      if channels < 256 then some channels.toUInt8 else none
    let preferred := min (inputChannels.getD 2) 8
    ((preferred :: [8, 7, 6, 5, 4, 3, 2, 1]).find? fun channels =>
      channels ≤ preferred && codecOutputConditionsMatch conditions
        (.numeric channels.toUInt32)).map some

def CodecCondition.candidates (condition : CodecCondition) : List UInt32 :=
  (condition.values.filterMap codecNumericValue).flatMap fun value =>
    value ::
      match condition.comparison with
      | .lessThan => (U32.checkedSub value 1).toList
      | .greaterThan => (U32.checkedAdd value 1).toList
      | _ => []

def sortDescending (rates : List UInt32) : List UInt32 :=
  (sortOn (fun rate : UInt32 => OrderDual.toDual rate.toNat) rates).dedup

def frameRateLimit (conditions : List CodecCondition) (input : Option UInt32) :
    Option (Option UInt32) :=
  if input.any fun input => codecOutputConditionsMatch conditions (.numeric input) then some none
  else
    let candidates := input.toList ++ conditions.flatMap CodecCondition.candidates
    ((sortDescending candidates).find? fun candidate =>
      (input.all fun input => candidate ≤ input) &&
        codecOutputConditionsMatch conditions (.numeric candidate)).map fun selected =>
          if input = some selected then none else some selected

def selectedVideoFrameRateLimit : Option (Option UInt32) :=
  let conditions := codecOutputConditions item options "Video" "h264" .videoFrameRate
  if conditions.isEmpty then some none
  else frameRateLimit conditions (fmt.sourceNumeric item options .videoFrameRate)

end Selections

namespace PlaybackFormats

variable (fmt : PlaybackFormats) (item : Items.MediaItem) (options : PlaybackInfoOptions)

def encodedOutputCodecPropertyValue (output : PlaybackOutputConstraints)
    (property : CodecConditionProperty) : Option CodecConditionValue :=
  match property with
  | .width =>
    (fmt.sourceNumeric item options property).map fun value =>
      .numeric (output.maxWidth.elim value (min value))
  | .height =>
    (fmt.sourceNumeric item options property).map fun value =>
      .numeric (output.maxHeight.elim value (min value))
  | .videoBitrate =>
    (output.videoBitrate.or (fmt.sourceNumeric item options property)).map .numeric
  | .audioBitrate =>
    (output.audioBitrate.or (fmt.sourceNumeric item options property)).map .numeric
  | .videoProfile => some (.text (output.videoProfile.getD .main).asStr)
  | .audioProfile => some (.text (output.audioProfile.getD .lowComplexity).asStr)
  | .videoLevel => output.videoLevel.map fun level => .numeric level.toUInt32
  | .videoBitDepth => some (.numeric (output.videoBitDepth.getD 8).toUInt32)
  | .videoFrameRate =>
    (output.maxVideoFrameRateMillihertz.or (fmt.sourceNumeric item options property)).map .numeric
  | .audioChannels => some (.numeric (output.audioChannels.getD 2).toUInt32)

def encodedOutputCodecConditionsCompatible (streamType codec : String)
    (output : PlaybackOutputConstraints) : Bool :=
  (targetingProfiles item options streamType codec).all fun profile =>
    profile.invalidRequiredConditions.isEmpty &&
      profile.conditions.all fun condition =>
        codecConditionMatches condition
          (fmt.encodedOutputCodecPropertyValue item options output condition.property)

def withVideoConditions (videoMode : HlsStreamMode) (output : PlaybackOutputConstraints) :
    Option PlaybackOutputConstraints :=
  if videoMode = .encode then
    if codecOutputHasInvalidRequiredCondition item options "Video" "h264" then none
    else do
      let upperBound := codecOutputUpperBound item options "Video" "h264"
      some
        { output with
          maxWidth := minOptionalU32 output.maxWidth (upperBound .width)
          maxHeight := minOptionalU32 output.maxHeight (upperBound .height)
          videoBitrate := minOptionalU32 output.videoBitrate (upperBound .videoBitrate)
          videoProfile := ← selectedH264OutputProfile item options
          videoLevel := ← selectedH264OutputLevel item options
          videoBitDepth := ← selectedVideoBitDepth item options
          maxVideoFrameRateMillihertz := ← selectedVideoFrameRateLimit item options fmt }
  else some { output with maxWidth := none, maxHeight := none, videoBitrate := none }

def withAudioConditions (audioMode : HlsStreamMode) (output : PlaybackOutputConstraints) :
    Option PlaybackOutputConstraints :=
  if audioMode = .encode then
    if codecOutputHasInvalidRequiredCondition item options "Audio" "aac" then none
    else do
      some
        { output with
          audioBitrate := minOptionalU32 output.audioBitrate
            (codecOutputUpperBound item options "Audio" "aac" .audioBitrate)
          audioProfile := ← selectedAacOutputProfile item options
          audioChannels := ← selectedAacOutputChannels item options fmt }
  else some { output with audioBitrate := none }

def suggestedAudioBitrate (maxTotalBitrate : UInt32) : UInt32 :=
  min (U32.clamp 16000 192000 (maxTotalBitrate / 5)) (Max.max (maxTotalBitrate / 2) 1)

def audioBudget (audioMode : HlsStreamMode) (maxTotalBitrate : UInt32)
    (audioBitrate : Option UInt32) : Option UInt32 × UInt32 :=
  if (fmt.selectedAudioStreamIndex item options).isSome then
    let suggested := suggestedAudioBitrate maxTotalBitrate
    if audioMode = .encode then
      let constrained := min (audioBitrate.getD 192000) suggested
      (some constrained, constrained)
    else
      (audioBitrate, min ((fmt.sourceNumeric item options .audioBitrate).getD suggested)
        (U32.saturatingSub maxTotalBitrate 1))
  else (audioBitrate, 0)

def withinStreamingBitrate (videoMode audioMode : HlsStreamMode)
    (output : PlaybackOutputConstraints) : PlaybackOutputConstraints :=
  match options.maxStreamingBitrate with
  | none => output
  | some maxTotalBitrate =>
    if eqIgnoreAsciiCase item.mediaType "Audio" then
      if audioMode = .encode then
        { output with audioBitrate := some (min (output.audioBitrate.getD 192000) maxTotalBitrate) }
      else output
    else
      let (audioBitrate, audioBudget) :=
        fmt.audioBudget item options audioMode maxTotalBitrate output.audioBitrate
      let videoBudget := Max.max (U32.saturatingSub maxTotalBitrate audioBudget) 1
      { output with
        audioBitrate
        videoBitrate :=
          if videoMode = .encode then some (min (output.videoBitrate.getD videoBudget) videoBudget)
          else output.videoBitrate }

def sourceRelativeCeiling : UInt32 :=
  (item.bitrate.bind U32.positive).elim maxVideoTranscodeBitrate fun sourceBitrate =>
    U32.clamp minVideoTranscodeBitrate maxVideoTranscodeBitrate
      (U32.saturatingMul sourceBitrate 2)

def withinSourceBitrate (videoMode : HlsStreamMode) (output : PlaybackOutputConstraints) :
    PlaybackOutputConstraints :=
  if videoMode = .encode then
    let ceiling := sourceRelativeCeiling item
    { output with videoBitrate := some (min (output.videoBitrate.getD ceiling) ceiling) }
  else output

def playbackOutputConstraints (profile : Option TranscodingProfileMatcher)
    (videoMode audioMode : HlsStreamMode) : Option PlaybackOutputConstraints := do
  let output :=
    { PlaybackOutputConstraints.default with
      maxWidth := profile.bind (·.maxWidth)
      maxHeight := profile.bind (·.maxHeight)
      videoBitrate := profile.bind (·.videoBitrate)
      audioBitrate := profile.bind (·.audioBitrate) }
  let output ← fmt.withVideoConditions item options videoMode output
  let output ← fmt.withAudioConditions item options audioMode output
  let output := fmt.withinStreamingBitrate item options videoMode audioMode output
  let output := withinSourceBitrate item videoMode output
  if videoMode = .encode ∧
      fmt.encodedOutputCodecConditionsCompatible item options "Video" "h264" output = false then
    none
  else if audioMode = .encode ∧
      fmt.encodedOutputCodecConditionsCompatible item options "Audio" "aac" output = false then
    none
  else some output

end PlaybackFormats

end Jellyrin.Playback
