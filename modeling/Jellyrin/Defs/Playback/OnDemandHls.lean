import Jellyrin.Defs.Api.ApiError
import Jellyrin.Defs.Playback.DedupeKey
import Jellyrin.Defs.Transcode.CommandClass

/-! Generation of a missing HLS segment after a seek.  What the file system, the admission and
the processes answer is given in advance, so that a run is a function of it. -/

namespace Jellyrin.Playback.OnDemand

open Api Text Transcode

inductive SessionStatus where
  | starting
  | stopping
  | stopped
  | failed
  | completed
  deriving DecidableEq

structure SeekItem where
  runtimeTicks : Option Int64
  subtitleStreamIsImage : Option Int64 → Bool
  videoStreamCopySupported : Bool
  audioStreamCopySupported : Option Int64 → Bool
  isRemoteVod : Bool

structure TranscodeSession where
  item : SeekItem
  status : String
  dedupeKey : Option String
  videoStreamIndex : Option Int64
  audioStreamIndex : Option Int64
  subtitleStreamIndex : Option Int64

structure Config where
  ffmpegMode : FfmpegMode
  videoThreads : Option UInt16
  videoPreset : H264Preset
  remoteVodReadrate : Option UInt16 × Option UInt16

def defaultHlsSegmentTimeSeconds : UInt32 := 3

def hlsOnDemandSeekAheadSegments : Int64 := 8

def hlsSegmentTicks : Int64 := 30000000

def hlsSegmentStartPositionTicks (segmentId : UInt32) : Int64 :=
  Int64.ofInt (min (segmentId.toNat * hlsSegmentTicks.toInt) (2 ^ 63 - 1))

def runtimeTicks (session : TranscodeSession) : Int64 := max (session.item.runtimeTicks.getD 0) 0

def segmentDurationTicks (session : TranscodeSession) (segmentId : UInt32) : Int64 :=
  let segmentWindowTicks := hlsSegmentTicks * (hlsOnDemandSeekAheadSegments + 1)
  if 0 < runtimeTicks session then
    max (min (runtimeTicks session - hlsSegmentStartPositionTicks segmentId) segmentWindowTicks) 1
  else max segmentWindowTicks 1

def applyPlaybackOutputConstraints (request : HlsTranscodeRequest)
    (output : PlaybackOutputConstraints) : HlsTranscodeRequest :=
  { request with
    maxVideoWidth := output.maxWidth
    maxVideoHeight := output.maxHeight
    videoBitrate := output.videoBitrate
    videoProfile := output.videoProfile
    videoLevel := output.videoLevel
    maxVideoFrameRateMillihertz := output.maxVideoFrameRateMillihertz
    audioBitrate := output.audioBitrate
    audioProfile := output.audioProfile
    audioChannels := output.audioChannels }

def seekRequest (config : Config) (session : TranscodeSession) (sessionDir inputPath : String)
    (segmentId : UInt32) : HlsTranscodeRequest :=
  let burnsImageSubtitle := session.item.subtitleStreamIsImage session.subtitleStreamIndex
  let fallbackVideoMode : HlsStreamMode :=
    if burnsImageSubtitle || !session.item.videoStreamCopySupported then .encode else .copy
  let fallbackAudioMode : HlsStreamMode :=
    if session.item.audioStreamCopySupported session.audioStreamIndex then .copy else .encode
  let modes :=
    (playbackHlsModesFromDedupeKey session.dedupeKey).getD (fallbackVideoMode, fallbackAudioMode)
  let readrate := if session.item.isRemoteVod then config.remoteVodReadrate else (none, none)
  applyPlaybackOutputConstraints
    { inputPath
      outputPlaylistPath := sessionDir ++ "/segment_" ++ zeroPadded 5 segmentId.toNat ++ ".m3u8"
      segmentPatternPath := sessionDir ++ "/segment_%05d.ts"
      selection :=
        { videoStreamIndex := session.videoStreamIndex
          audioStreamIndex := session.audioStreamIndex
          subtitleStreamIndex :=
            if burnsImageSubtitle then session.subtitleStreamIndex else some (-1) }
      includeVideo := true
      videoMode := modes.1
      audioMode := modes.2
      startPositionTicks := hlsSegmentStartPositionTicks segmentId
      durationTicks := some (segmentDurationTicks session segmentId)
      hlsStartNumber := some segmentId
      outputTsOffsetTicks := some (Int64.ofNat segmentId.toNat * hlsSegmentTicks)
      eventPlaylist := false
      hlsListSize := 0
      hlsDeleteThreshold := none
      hlsDeleteSegments := false
      hlsOmitEndlist := false
      hlsTempFile := false
      maxVideoWidth := none
      maxVideoHeight := none
      videoBitrate := none
      videoProfile := none
      videoLevel := none
      maxVideoFrameRateMillihertz := none
      videoThreads := config.videoThreads
      videoPreset := config.videoPreset
      audioBitrate := none
      audioProfile := none
      audioChannels := none
      segmentTimeSeconds := defaultHlsSegmentTimeSeconds
      burnInSubtitle := burnsImageSubtitle
      teletextPage := none
      inputReadratePercent := readrate.1
      inputReadrateInitialBurstSeconds := readrate.2 }
    (playbackOutputConstraintsFromDedupeKey session.dedupeKey)

/-! The answers of the outside. -/

/-- The coordinator answers, or the quota is exceeded while the job is queued. -/
inductive Admission where
  | granted
  | refused (error : String)
  | exceeded

structure TranscodeProcessExit where
  code : Option Int
  success : Bool

inductive HlsSeekProcessOutcome where
  | exited (exit : Except String TranscodeProcessExit)
  | storageExceeded (stop : Except String TranscodeProcessExit)
  | timedOut (stop : Except String TranscodeProcessExit)

/-- `segment` is the length of the requested segment file after the process. -/
structure Attempt where
  admission : Admission
  spawn : Except String Unit
  segment : Option Nat
  outcome : HlsSeekProcessOutcome

structure Outcomes where
  /-- Whether a continuous writer can be told to stop. -/
  stopSender : Bool
  /-- The wait for the end of that writer. -/
  replaced : Except ApiError Unit
  reserve : Except ApiError Unit
  createDir : Except String Unit
  attempt : Nat → Attempt
  recreateDir : Except String Unit

/-! The run. -/

/-- The statuses that the run has written, and the length of the requested segment file. -/
structure World where
  statuses : List SessionStatus
  segment : Option Nat

abbrev Generation := ExceptT ApiError (StateM World)

def updateTranscodeSessionStatus (status : SessionStatus) : Generation Unit :=
  modify fun world => { world with statuses := world.statuses ++ [status] }

def cleanupHlsTranscodeDir : Generation Unit :=
  modify fun world => { world with segment := none }

def hlsOutputFileIsNonempty : Generation Bool := do
  return (← get).segment.any fun length => 0 < length

def orInternal {α : Type} (result : Except String α) : Generation α :=
  match result with
  | .ok value => pure value
  | .error message => throw (.internal message)

def stopContinuousHlsForSeek (outcomes : Outcomes) (session : TranscodeSession) :
    Generation Unit := do
  if session.status = "starting" ∨ session.status = "running" then
    if outcomes.stopSender then
      updateTranscodeSessionStatus .stopping
      match outcomes.replaced with
      | .ok _ => modify fun world => { world with segment := none }
      | .error error => throw error
    else
      updateTranscodeSessionStatus .stopped
      cleanupHlsTranscodeDir

def acquireTranscodeJob (mode : FfmpegMode) (kind : TranscodeJobKind) (admission : Admission) :
    Generation Unit :=
  match admission with
  | .exceeded => do
    cleanupHlsTranscodeDir
    throw (.serviceUnavailable "transcode storage quota is exhausted")
  | .refused error => throw (.serviceUnavailable ("HLS seek capacity unavailable: " ++ error))
  | .granted =>
    match ffmpegJobAllowedForMode mode kind with
    | .ok _ => pure ()
    | .error error => throw (.serviceUnavailable ("HLS seek capacity unavailable: " ++ error))

def abandon {α : Type} (status : SessionStatus) (error : ApiError) : Generation α := do
  cleanupHlsTranscodeDir
  updateTranscodeSessionStatus status
  throw error

def seekAttempt (config : Config) (outcomes : Outcomes) (attemptCount : Nat)
    (command : FfmpegCommandSpec) (fallbackAvailable : Bool) : Generation Bool := do
  let attempt := outcomes.attempt attemptCount
  let kind := classifyTranscodeCommand command
  acquireTranscodeJob config.ffmpegMode kind attempt.admission
  match attempt.spawn with
  | .error error => throw (.internal ("failed to start HLS seek generation: " ++ error))
  | .ok _ =>
    modify fun world => { world with segment := attempt.segment }
    match attempt.outcome with
    | .exited (.error error) =>
      abandon .failed (.internal ("HLS seek generation failed: " ++ error))
    | .storageExceeded _ =>
      abandon .stopped (.serviceUnavailable "transcode storage quota is exhausted")
    | .timedOut _ => abandon .failed (.serviceUnavailable "HLS seek generation timed out")
    | .exited (.ok exit) =>
      if exit.success && (← hlsOutputFileIsNonempty) then return false
      if hlsRemuxFallbackEligible attemptCount kind (← hlsOutputFileIsNonempty) true
          fallbackAvailable then
        cleanupHlsTranscodeDir
        orInternal outcomes.recreateDir
        return true
      abandon .failed (.notFound "HLS segment not found")

def seekLoop (config : Config) (outcomes : Outcomes) :
    List FfmpegCommandSpec → Nat → FfmpegCommandSpec → Generation Unit
  | [], attemptCount, command => do
    let _ ← seekAttempt config outcomes attemptCount command false
  | next :: rest, attemptCount, command => do
    if ← seekAttempt config outcomes attemptCount command true then
      seekLoop config outcomes rest 2 next

def seekToEnd (config : Config) (outcomes : Outcomes) (fallback : List FfmpegCommandSpec)
    (attemptCount : Nat) (command : FfmpegCommandSpec) : Generation Unit := do
  seekLoop config outcomes fallback attemptCount command
  updateTranscodeSessionStatus .completed

def generateFromStarting (config : Config) (outcomes : Outcomes) (plan : HlsTranscodePlan) :
    Generation Unit := do
  match outcomes.reserve with
  | .error error =>
    updateTranscodeSessionStatus .failed
    throw error
  | .ok _ =>
    match outcomes.createDir with
    | .error error =>
      updateTranscodeSessionStatus .failed
      throw (.internal error)
    | .ok _ => seekToEnd config outcomes plan.fallback.toList 1 plan.primary

def generateMissingHlsSegment (config : Config) (outcomes : Outcomes) (session : TranscodeSession)
    (sessionDir inputPath : String) (segmentId : UInt32) : Generation Unit := do
  if (← get).segment.isSome then return
  if 0 < runtimeTicks session ∧ runtimeTicks session ≤ hlsSegmentStartPositionTicks segmentId then
    throw (.notFound "HLS segment not found")
  stopContinuousHlsForSeek outcomes session
  updateTranscodeSessionStatus .starting
  generateFromStarting config outcomes
    (buildHlsTranscodePlan (seekRequest config session sessionDir inputPath segmentId)
      config.ffmpegMode)

end Jellyrin.Playback.OnDemand
