import Jellyrin.Defs.Data.F64
import Jellyrin.Defs.Transcode.HlsLayout

/-! The command line of an HLS transcode.  The arguments are listed in groups, in the order in
which the builder pushes them. -/

namespace Jellyrin.Transcode

open Text

inductive FfmpegWorkload where
  | remux
  | audioEncode
  | videoEncode
  deriving DecidableEq

structure FfmpegCommandSpec where
  program : String
  args : List String
  workload : Option FfmpegWorkload

def hlsTextSubtitleMaxInterleaveDeltaUs : Nat := 1000000

def pushSelectedStreamMap (streamType : String) (streamIndex : Option Int64) (optional : Bool) :
    List String :=
  let optionalSuffix := if optional then "?" else ""
  match streamIndex.filter fun index => 0 ≤ index with
  | some index => ["-map", "0:" ++ toString index.toInt ++ optionalSuffix]
  | none => ["-map", "0:" ++ streamType ++ ":0" ++ optionalSuffix]

def ffmpegStreamFilterInput (streamType : String) (streamIndex : Option Int64) : String :=
  match streamIndex.filter fun index => 0 ≤ index with
  | some index => "[0:" ++ toString index.toInt ++ "]"
  | none => "[0:" ++ streamType ++ ":0]"

def scaleFilter (maxWidth maxHeight : Option UInt32) : String :=
  let width := maxWidth.elim "-2" fun value => toString value.toNat
  let height := maxHeight.elim "-2" fun value => toString value.toNat
  "scale='min(" ++ width ++ ",iw)':'min(" ++ height ++
    ",ih)':force_original_aspect_ratio=decrease"

def formatH264Level (level : UInt8) : String :=
  toString (level.toNat / 10) ++ "." ++ toString (level.toNat % 10)

def formatMillihertz (value : UInt32) : String :=
  let whole := value.toNat / 1000
  let fractional := value.toNat % 1000
  if fractional = 0 then toString whole
  else trimEndMatches '0' (toString whole ++ "." ++ zeroPadded 3 fractional)

def formatTicksAsSeconds (ticks : Int64) : String :=
  F64.toFixed 3 (F64.ofNatDiv (max ticks 0).toInt.toNat 10000000)

namespace HlsTranscodeRequest

def selectsSubtitle (request : HlsTranscodeRequest) : Bool :=
  request.selection.subtitleStreamIndex.any fun index => 0 ≤ index

def shouldBurnSubtitle (request : HlsTranscodeRequest) : Bool :=
  request.includeVideo && request.burnInSubtitle && request.selectsSubtitle

def effectiveVideoMode (request : HlsTranscodeRequest) : HlsStreamMode :=
  if request.shouldBurnSubtitle then .encode else request.videoMode

def decodesTeletextPage (request : HlsTranscodeRequest) : Bool :=
  request.teletextPage.any (fun page => 100 ≤ page && page ≤ 899) && request.selectsSubtitle &&
    !request.shouldBurnSubtitle

def encodesVideo (request : HlsTranscodeRequest) : Bool :=
  request.includeVideo && request.effectiveVideoMode = .encode

def copiesVideo (request : HlsTranscodeRequest) : Bool :=
  request.includeVideo && request.effectiveVideoMode = .copy

def globalArgs : List String :=
  ["-hide_banner", "-nostdin", "-y", "-loglevel", "warning", "-nostats", "-stats_period", "2"]

def filterThreadArgs (request : HlsTranscodeRequest) : List String :=
  match request.videoThreads.filter fun threads => 0 < threads with
  | some videoThreads =>
    if request.encodesVideo then
      ["-filter_threads", toString videoThreads.toNat, "-filter_complex_threads",
        toString videoThreads.toNat]
    else []
  | none => []

def seekArgs (request : HlsTranscodeRequest) : List String :=
  if 0 < request.startPositionTicks then
    ["-ss", formatTicksAsSeconds request.startPositionTicks]
  else []

def readrateBurstArgs (request : HlsTranscodeRequest) : List String :=
  match request.inputReadrateInitialBurstSeconds.filter fun seconds => 0 < seconds with
  | some initialBurstSeconds =>
    ["-readrate_initial_burst", toString initialBurstSeconds.toNat]
  | none => []

def readrateArgs (request : HlsTranscodeRequest) : List String :=
  match request.inputReadratePercent.filter fun percent => 1 ≤ percent && percent ≤ 1000 with
  | some readratePercent =>
    ["-readrate", F64.toFixed 2 (F64.ofNatDiv readratePercent.toNat 100)] ++
      request.readrateBurstArgs
  | none => []

def teletextArgs (request : HlsTranscodeRequest) : List String :=
  if request.decodesTeletextPage then
    ["-txt_page", toString (request.teletextPage.getD 0).toNat, "-txt_format", "text"]
  else []

def durationArgs (request : HlsTranscodeRequest) : List String :=
  match request.durationTicks.filter fun ticks => 0 < ticks with
  | some durationTicks => ["-t", formatTicksAsSeconds durationTicks]
  | none => []

def videoMapArgs (request : HlsTranscodeRequest) : List String :=
  if request.shouldBurnSubtitle then
    ["-filter_complex", ffmpegStreamFilterInput "v" request.selection.videoStreamIndex ++
        ffmpegStreamFilterInput "s" request.selection.subtitleStreamIndex ++
        "overlay=eof_action=pass:repeatlast=0[v]", "-map", "[v]"]
  else if request.includeVideo && request.effectiveVideoMode ≠ .drop then
    pushSelectedStreamMap "v" request.selection.videoStreamIndex true
  else ["-vn"]

def audioMapArgs (request : HlsTranscodeRequest) : List String :=
  if request.audioMode = .drop then ["-an"]
  else pushSelectedStreamMap "a" request.selection.audioStreamIndex true

def subtitleArgs (request : HlsTranscodeRequest) : List String :=
  if request.shouldBurnSubtitle then ["-sn"]
  else if request.selectsSubtitle then
    pushSelectedStreamMap "s" request.selection.subtitleStreamIndex false ++ ["-c:s", "webvtt"] ++
      if request.decodesTeletextPage then ["-threads:s", "1"] else []
  else ["-sn"]

def videoLevelArgs (request : HlsTranscodeRequest) : List String :=
  match request.videoLevel.filter fun level => 10 ≤ level && level ≤ 62 with
  | some videoLevel => ["-level:v", formatH264Level videoLevel]
  | none => []

def videoThreadArgs (request : HlsTranscodeRequest) : List String :=
  match request.videoThreads.filter fun threads => 0 < threads with
  | some videoThreads => ["-threads:v", toString videoThreads.toNat]
  | none => []

def videoBitrateArgs (request : HlsTranscodeRequest) : List String :=
  match request.videoBitrate with
  | some videoBitrate =>
    ["-b:v", toString videoBitrate.toNat, "-maxrate", toString videoBitrate.toNat, "-bufsize",
      toString (min (videoBitrate.toNat * 2) (2 ^ 32 - 1))]
  | none => []

def videoFilters (request : HlsTranscodeRequest) : List String :=
  (if request.maxVideoWidth.isSome || request.maxVideoHeight.isSome then
      [scaleFilter request.maxVideoWidth request.maxVideoHeight]
    else []) ++
    match request.maxVideoFrameRateMillihertz.filter fun frameRate => 0 < frameRate with
    | some frameRate => ["fps=" ++ formatMillihertz frameRate]
    | none => []

def videoFilterArgs (request : HlsTranscodeRequest) : List String :=
  if request.videoFilters.isEmpty then [] else ["-vf", ",".intercalate request.videoFilters]

def videoCodecArgs (request : HlsTranscodeRequest) : List String :=
  if request.copiesVideo then ["-c:v", "copy"]
  else if request.encodesVideo then
    ["-c:v", "libx264", "-preset", request.videoPreset.asFfmpegValue, "-profile:v",
        (request.videoProfile.getD .main).asStr] ++
      request.videoLevelArgs ++
      ["-pix_fmt", "yuv420p", "-force_key_frames",
        "expr:gte(t,n_forced*" ++ toString (max request.segmentTimeSeconds.toNat 1) ++ ")",
        "-sc_threshold", "0"] ++
      request.videoThreadArgs ++ request.videoBitrateArgs ++ request.videoFilterArgs
  else []

def audioProfileArgs (request : HlsTranscodeRequest) : List String :=
  match request.audioProfile with
  | some audioProfile => ["-profile:a", audioProfile.asFfmpegValue]
  | none => []

def audioBitrateArgs (request : HlsTranscodeRequest) : List String :=
  match request.audioBitrate with
  | some audioBitrate => ["-b:a", toString audioBitrate.toNat]
  | none => []

def audioCodecArgs (request : HlsTranscodeRequest) : List String :=
  match request.audioMode with
  | .copy => ["-c:a", "copy"]
  | .encode =>
    let channels := (request.audioChannels.filter fun channels => 1 ≤ channels && channels ≤ 8).getD 2
    ["-c:a", "aac"] ++ request.audioProfileArgs ++ ["-ac", toString channels.toNat] ++
      request.audioBitrateArgs
  | .drop => []

def interleaveArgs (request : HlsTranscodeRequest) : List String :=
  if !request.shouldBurnSubtitle && request.selectsSubtitle then
    ["-max_interleave_delta", toString hlsTextSubtitleMaxInterleaveDeltaUs]
  else []

def timestampOffsetArgs (request : HlsTranscodeRequest) : List String :=
  match request.outputTsOffsetTicks.filter fun ticks => 0 < ticks with
  | some outputTsOffsetTicks => ["-output_ts_offset", formatTicksAsSeconds outputTsOffsetTicks]
  | none => []

def deleteThresholdArgs (request : HlsTranscodeRequest) : List String :=
  match request.hlsDeleteThreshold.filter fun value => 0 < value with
  | some deleteThreshold => ["-hls_delete_threshold", toString deleteThreshold.toNat]
  | none => []

def hlsFlags (request : HlsTranscodeRequest) : List String :=
  (if request.hlsDeleteSegments then ["delete_segments"] else []) ++
    (if request.hlsOmitEndlist then ["omit_endlist"] else []) ++
    (if request.hlsTempFile then ["temp_file"] else []) ++
    if request.encodesVideo then ["independent_segments"] else []

def hlsFlagArgs (request : HlsTranscodeRequest) : List String :=
  if request.hlsFlags.isEmpty then [] else ["-hls_flags", "+".intercalate request.hlsFlags]

def startNumberArgs (request : HlsTranscodeRequest) : List String :=
  match request.hlsStartNumber with
  | some startNumber => ["-start_number", toString startNumber.toNat]
  | none => []

def muxerArgs (request : HlsTranscodeRequest) : List String :=
  ["-muxdelay", "0", "-muxpreload", "0", "-f", "hls", "-hls_time",
      toString (max request.segmentTimeSeconds.toNat 1), "-hls_playlist_type",
      if request.eventPlaylist then "event" else "vod", "-hls_list_size",
      toString request.hlsListSize.toNat] ++
    request.deleteThresholdArgs ++ request.hlsFlagArgs ++ request.startNumberArgs

def workload (request : HlsTranscodeRequest) : FfmpegWorkload :=
  if request.encodesVideo then .videoEncode
  else if request.audioMode = .encode || request.selectsSubtitle && !request.decodesTeletextPage then
    .audioEncode
  else .remux

def inputArgs (request : HlsTranscodeRequest) : List String :=
  globalArgs ++ request.filterThreadArgs ++ request.seekArgs ++ request.readrateArgs ++
    request.teletextArgs ++ ["-i", request.inputPath] ++ request.durationArgs

def streamArgs (request : HlsTranscodeRequest) : List String :=
  request.videoMapArgs ++ request.audioMapArgs ++ request.subtitleArgs ++
    request.videoCodecArgs ++ request.audioCodecArgs

def outputArgs (request : HlsTranscodeRequest) : List String :=
  request.interleaveArgs ++ request.timestampOffsetArgs ++ request.muxerArgs ++
    ["-hls_segment_filename", request.segmentPatternPath, "-progress", "pipe:2",
      request.outputPlaylistPath]

end HlsTranscodeRequest

def buildHlsFfmpegCommand (request : HlsTranscodeRequest) : FfmpegCommandSpec where
  program := "ffmpeg"
  args := request.inputArgs ++ request.streamArgs ++ request.outputArgs
  workload := some request.workload

end Jellyrin.Transcode
