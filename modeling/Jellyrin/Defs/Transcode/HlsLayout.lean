import Mathlib.Data.List.Basic

/-! Where the files of an HLS session are, and how they are removed. -/

namespace Jellyrin.Transcode

abbrev Path := List String

instance : LawfulBEq Path := inferInstance

def sanitizeHlsPathComponent (value : String) : String :=
  let sanitized := value.toList.map fun character =>
    if character.isAlphanum || character == '-' || character == '_' then character else '_'
  if sanitized.isEmpty then "unknown" else String.ofList sanitized

def hlsMediaPlaylistName : String := "main.m3u8"

structure HlsTranscodeLayout where
  sessionDir : Path
  mediaPlaylistPath : Path

namespace HlsTranscodeLayout

def new (playSessionId : String) : HlsTranscodeLayout where
  sessionDir := [sanitizeHlsPathComponent playSessionId]
  mediaPlaylistPath := [sanitizeHlsPathComponent playSessionId, hlsMediaPlaylistName]

def fromMediaPlaylistPath (mediaPlaylistPath : Path) : HlsTranscodeLayout where
  sessionDir := mediaPlaylistPath.dropLast
  mediaPlaylistPath

def firstSegmentPath (layout : HlsTranscodeLayout) : Path :=
  layout.sessionDir ++ ["segment_00000.ts"]

end HlsTranscodeLayout

abbrev Files := List Path

def createDirAll (dir : Path) (files : Files) : Files :=
  if dir ∈ files then files else dir :: files

def removeDirAll (dir : Path) (files : Files) : Files :=
  files.filter fun path => !dir.isPrefixOf path

def cleanupHlsTranscodeDir (sessionDir : Path) (files : Files) : Files :=
  if sessionDir.length = 1 ∧ sessionDir ∈ files then removeDirAll sessionDir files else files

def cleanupHlsTranscodeFiles (outputPath : Path) (files : Files) : Files :=
  cleanupHlsTranscodeDir (HlsTranscodeLayout.fromMediaPlaylistPath outputPath).sessionDir files

theorem subset_createDirAll (dir : Path) (files : Files) : files ⊆ createDirAll dir files := by
  simp only [createDirAll]
  split
  · exact List.Subset.refl _
  · exact List.subset_cons_self _ _

theorem mem_cleanupHlsTranscodeDir {sessionDir dir path : Path} {files : Files}
    (hmem : path ∈ files) (hunder : dir <+: path) (hlength : dir.length = 1)
    (hne : dir ≠ sessionDir) : path ∈ cleanupHlsTranscodeDir sessionDir files := by
  simp only [cleanupHlsTranscodeDir]
  split
  · rename_i hguard
    refine List.mem_filter.mpr ⟨hmem, ?_⟩
    rw [Bool.not_eq_true', ← Bool.not_eq_true, List.isPrefixOf_iff_prefix]
    intro hother
    exact hne (List.prefix_of_prefix_length_le hunder hother (by omega) |>.eq_of_length
      (by omega))
  · exact hmem

/-! Requests for an HLS transcode, and the kinds of jobs that serve them. -/

inductive TranscodeJobKind where | videoEncode | audioEncode | remux | auxiliary | probe
  deriving DecidableEq

def hlsRemuxFallbackEligible (attemptCount : Nat) (jobKind : TranscodeJobKind)
    (firstSegmentReady primaryFailed fallbackAvailable : Bool) : Bool :=
  attemptCount == 1 && jobKind == .remux && !firstSegmentReady && primaryFailed &&
    fallbackAvailable

inductive HlsStreamMode where
  | copy
  | encode
  | drop
  deriving DecidableEq

@[ext]
structure TranscodeStreamSelection where
  videoStreamIndex : Option Int64
  audioStreamIndex : Option Int64
  subtitleStreamIndex : Option Int64
  deriving DecidableEq

inductive H264Preset where
  | ultrafast
  | superfast
  | veryfast
  | faster
  | fast
  | medium
  deriving DecidableEq

def H264Preset.asFfmpegValue : H264Preset → String
  | .ultrafast => "ultrafast"
  | .superfast => "superfast"
  | .veryfast => "veryfast"
  | .faster => "faster"
  | .fast => "fast"
  | .medium => "medium"

inductive H264Profile where
  | baseline
  | main
  | high
  deriving DecidableEq

def H264Profile.asStr : H264Profile → String
  | .baseline => "baseline"
  | .main => "main"
  | .high => "high"

inductive AacProfile where
  | lowComplexity
  deriving DecidableEq

def AacProfile.asStr : AacProfile → String
  | .lowComplexity => "lc"

def AacProfile.asFfmpegValue : AacProfile → String
  | .lowComplexity => "aac_low"

structure HlsTranscodeRequest where
  inputPath : String
  outputPlaylistPath : String
  segmentPatternPath : String
  selection : TranscodeStreamSelection
  includeVideo : Bool
  videoMode : HlsStreamMode
  audioMode : HlsStreamMode
  startPositionTicks : Int64
  durationTicks : Option Int64
  hlsStartNumber : Option UInt32
  outputTsOffsetTicks : Option Int64
  eventPlaylist : Bool
  hlsListSize : UInt32
  hlsDeleteThreshold : Option UInt32
  hlsDeleteSegments : Bool
  hlsOmitEndlist : Bool
  hlsTempFile : Bool
  maxVideoWidth : Option UInt32
  maxVideoHeight : Option UInt32
  videoBitrate : Option UInt32
  videoProfile : Option H264Profile
  /-- Decimal tenths: 41 is level 4.1. -/
  videoLevel : Option UInt8
  maxVideoFrameRateMillihertz : Option UInt32
  videoThreads : Option UInt16
  videoPreset : H264Preset
  audioBitrate : Option UInt32
  audioProfile : Option AacProfile
  audioChannels : Option UInt8
  segmentTimeSeconds : UInt32
  burnInSubtitle : Bool
  teletextPage : Option UInt16
  inputReadratePercent : Option UInt16
  inputReadrateInitialBurstSeconds : Option UInt16

end Jellyrin.Transcode
