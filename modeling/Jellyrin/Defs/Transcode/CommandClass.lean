import Jellyrin.Defs.Data.Json
import Jellyrin.Defs.Transcode.FfmpegCommand

/-! The admission lane of a command, read off its arguments. -/

namespace Jellyrin.Transcode

open Ascii Text

inductive CodecTarget where
  | video
  | audio
  | subtitle
  | unknown
  deriving DecidableEq

def codecTarget (option : String) : Option CodecTarget :=
  match split ':' (toAsciiLowercase (Json.trim option)) with
  | [] => none
  | base :: parts =>
    if base = "-vcodec" then some .video
    else if base = "-acodec" then some .audio
    else if base = "-scodec" then some .subtitle
    else if base = "-c" ∨ base = "-codec" then
      some <|
        match parts.head? with
        | some "v" => .video
        | some "a" => .audio
        | some "s" => .subtitle
        | _ => .unknown
    else none

def mappedStreamTarget (value : String) : Option CodecTarget :=
  let value := trimEndMatches '?' (Json.trim value)
  if startsWith value "[" || !startsWith value "0:" then some .unknown
  else
    match (split ':' value)[1]? with
    | some "v" => some .video
    | some "a" => some .audio
    | some "s" => some .subtitle
    | some _ => some .unknown
    | none => none

def filterJobKind (option : String) : Option TranscodeJobKind :=
  let lower := toAsciiLowercase (Json.trim option)
  if ["-af", "-filter:a"].contains lower || startsWith lower "-filter:a:" ||
      startsWith lower "-filter_script:a" then
    some .audioEncode
  else if ["-vf", "-filter:v"].contains lower || startsWith lower "-filter:v:" ||
      ["-filter", "-filter_complex", "-filter_script", "-filter_complex_script", "-lavfi",
        "-target"].contains lower ||
      startsWith lower "-filter:" || startsWith lower "-filter_script:" ||
      startsWith lower "-filter_complex:" || startsWith lower "-filter_complex_script:" then
    some .videoEncode
  else none

def maxJobKind : TranscodeJobKind → TranscodeJobKind → TranscodeJobKind
  | .videoEncode, _ | _, .videoEncode => .videoEncode
  | .audioEncode, _ | _, .audioEncode => .audioEncode
  | _, _ => .remux

def codecIsCopyOrDisabled (codec : String) : Bool :=
  ["copy", "none"].contains (toAsciiLowercase (Json.trim codec))

def anyPair (p : String → String → Bool) : List String → Bool
  | first :: second :: rest => p first second || anyPair p (second :: rest)
  | _ => false

def boundedTeletextWebvtt (args : List String) : Bool :=
  anyPair (fun first second => first == "-txt_page" &&
      (parseUnsigned (2 ^ 16 - 1) second).any fun page => 100 ≤ page && page ≤ 899) args &&
    anyPair (fun first second => first == "-txt_format" && second == "text") args &&
    anyPair (fun first second => first == "-threads:s" && second == "1") args

structure Scan where
  sawCodecDirective : Bool
  observed : TranscodeJobKind
  globalCopy : Bool
  videoCopy : Bool
  audioCopy : Bool
  subtitleCopy : Bool
  mappedVideo : Bool
  mappedAudio : Bool
  mappedSubtitle : Bool
  mappedUnknown : Bool

namespace Scan

def start : Scan := ⟨false, .remux, false, false, false, false, false, false, false, false⟩

def observe (scan : Scan) (kind : TranscodeJobKind) : Scan :=
  { scan with observed := maxJobKind scan.observed kind }

def map (scan : Scan) : Option CodecTarget → Scan
  | some .video => { scan with mappedVideo := true }
  | some .audio => { scan with mappedAudio := true }
  | some .subtitle => { scan with mappedSubtitle := true }
  | some .unknown | none => { scan with mappedUnknown := true }

def copy (scan : Scan) (arg : String) : CodecTarget → Scan
  | .video => { scan with videoCopy := true }
  | .audio => { scan with audioCopy := true }
  | .subtitle => { scan with subtitleCopy := true }
  | .unknown => if ':' ∈ arg.toList then scan else { scan with globalCopy := true }

def encode (scan : Scan) : CodecTarget → Scan
  | .audio | .subtitle => scan.observe .audioEncode
  | .video | .unknown => scan.observe .videoEncode

def arg (bounded : Bool) (scan : Scan) (arg : String) (next : Option String) : Option Scan :=
  let scan := (filterJobKind arg).elim scan scan.observe
  match codecTarget arg with
  | none =>
    if eqIgnoreAsciiCase arg "-map" then some (scan.map (next.bind mappedStreamTarget))
    else some scan
  | some target =>
    let scan := { scan with sawCodecDirective := true }
    next.map fun codec =>
      if codecIsCopyOrDisabled codec ||
          (target = .subtitle && eqIgnoreAsciiCase codec "webvtt" && bounded) then
        scan.copy arg target
      else scan.encode target

def args (bounded : Bool) : List String → Scan → Option Scan
  | [], scan => some scan
  | arg :: rest, scan => (scan.arg bounded arg rest.head?).bind (args bounded rest)

def jobKind (bounded : Bool) (scan : Scan) : TranscodeJobKind :=
  if !scan.sawCodecDirective then .videoEncode
  else if scan.observed ≠ .remux || scan.globalCopy then scan.observed
  else if scan.mappedUnknown && !bounded || scan.mappedVideo && !scan.videoCopy then .videoEncode
  else if scan.mappedAudio && !scan.audioCopy || scan.mappedSubtitle && !scan.subtitleCopy then
    .audioEncode
  else if !scan.mappedVideo && !scan.mappedAudio && !scan.mappedSubtitle then .videoEncode
  else .remux

end Scan

def classifyFfmpegArgs (args : List String) : TranscodeJobKind :=
  let bounded := boundedTeletextWebvtt args
  (Scan.start.args bounded args).elim .videoEncode (Scan.jobKind bounded)

def FfmpegWorkload.jobKind : FfmpegWorkload → TranscodeJobKind
  | .remux => .remux
  | .audioEncode => .audioEncode
  | .videoEncode => .videoEncode

def classifyTranscodeCommand (command : FfmpegCommandSpec) : TranscodeJobKind :=
  match command.workload with
  | none => .videoEncode
  | some declared => maxJobKind declared.jobKind (classifyFfmpegArgs command.args)

end Jellyrin.Transcode

/-! The commands that serve a request, and which of them the operator allows. -/

namespace Jellyrin.Transcode

inductive FfmpegMode where
  | enabled
  | remuxOnly
  | disabled
  deriving DecidableEq

structure HlsTranscodePlan where
  primary : FfmpegCommandSpec
  fallback : Option FfmpegCommandSpec

def HlsStreamMode.encoded : HlsStreamMode → HlsStreamMode
  | .copy => .encode
  | mode => mode

def buildHlsTranscodePlan (request : HlsTranscodeRequest) (mode : FfmpegMode) :
    HlsTranscodePlan :=
  let primary := buildHlsFfmpegCommand request
  { primary
    fallback :=
      if mode = .enabled ∧ classifyTranscodeCommand primary = .remux then
        some (buildHlsFfmpegCommand
          { request with
            videoMode := request.videoMode.encoded
            audioMode := request.audioMode.encoded })
      else none }

def TranscodeJobKind.debug : TranscodeJobKind → String
  | .videoEncode => "VideoEncode"
  | .audioEncode => "AudioEncode"
  | .remux => "Remux"
  | .auxiliary => "Auxiliary"
  | .probe => "Probe"

def ffmpegJobAllowedForMode (mode : FfmpegMode) (jobKind : TranscodeJobKind) :
    Except String Unit :=
  match mode with
  | .enabled => .ok ()
  | .remuxOnly =>
    if jobKind = .remux then .ok ()
    else .error (jobKind.debug ++ " is blocked by JELLYRIN_FFMPEG_MODE=remux-only")
  | .disabled => .error (jobKind.debug ++ " is blocked by JELLYRIN_FFMPEG_MODE=disabled")

end Jellyrin.Transcode
