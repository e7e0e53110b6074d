import Jellyrin.Defs.Api.ApiError
import Jellyrin.Defs.Data.F64
import Jellyrin.Defs.Data.JsonFields
import Jellyrin.Defs.Data.Paragraphs

/-! The subtitle playlist of a video, and what its windows are answered with. -/

namespace Jellyrin.Playback.Subtitles

open Api Ascii Text
open Json (trim)

def saturating (n : Int) : Int := max (-2 ^ 63) (min n (2 ^ 63 - 1))

/-! The playlist. -/

structure SubtitleWindow where
  startTicks : Int
  endTicks : Int
  deriving DecidableEq

structure SubtitlePlaylist where
  targetDuration : Int
  windows : List SubtitleWindow
  deriving DecidableEq

theorem position_lt_next {runtimeTicks : Int64} {segmentTicks positionTicks : Int}
    (hlength : 0 < segmentTicks) (h : positionTicks < runtimeTicks.toInt) :
    positionTicks < saturating (positionTicks + segmentTicks) := by
  have hmax := runtimeTicks.toInt_lt
  rw [saturating]
  omega

def windowsFrom (runtimeTicks : Int64) (segmentTicks : { ticks : Int // 0 < ticks })
    (positionTicks : Int) : List SubtitleWindow :=
  if _h : positionTicks < runtimeTicks.toInt then
    ⟨positionTicks, min runtimeTicks.toInt (saturating (positionTicks + segmentTicks))⟩ ::
      windowsFrom runtimeTicks segmentTicks (saturating (positionTicks + segmentTicks))
  else []
termination_by (runtimeTicks.toInt - positionTicks).toNat
decreasing_by
  have hnext := position_lt_next segmentTicks.property _h
  omega

def subtitlePlaylist (runtimeTicks segmentLength : Option Int64) :
    Except ApiError SubtitlePlaylist :=
  match runtimeTicks.filter (0 < ·) with
  | none => .error (.badRequest "HLS Subtitles are not supported for this media")
  | some runtimeTicks =>
    match segmentLength with
    | none => .error (.badRequest "segmentLength is required")
    | some segmentLength =>
      if h : 0 < segmentLength.toInt then
        if segmentLength.toInt * 10000000 < 2 ^ 63 then
          .ok { targetDuration := segmentLength.toInt
                windows := windowsFrom runtimeTicks
                  ⟨segmentLength.toInt * 10000000, Int.mul_pos h (by decide)⟩ 0 }
        else .error (.badRequest "segmentLength is invalid")
      else .error (.badRequest "segmentLength is required")

/-! Cues. -/

def parseVttTimestampTicks (value : String) : Option Int :=
  match (split ':' value).reverse with
  | seconds :: minutes :: rest => do
    let minutes ← parseI64 minutes
    let hours ← rest.head?.elim (some 0) parseI64
    if rest.tail ≠ [] then none
    else
      let (seconds, millis) ← cutAt ['.'] seconds.toList
      let seconds ← parseI64 (String.ofList seconds)
      let millis ← parseI64 (String.ofList (millis.take 3))
      some (saturating (saturating (saturating (saturating (hours * 36000000000) +
        saturating (minutes * 600000000)) + saturating (seconds * 10000000)) +
        saturating (millis * 10000)))
  | _ => none

def emptyWebvtt : String := "WEBVTT\n\n"

def cueStartTicks (block : String) : Option Int :=
  (lines block).findSome? fun line =>
    (cutAt "-->".toList line.toList).bind fun (start, _) =>
      parseVttTimestampTicks (trim (String.ofList start))

def keptBlock (startPositionTicks endPositionTicks : Int) (block : String) : Bool :=
  !(block = "" || block = "WEBVTT" || startsWith block "X-TIMESTAMP-MAP=") &&
    (cueStartTicks block).any fun ticks =>
      decide (startPositionTicks ≤ ticks) && decide (ticks < endPositionTicks)

/-- What `String::from_utf8_lossy` makes of the output is where this begins. -/
def subtitleVttCuesStartingInWindow (output : String) (startPositionTicks endPositionTicks : Int) :
    String :=
  if endPositionTicks ≤ startPositionTicks then emptyWebvtt
  else
    (splitPair '\n' (replaceCrlf output.toList)).foldl (fun filtered block =>
      let block := trim (String.ofList block)
      if keptBlock startPositionTicks endPositionTicks block then filtered ++ block ++ "\n\n"
      else filtered) "WEBVTT\n\n"

/-! The extraction. -/

def formatTicksAsFfmpegSeconds (ticks : Int) : String :=
  F64.toFixed 3 (F64.ofNatDiv (max ticks 0).toNat 10000000)

inductive OutputLimit where
  | to (ticks : Int)
  | duration (ticks : Int)

structure SubtitleCommand where
  copyTimestamps : Bool
  seekTicks : Option Int
  input : String
  limit : Option OutputLimit
  index : Int
  format : String

def subtitleFfmpegFormat (format : String) : String :=
  if format = "vtt" then "webvtt"
  else if format = "srt" then "srt"
  else if format = "ass" ∨ format = "ssa" then "ass"
  else "webvtt"

def SubtitleCommand.args (command : SubtitleCommand) : List String :=
  ["-hide_banner", "-loglevel", "error", "-nostdin", "-y"] ++
    (if command.copyTimestamps then ["-copyts"] else []) ++
    (match command.seekTicks with
      | some ticks => ["-ss", formatTicksAsFfmpegSeconds ticks]
      | none => []) ++
    ["-i", command.input] ++
    (match command.limit with
      | some (.to ticks) => ["-to", formatTicksAsFfmpegSeconds ticks]
      | some (.duration ticks) => ["-t", formatTicksAsFfmpegSeconds ticks]
      | none => []) ++
    ["-map", "0:" ++ toString command.index, "-threads", "1", "-f",
      subtitleFfmpegFormat command.format, "pipe:1"]

section Extraction

-- The output of FFmpeg for its arguments, if it succeeds.
variable (ffmpeg : List String → Except ApiError (Option String))

def preservesVttTimeline (format : String) (startPositionTicks : Int)
    (endPositionTicks : Option Int) : Bool :=
  format = "vtt" && (decide (0 < startPositionTicks) || endPositionTicks.isSome)

def subtitleCommand (input : String) (index : Int) (format : String) (startPositionTicks : Int)
    (endPositionTicks : Option Int) : SubtitleCommand where
  copyTimestamps := preservesVttTimeline format startPositionTicks endPositionTicks
  seekTicks := if 0 < startPositionTicks then some startPositionTicks else none
  input
  limit := (endPositionTicks.filter (startPositionTicks < ·)).map fun endTicks =>
    if preservesVttTimeline format startPositionTicks endPositionTicks then .to endTicks
    else .duration (saturating (endTicks - startPositionTicks))
  index
  format

def subtitleOutputFromFfmpeg (input : String) (index : Int) (format : String)
    (startPositionTicks : Int) (endPositionTicks : Option Int) : Except ApiError String :=
  if format ∉ ["vtt", "srt", "ass", "ssa"] then .error (.badRequest "Unsupported subtitle format")
  else if index < 0 then .error (.badRequest "Invalid subtitle index")
  else do
    let output ← ffmpeg
      (subtitleCommand input index format startPositionTicks endPositionTicks).args
    match output with
    | none => .error (.notFound "Subtitle stream not found")
    | some output =>
      match endPositionTicks with
      | some endTicks =>
        if preservesVttTimeline format startPositionTicks (some endTicks) then
          .ok (subtitleVttCuesStartingInWindow output startPositionTicks endTicks)
        else .ok output
      | none => .ok output

structure SubtitleFile where
  path : String
  extension : Option String
  text : String

def subtitlePathFormat (file : SubtitleFile) : Option String :=
  file.extension.map toAsciiLowercase

def subtitleOutputFromExternalPath (file : SubtitleFile) (format : String)
    (startPositionTicks : Int) (endPositionTicks : Option Int) : Except ApiError String :=
  if subtitlePathFormat file = some format ∧ startPositionTicks = 0 then .ok file.text
  else
    subtitleOutputFromFfmpeg ffmpeg file.path 0 format startPositionTicks endPositionTicks

/-- `subtitle_stream_response` for an entry of the playlist, which asks for `stream.vtt`. -/
def windowResponse (file : SubtitleFile) (window : SubtitleWindow) : Except ApiError String :=
  subtitleOutputFromExternalPath ffmpeg file "vtt" (max window.startTicks 0)
    ((some window.endTicks).filter (0 ≤ ·))

end Extraction

end Jellyrin.Playback.Subtitles
