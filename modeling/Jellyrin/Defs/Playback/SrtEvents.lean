import Jellyrin.Defs.Playback.SubtitleSegmentsLaws
import Jellyrin.Defs.Xtream.Catalogue

/-! The track events of a subtitle that is stored as SRT. -/

namespace Jellyrin.Playback.Subtitles

open Api Ascii Text
open Json (trim isWhitespace)
open Xtream (splitWhitespace)

def arrow : List Char := ['-', '-', '>']

def commasToDots (text : String) : String :=
  String.ofList (text.toList.map fun c => if c = ',' then '.' else c)

def vttLine (line : String) : String :=
  match cutAt arrow line.toList with
  | some (start, stop) => commasToDots (trim (String.ofList start)) ++ " --> " ++
      commasToDots (trim (String.ofList stop))
  | none => line

def subtitleSrtToVtt (bytes : List UInt8) : Except ApiError (List UInt8) :=
  match String.fromUTF8? ⟨bytes.toArray⟩ with
  | none => .error (.serviceUnavailable "VOD subtitle text is invalid")
  | some text =>
    let normalized := normalizeNewlines ((stripPrefix text "\uFEFF").getD text).toList
    let output := "WEBVTT\n\n" ++ terminated ((lines (String.ofList normalized)).map vttLine)
    .ok (asBytes (if ['\n', '\n'].isSuffixOf output.toList then output else output ++ "\n"))

structure TrackEvent where
  startPositionTicks : Int
  endPositionTicks : Int
  text : String

def TrackEvent.toJson (event : TrackEvent) : Json :=
  .object [("EndPositionTicks", .number event.endPositionTicks),
    ("StartPositionTicks", .number event.startPositionTicks), ("Text", .string event.text)]

def cueTicks (line : String) : Option (Int × Int) := do
  let (start, endAndSettings) ← cutAt arrow line.toList
  let stop ← (splitWhitespace endAndSettings).head?
  let startTicks ← parseVttTimestampTicks (trim (String.ofList start))
  let endTicks ← parseVttTimestampTicks (trim (String.ofList stop))
  some (startTicks, endTicks)

def isCueLine (line : String) : Bool := trim line ≠ ""

def trackEvents : List String → List TrackEvent
  | [] => []
  | line :: rest =>
    match cueTicks line with
    | none => trackEvents rest
    | some (startTicks, endTicks) =>
      ⟨startTicks, endTicks, "\n".intercalate (rest.takeWhile isCueLine)⟩ ::
        trackEvents (rest.dropWhile isCueLine)
termination_by ls => ls.length
decreasing_by
  · exact Nat.lt_succ_self _
  · exact Nat.lt_succ_of_le (List.dropWhile_suffix _).sublist.length_le

/-- The value of which `subtitle_vtt_to_track_events_json` writes the text. -/
def subtitleVttToTrackEventsJson (output : List UInt8) : Except ApiError Json :=
  match String.fromUTF8? ⟨output.toArray⟩ with
  | none => .error (.internal "subtitle output is not valid utf-8")
  | some text =>
    .ok (.object [("TrackEvents", .array ((trackEvents (lines text)).map TrackEvent.toJson))])

/-! Documents. -/

structure SrtTimestamp where
  hours : Nat
  minutes : Nat
  seconds : Nat
  millis : Nat
  minutes_lt : minutes < 60
  seconds_lt : seconds < 60
  millis_lt : millis < 1000

namespace SrtTimestamp

def text (timestamp : SrtTimestamp) : String :=
  zeroPadded 2 timestamp.hours ++ ":" ++ zeroPadded 2 timestamp.minutes ++ ":" ++
    zeroPadded 2 timestamp.seconds ++ "," ++ zeroPadded 3 timestamp.millis

def ticks (timestamp : SrtTimestamp) : Int :=
  timestamp.hours * 36000000000 + timestamp.minutes * 600000000 + timestamp.seconds * 10000000 +
    timestamp.millis * 10000

end SrtTimestamp

structure SrtCue where
  start : SrtTimestamp
  stop : SrtTimestamp
  payload : List String
  payload_ne_nil : payload ≠ []
  not_blank : ∀ line ∈ payload, trim line ≠ ""
  noArrow : ∀ line ∈ payload, ¬arrow <:+: line.toList
  oneLine : ∀ line ∈ payload, '\n' ∉ line.toList ∧ '\r' ∉ line.toList

inductive LineEnd where
  | lf
  | crlf

def LineEnd.text : LineEnd → String
  | .lf => "\n"
  | .crlf => "\r\n"

def SrtCue.timing (cue : SrtCue) : String := cue.start.text ++ " --> " ++ cue.stop.text

def SrtCue.event (cue : SrtCue) : TrackEvent where
  startPositionTicks := cue.start.ticks
  endPositionTicks := cue.stop.ticks
  text := "\n".intercalate cue.payload

def srtLines : Nat → List SrtCue → List String
  | _, [] => []
  | number, cue :: cues =>
    toString number :: cue.timing :: (cue.payload ++ "" :: srtLines (number + 1) cues)

def writeLines (lineEnds : Nat → LineEnd) : List String → String
  | [] => ""
  | line :: rest => line ++ (lineEnds 0).text ++ writeLines (fun n => lineEnds (n + 1)) rest

def srtDocument (bom : Bool) (lineEnds : Nat → LineEnd) (cues : List SrtCue) : String :=
  (if bom then "\uFEFF" else "") ++ writeLines lineEnds (srtLines 1 cues)

/-! Lines. -/

theorem replaceCrlf_append {cs : List Char} (h : '\r' ∉ cs) (rest : List Char) :
    replaceCrlf (cs ++ rest) = cs ++ replaceCrlf rest := by
  induction cs with
  | nil => rfl
  | cons c cs ih =>
    rw [List.mem_cons, not_or] at h
    obtain ⟨hc, hcs⟩ := h
    rw [List.cons_append, List.cons_append, ← ih hcs]
    cases hlist : cs ++ rest with
    | nil => rfl
    | cons d tail => rw [replaceCrlf, if_neg (fun hpair => hc hpair.1.symm)]

theorem normalizeNewlines_line {line : String} (h : OneLine line) (lineEnd : LineEnd)
    (rest : List Char) : normalizeNewlines ((line ++ lineEnd.text).toList ++ rest) =
      (line ++ "\n").toList ++ normalizeNewlines rest := by
  have hcrlf : replaceCrlf ((line ++ lineEnd.text).toList ++ rest) =
      line.toList ++ '\n' :: replaceCrlf rest := by
    rw [String.toList_append, List.append_assoc, replaceCrlf_append h.2]
    cases lineEnd with
    | lf =>
      have hfeed : '\r' ∉ ['\n'] := by decide
      exact congrArg (line.toList ++ ·) (replaceCrlf_append hfeed rest)
    | crlf => rfl
  have hline : line.toList.map (fun c => if c = '\r' then '\n' else c) = line.toList := by
    refine (List.map_congr_left fun c hc => ?_).trans (List.map_id _)
    rw [if_neg, id]
    exact fun heq => h.2 (heq ▸ hc)
  rw [normalizeNewlines, hcrlf, List.map_append, hline, List.map_cons, if_neg (by decide),
    String.toList_append, List.append_assoc]
  rfl

theorem normalizeNewlines_writeLines {ls : List String} (h : ∀ line ∈ ls, OneLine line)
    (lineEnds : Nat → LineEnd) : normalizeNewlines (writeLines lineEnds ls).toList =
      (terminated ls).toList := by
  induction ls generalizing lineEnds with
  | nil => rfl
  | cons line ls ih =>
    obtain ⟨hline, hls⟩ := List.forall_mem_cons.mp h
    rw [writeLines, String.toList_append, normalizeNewlines_line hline, ih hls]
    rw [toList_terminated, toList_terminated, List.flatMap_cons, String.toList_append]
    rfl

/-! Times. -/

theorem commasToDots_append (s t : String) :
    commasToDots (s ++ t) = commasToDots s ++ commasToDots t := by
  simp [commasToDots, String.ofList_append]

theorem commasToDots_of_isNumeral {s : String} (h : IsNumeral s) : commasToDots s = s := by
  rw [commasToDots, List.map_congr_left (g := id), List.map_id, String.ofList_toList]
  intro c hc
  rw [if_neg, id]
  exact fun hcomma => h.notMem (by decide) (hcomma ▸ hc)

namespace SrtTimestamp

variable (timestamp : SrtTimestamp)

def toTimestamp : Timestamp where
  hours := some (zeroPadded 2 timestamp.hours)
  minutes := timestamp.minutes
  seconds := timestamp.seconds
  millis := timestamp.millis
  isNumeral_hours := by
    rintro _ ⟨⟩
    exact isNumeral_zeroPadded _ _
  minutes_lt := timestamp.minutes_lt
  seconds_lt := timestamp.seconds_lt
  millis_lt := timestamp.millis_lt

theorem ticks_toTimestamp : timestamp.toTimestamp.ticks = timestamp.ticks := by
  simp only [Timestamp.ticks, Timestamp.milliseconds, toTimestamp, Option.elim_some,
    numeralValue_zeroPadded, ticks]
  omega

theorem commasToDots_text : commasToDots timestamp.text = timestamp.toTimestamp.text := by
  have hpart : ∀ width n, commasToDots (zeroPadded width n) = zeroPadded width n :=
    fun width n => commasToDots_of_isNumeral (isNumeral_zeroPadded width n)
  have hcolon : commasToDots ":" = ":" := by decide
  have hcomma : commasToDots "," = "." := by decide
  rw [text, Timestamp.text, Timestamp.parts]
  simp only [commasToDots_append, hpart, hcolon, hcomma, toTimestamp, Option.toList_some,
    List.cons_append, List.nil_append]
  apply String.toList_injective
  simp

theorem mem_text {c : Char} (hc : c ∈ timestamp.text.toList) :
    c.isDigit = true ∨ c = ':' ∨ c = ',' := by
  have hpart : ∀ {width n}, c ∈ (zeroPadded width n).toList → c.isDigit = true :=
    fun hmem => (isNumeral_zeroPadded _ _).2 c hmem
  simp only [text, String.toList_append, List.mem_append] at hc
  obtain (((((hc | hc) | hc) | hc) | hc) | hc) | hc := hc
  · exact .inl (hpart hc)
  · exact .inr (.inl (List.mem_singleton.mp hc))
  · exact .inl (hpart hc)
  · exact .inr (.inl (List.mem_singleton.mp hc))
  · exact .inl (hpart hc)
  · exact .inr (.inr (List.mem_singleton.mp hc))
  · exact .inl (hpart hc)

theorem notMem_text {c : Char} (hdigit : c.isDigit = false) (hcolon : c ≠ ':') (hcomma : c ≠ ',') :
    c ∉ timestamp.text.toList := by
  intro hmem
  obtain h | h | h := timestamp.mem_text hmem
  · rw [h] at hdigit
    cases hdigit
  · exact hcolon h
  · exact hcomma h

theorem isWhitespace_of_mem_text {c : Char} (hc : c ∈ timestamp.text.toList) :
    isWhitespace c = false := by
  obtain hdigit | rfl | rfl := timestamp.mem_text hc
  · exact isWhitespace_of_isDigit hdigit
  · decide
  · decide

end SrtTimestamp

theorem isWhitespace_of_mem_timestamp {timestamp : Timestamp} {c : Char}
    (hc : c ∈ timestamp.text.toList) : isWhitespace c = false := by
  obtain hdigit | rfl | rfl := mem_timestamp_text hc
  · exact isWhitespace_of_isDigit hdigit
  · decide
  · decide

theorem trim_space_append {text : String} (h : ∀ c ∈ text.toList, isWhitespace c = false) :
    trim (" " ++ text) = text := by
  have hfront : (" " ++ text).toList.dropWhile isWhitespace = text.toList.dropWhile isWhitespace :=
    by
    rw [String.toList_append, show " ".toList = [' '] from rfl, List.singleton_append,
      List.dropWhile_cons_of_pos (by decide)]
  have htrim := Json.trim_of_forall h
  rw [trim] at htrim ⊢
  rwa [hfront]

theorem cutAt_arrow {start : String} (h : '-' ∉ start.toList) (stop : String) :
    cutAt arrow (start ++ " --> " ++ stop).toList =
      some ((start ++ " ").toList, (" " ++ stop).toList) := by
  have hdash : '-' ∉ (start ++ " ").toList := by simpa using h
  have happend : (start ++ " --> " ++ stop).toList =
      (start ++ " ").toList ++ ['-', '-', '>'] ++ (" " ++ stop).toList := by
    simp
  rw [happend]
  exact cutAt_append hdash _

namespace SrtCue

variable (cue : SrtCue)

def vttTiming : String := cue.start.toTimestamp.text ++ " --> " ++ cue.stop.toTimestamp.text

theorem vttLine_timing : vttLine cue.timing = cue.vttTiming := by
  have hdash : '-' ∉ cue.start.text.toList :=
    cue.start.notMem_text (by decide) (by decide) (by decide)
  have hstart := trim_append_space fun c hc => cue.start.isWhitespace_of_mem_text hc
  have hstop := trim_space_append fun c hc => cue.stop.isWhitespace_of_mem_text hc
  rw [vttLine, timing, cutAt_arrow hdash]
  simp only [String.ofList_toList, hstart, hstop, SrtTimestamp.commasToDots_text, vttTiming]

theorem oneLine_timing : OneLine cue.timing := by
  have hstamp : ∀ {c : Char}, c.isDigit = false → c ≠ ':' → c ≠ ',' → c ∉ " --> ".toList →
      c ∉ cue.timing.toList := by
    intro c hdigit hcolon hcomma harrow
    rw [timing, String.toList_append, String.toList_append, List.mem_append, List.mem_append]
    rintro ((hstart | hmid) | hstop)
    · exact cue.start.notMem_text hdigit hcolon hcomma hstart
    · exact harrow hmid
    · exact cue.stop.notMem_text hdigit hcolon hcomma hstop
  exact ⟨hstamp (by decide) (by decide) (by decide) (by decide),
    hstamp (by decide) (by decide) (by decide) (by decide)⟩

theorem notMem_timestamp {timestamp : Timestamp} {c : Char} (hdigit : c.isDigit = false)
    (hdot : c ≠ '.') (hcolon : c ≠ ':') : c ∉ timestamp.text.toList := by
  intro hmem
  obtain h | h | h := mem_timestamp_text hmem
  · rw [h] at hdigit
    cases hdigit
  · exact hdot h
  · exact hcolon h

theorem oneLine_vttTiming : OneLine cue.vttTiming := by
  have hstamp : ∀ {c : Char}, c.isDigit = false → c ≠ '.' → c ≠ ':' → c ∉ " --> ".toList →
      c ∉ cue.vttTiming.toList := by
    intro c hdigit hdot hcolon harrow
    rw [vttTiming, String.toList_append, String.toList_append, List.mem_append, List.mem_append]
    rintro ((hstart | hmid) | hstop)
    · exact notMem_timestamp hdigit hdot hcolon hstart
    · exact harrow hmid
    · exact notMem_timestamp hdigit hdot hcolon hstop
  exact ⟨hstamp (by decide) (by decide) (by decide) (by decide),
    hstamp (by decide) (by decide) (by decide) (by decide)⟩

theorem head_splitWhitespace_stop :
    (splitWhitespace (" " ++ cue.stop.toTimestamp.text).toList).head? =
      some cue.stop.toTimestamp.text.toList := by
  have hne : cue.stop.toTimestamp.text.toList ≠ [] := by
    simp [Timestamp.text, Timestamp.parts, SrtTimestamp.toTimestamp]
  have hword : ∀ c ∈ cue.stop.toTimestamp.text.toList, isWhitespace c = false :=
    fun c hc => isWhitespace_of_mem_timestamp hc
  have hspace : (" " ++ cue.stop.toTimestamp.text).toList =
      [] ++ ' ' :: cue.stop.toTimestamp.text.toList := by
    simp
  rw [splitWhitespace, hspace,
    List.splitOnP_append_cons_of_forall_mem (by simp) ' ' (by decide),
    List.splitOnP_eq_singleton hword]
  simp [hne]

theorem cueTicks_vttTiming : cueTicks cue.vttTiming =
    (parseVttTimestampTicks cue.start.toTimestamp.text).bind fun startTicks =>
      (parseVttTimestampTicks cue.stop.toTimestamp.text).map fun endTicks =>
        (startTicks, endTicks) := by
  have hdash : '-' ∉ cue.start.toTimestamp.text.toList :=
    notMem_timestamp (by decide) (by decide) (by decide)
  have hstart := trim_append_space fun c hc =>
    @isWhitespace_of_mem_timestamp cue.start.toTimestamp c hc
  have hstop := Json.trim_of_forall fun c hc =>
    @isWhitespace_of_mem_timestamp cue.stop.toTimestamp c hc
  rw [cueTicks, vttTiming, cutAt_arrow hdash]
  simp only [Option.bind_eq_bind, Option.bind_some, head_splitWhitespace_stop,
    String.ofList_toList, hstart, hstop]
  generalize parseVttTimestampTicks cue.start.toTimestamp.text = startTicks
  generalize parseVttTimestampTicks cue.stop.toTimestamp.text = endTicks
  cases startTicks <;> cases endTicks <;> rfl

end SrtCue

/-! The loop. -/

theorem cueTicks_of_noArrow {line : String} (h : ¬arrow <:+: line.toList) :
    cueTicks line = none := by
  rw [cueTicks, cutAt_eq_none h]
  rfl

theorem trackEvents_skip {line : String} (h : cueTicks line = none) (rest : List String) :
    trackEvents (line :: rest) = trackEvents rest := by
  rw [trackEvents, h]

theorem trackEvents_cue {line : String} {startTicks endTicks : Int} {payload : List String}
    (h : cueTicks line = some (startTicks, endTicks)) (hpayload : ∀ line ∈ payload, trim line ≠ "")
    (rest : List String) : trackEvents (line :: (payload ++ "" :: rest)) =
      ⟨startTicks, endTicks, "\n".intercalate payload⟩ :: trackEvents ("" :: rest) := by
  have hkept : ∀ line ∈ payload, isCueLine line = true := fun line hline =>
    decide_eq_true (hpayload line hline)
  have hblank : isCueLine "" = false := by decide
  rw [trackEvents, h]
  simp only
  rw [List.takeWhile_append_of_pos hkept, List.dropWhile_append_of_pos hkept,
    List.takeWhile_cons_of_neg (by simp [hblank]), List.dropWhile_cons_of_neg (by simp [hblank]),
    List.append_nil]

theorem noArrow_toString (n : Nat) : ¬arrow <:+: (toString n).toList := by
  intro harrow
  exact absurd (isDigit_of_mem_toString (harrow.subset List.mem_cons_self)) (by decide)

theorem vttLine_of_noArrow {line : String} (h : ¬arrow <:+: line.toList) : vttLine line = line := by
  rw [vttLine, cutAt_eq_none h]

theorem oneLine_toString (n : Nat) : OneLine (toString n) :=
  ⟨fun hmem => absurd (isDigit_of_mem_toString hmem) (by decide),
    fun hmem => absurd (isDigit_of_mem_toString hmem) (by decide)⟩

theorem vttLine_srtLines (number : Nat) (cue : SrtCue) (cues : List SrtCue) :
    (srtLines number (cue :: cues)).map vttLine = toString number :: cue.vttTiming ::
      (cue.payload ++ "" :: (srtLines (number + 1) cues).map vttLine) := by
  have hpayload : cue.payload.map vttLine = cue.payload :=
    (List.map_congr_left fun line hline => vttLine_of_noArrow (cue.noArrow line hline)).trans
      (List.map_id _)
  have hblank : vttLine "" = "" := by decide
  rw [srtLines, List.map_cons, List.map_cons, List.map_append, List.map_cons, hpayload, hblank,
    cue.vttLine_timing, vttLine_of_noArrow (noArrow_toString number)]

theorem oneLine_of_mem_srtLines {number : Nat} {cues : List SrtCue} :
    (∀ line ∈ srtLines number cues, OneLine line) ∧
      ∀ line ∈ (srtLines number cues).map vttLine, OneLine line := by
  induction cues generalizing number with
  | nil => exact ⟨by simp [srtLines], by simp [srtLines]⟩
  | cons cue cues ih =>
    have hblank : OneLine "" := ⟨by simp, by simp⟩
    have hcue : ∀ {timing : String} {rest : List String}, OneLine timing →
        (∀ line ∈ rest, OneLine line) →
        ∀ line ∈ toString number :: timing :: (cue.payload ++ "" :: rest), OneLine line := by
      intro timing rest htiming hrest line hline
      simp only [List.mem_cons, List.mem_append] at hline
      obtain rfl | rfl | hpayload | rfl | hline := hline
      · exact oneLine_toString number
      · exact htiming
      · exact cue.oneLine line hpayload
      · exact hblank
      · exact hrest line hline
    rw [vttLine_srtLines]
    exact ⟨hcue cue.oneLine_timing ih.1, hcue cue.oneLine_vttTiming ih.2⟩

theorem trackEvents_srtLines {cues : List SrtCue} {ticks : SrtCue → Int × Int}
    (h : ∀ cue ∈ cues, cueTicks cue.vttTiming = some (ticks cue)) (number : Nat)
    {tail : List String} (htail : trackEvents tail = []) :
    trackEvents ((srtLines number cues).map vttLine ++ tail) =
      cues.map fun cue => ⟨(ticks cue).1, (ticks cue).2, "\n".intercalate cue.payload⟩ := by
  induction cues generalizing number with
  | nil => exact htail
  | cons cue cues ih =>
    obtain ⟨hcue, hcues⟩ := List.forall_mem_cons.mp h
    have hnumber := cueTicks_of_noArrow (noArrow_toString number)
    have hblank : cueTicks "" = none := by decide
    rw [vttLine_srtLines, List.cons_append, trackEvents_skip hnumber, List.cons_append,
      List.append_assoc, List.cons_append, trackEvents_cue hcue cue.not_blank,
      trackEvents_skip hblank, ih hcues, List.map_cons]

/-! Both steps. -/

def srtEvents (bytes : List UInt8) : Except ApiError Json := do
  subtitleVttToTrackEventsJson (← subtitleSrtToVtt bytes)

theorem stripPrefix_srtDocument (bom : Bool) (lineEnds : Nat → LineEnd) (cues : List SrtCue) :
    (stripPrefix (srtDocument bom lineEnds cues) "\uFEFF").getD (srtDocument bom lineEnds cues) =
      writeLines lineEnds (srtLines 1 cues) := by
  rw [srtDocument]
  cases bom with
  | true => rw [if_pos rfl, stripPrefix_append, Option.getD_some]
  | false =>
    rw [if_neg (by decide), String.empty_append, stripPrefix, if_neg, Option.getD_none]
    cases cues with
    | nil => simp [srtLines, writeLines]
    | cons cue cues =>
      have hone : (toString 1).toList = ['1'] := by decide
      rw [List.isPrefixOf_iff_prefix, srtLines, writeLines, String.toList_append,
        String.toList_append, hone]
      intro hprefix
      exact absurd (List.cons_prefix_cons.mp hprefix).1 (by decide)

theorem lines_document (lineEnds : Nat → LineEnd) {ls : List String}
    (h : ∀ line ∈ ls, OneLine line) :
    lines (String.ofList (normalizeNewlines (writeLines lineEnds ls).toList)) = ls := by
  rw [normalizeNewlines_writeLines h, String.ofList_toList, lines_terminated h]

theorem srtEvents_document {cues : List SrtCue} {ticks : SrtCue → Int × Int}
    (h : ∀ cue ∈ cues, cueTicks cue.vttTiming = some (ticks cue)) (bom : Bool)
    (lineEnds : Nat → LineEnd) : srtEvents (asBytes (srtDocument bom lineEnds cues)) =
      .ok (.object [("TrackEvents", .array (cues.map fun cue =>
        (TrackEvent.mk (ticks cue).1 (ticks cue).2 ("\n".intercalate cue.payload)).toJson))]) := by
  have hconverted : ∃ tail, (tail = [] ∨ tail = [""]) ∧
      subtitleSrtToVtt (asBytes (srtDocument bom lineEnds cues)) = .ok (asBytes
        (terminated ("WEBVTT" :: "" :: ((srtLines 1 cues).map vttLine ++ tail)))) := by
    have hheader : ∀ ls, "WEBVTT\n\n" ++ terminated ls = terminated ("WEBVTT" :: "" :: ls) :=
      fun ls => (terminated_append ["WEBVTT", ""] ls).symm
    rw [subtitleSrtToVtt, fromUTF8?_asBytes]
    simp only [stripPrefix_srtDocument, lines_document lineEnds oneLine_of_mem_srtLines.1, hheader]
    split
    · exact ⟨[], .inl rfl, by rw [List.append_nil]⟩
    · refine ⟨[""], .inr rfl, ?_⟩
      rw [← List.cons_append, ← List.cons_append, terminated_append]
      rfl
  obtain ⟨tail, htail, hconverted⟩ := hconverted
  have hevents : trackEvents tail = [] := by
    obtain rfl | rfl := htail
    · rw [trackEvents]
    · rw [trackEvents_skip (by decide), trackEvents]
  have hone : ∀ line ∈ "WEBVTT" :: "" :: ((srtLines 1 cues).map vttLine ++ tail),
      OneLine line := by
    have hblank : OneLine "" := ⟨by simp, by simp⟩
    refine List.forall_mem_cons.mpr ⟨⟨by decide, by decide⟩, List.forall_mem_cons.mpr ⟨hblank, ?_⟩⟩
    intro line hline
    obtain hline | hline := List.mem_append.mp hline
    · exact oneLine_of_mem_srtLines.2 line hline
    · obtain rfl | rfl := htail
      · cases hline
      · cases List.mem_singleton.mp hline
        exact hblank
  rw [srtEvents, hconverted]
  simp only [bind, Except.bind, subtitleVttToTrackEventsJson, fromUTF8?_asBytes,
    lines_terminated hone]
  rw [trackEvents_skip (by decide), trackEvents_skip (by decide), trackEvents_srtLines h 1 hevents,
    List.map_map]
  rfl

theorem cueTicks_of_fits {cue : SrtCue} (hstart : cue.start.ticks < 2 ^ 63)
    (hstop : cue.stop.ticks < 2 ^ 63) :
    cueTicks cue.vttTiming = some (cue.start.ticks, cue.stop.ticks) := by
  have hparse : ∀ {timestamp : SrtTimestamp}, timestamp.ticks < 2 ^ 63 →
      parseVttTimestampTicks timestamp.toTimestamp.text = some timestamp.ticks := by
    intro timestamp hfits
    rw [← timestamp.ticks_toTimestamp] at hfits ⊢
    exact Timestamp.parseVttTimestampTicks_text hfits
  rw [cue.cueTicks_vttTiming, hparse hstart, hparse hstop]
  rfl

/-- A document gives its cues back, if their times fit in 64 bits. -/
theorem srtEvents_of_cues {cues : List SrtCue}
    (h : ∀ cue ∈ cues, cue.start.ticks < 2 ^ 63 ∧ cue.stop.ticks < 2 ^ 63) (bom : Bool)
    (lineEnds : Nat → LineEnd) : srtEvents (asBytes (srtDocument bom lineEnds cues)) =
      .ok (.object [("TrackEvents", .array (cues.map fun cue => cue.event.toJson))]) :=
  srtEvents_document (fun cue hcue => cueTicks_of_fits (h cue hcue).1 (h cue hcue).2) bom lineEnds

def helloCue : SrtCue where
  start := ⟨1, 2, 3, 4, by decide, by decide, by decide⟩
  stop := ⟨100, 1, 5, 600, by decide, by decide, by decide⟩
  payload := ["Hello,", "world"]
  payload_ne_nil := by decide
  not_blank := by decide
  noArrow := by decide
  oneLine := by decide

theorem helloCue_event : srtEvents (asBytes (srtDocument true (fun _ => .crlf) [helloCue])) =
    .ok (.object [("TrackEvents", .array [.object [("EndPositionTicks", .number 3600656000000),
      ("StartPositionTicks", .number 37230040000), ("Text", .string "Hello,\nworld")]])]) :=
  @srtEvents_of_cues [helloCue]
    (List.forall_mem_singleton.mpr ⟨by decide, by decide⟩) true fun _ => .crlf

def lateCue : SrtCue :=
  { helloCue with stop := ⟨256204779, 1, 5, 600, by decide, by decide, by decide⟩ }

theorem lateCue_event_lost : ¬srtEvents (asBytes (srtDocument false (fun _ => .lf) [lateCue])) =
    .ok (.object [("TrackEvents", .array ([lateCue].map fun cue => cue.event.toJson))]) := by
  have hticks : ∀ cue ∈ [lateCue], cueTicks cue.vttTiming = some (37230040000, 2 ^ 63 - 1) :=
    List.forall_mem_singleton.mpr (by decide)
  rw [srtEvents_document hticks]
  decide

end Jellyrin.Playback.Subtitles
