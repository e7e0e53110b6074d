import Jellyrin.Defs.Data.Json
import Jellyrin.Defs.Data.Separated
import Jellyrin.Defs.Data.Text

/-! The progress that FFmpeg writes to its standard error, read in chunks. -/

namespace Jellyrin.Transcode

open Json Text

def ffmpegStderrMaxLineBytes : Nat := 16 * 1024

structure FfmpegProgress where
  frame : Option Nat
  fps : Option String
  bitrate : Option String
  totalSize : Option Nat
  outTimeUs : Option Nat
  outTimeMs : Option Nat
  outTime : Option String
  speed : Option String
  progress : Option String
  deriving DecidableEq

def FfmpegProgress.default : FfmpegProgress :=
  ⟨none, none, none, none, none, none, none, none, none⟩

def nonEmpty (value : String) : Option String := if value = "" then none else some value

def parseU64 (value : String) : Option Nat := parseUnsigned (2 ^ 64 - 1) value

def keyValue (line : String) : Option (String × String) :=
  (splitOnce (· == '=') (trim line).toList).map fun parts =>
    (String.ofList parts.1, String.ofList parts.2)

def parseFfmpegProgressLine (progress : FfmpegProgress) (line : String) : FfmpegProgress :=
  match keyValue line with
  | none => progress
  | some (key, value) =>
    let value := trim value
    match trim key with
    | "frame" => { progress with frame := parseU64 value }
    | "fps" => { progress with fps := nonEmpty value }
    | "bitrate" => { progress with bitrate := nonEmpty value }
    | "total_size" => { progress with totalSize := parseU64 value }
    | "out_time_us" => { progress with outTimeUs := parseU64 value }
    | "out_time_ms" => { progress with outTimeMs := parseU64 value }
    | "out_time" => { progress with outTime := nonEmpty value }
    | "speed" => { progress with speed := nonEmpty value }
    | "progress" => { progress with progress := nonEmpty value }
    | _ => progress

def knownProgressKeys : List String :=
  ["frame", "fps", "bitrate", "total_size", "out_time_us", "out_time_ms", "out_time", "speed",
    "progress"]

def parseFfmpegProgressLineHasSnapshot (progress : FfmpegProgress) (line : String) :
    FfmpegProgress × Bool :=
  match keyValue line with
  | none => (progress, false)
  | some (key, _) =>
    let key := trim key
    let known := knownProgressKeys.contains key
    (if known then parseFfmpegProgressLine progress line else progress, key == "progress")

def fromUtf8 (bytes : List UInt8) : Option String := String.fromUTF8? ⟨bytes.toArray⟩

def stripCarriageReturn (line : List UInt8) : List UInt8 :=
  if line.getLast? = some 13 then line.dropLast else line

structure StderrReader where
  lineBuffer : List UInt8
  discardingOversizedLine : Bool
  progress : FfmpegProgress
  published : List FfmpegProgress

namespace StderrReader

def start : StderrReader := ⟨[], false, .default, []⟩

def publishFfmpegProgressLine (reader : StderrReader) (line : List UInt8) : StderrReader :=
  match fromUtf8 (stripCarriageReturn line) with
  | none => reader
  | some line =>
    let parsed := parseFfmpegProgressLineHasSnapshot reader.progress line
    { reader with
      progress := parsed.1
      published := if parsed.2 then reader.published ++ [parsed.1] else reader.published }

def consumeByte (reader : StderrReader) (byte : UInt8) : StderrReader :=
  if byte = 10 then
    let reader :=
      if !reader.discardingOversizedLine then reader.publishFfmpegProgressLine reader.lineBuffer
      else reader
    { reader with lineBuffer := [], discardingOversizedLine := false }
  else if !reader.discardingOversizedLine then
    if reader.lineBuffer.length < ffmpegStderrMaxLineBytes then
      { reader with lineBuffer := reader.lineBuffer ++ [byte] }
    else { reader with lineBuffer := [], discardingOversizedLine := true }
  else reader

def consumeFfmpegStderrChunk (reader : StderrReader) (chunk : List UInt8) : StderrReader :=
  chunk.foldl consumeByte reader

def finish (reader : StderrReader) : StderrReader :=
  if !reader.discardingOversizedLine && !reader.lineBuffer.isEmpty then
    reader.publishFfmpegProgressLine reader.lineBuffer
  else reader

variable {IoError : Type}

/-- The loop over the results of `read`; an empty chunk is the end of the stream. -/
def readChunks (reader : StderrReader) :
    List (Except IoError (List UInt8)) → StderrReader × Except IoError Unit
  | [] => (reader.finish, .ok ())
  | .error error :: _ => (reader, .error error)
  | .ok chunk :: reads =>
    if chunk.isEmpty then (reader.finish, .ok ())
    else (reader.consumeFfmpegStderrChunk chunk).readChunks reads

end StderrReader

def readFfmpegProgress {IoError : Type} (reads : List (Except IoError (List UInt8))) :
    StderrReader × Except IoError Unit :=
  StderrReader.start.readChunks reads

end Jellyrin.Transcode

/-! However FFmpeg's output is cut into chunks, each of its lines is read as a whole. -/

namespace Jellyrin.Transcode

/-! What the snapshots are: the output is split at its newlines first. -/

def lineText (line : List UInt8) : Option String :=
  if ffmpegStderrMaxLineBytes < line.length then none else fromUtf8 (stripCarriageReturn line)

def IsProgressLine (line : String) : Prop :=
  ∃ key value, keyValue line = some (key, value) ∧ Json.trim key = "progress"

instance (line : String) : Decidable (IsProgressLine line) :=
  match h : keyValue line with
  | none => isFalse fun ⟨_, _, hline, _⟩ => by simp [h] at hline
  | some (key, value) =>
    decidable_of_iff (Json.trim key = "progress")
      ⟨fun hkey => ⟨key, value, h, hkey⟩, fun ⟨_, _, hline, hkey⟩ => by
        obtain ⟨rfl, rfl⟩ := by simpa using h.symm.trans hline
        exact hkey⟩

abbrev Snapshots := FfmpegProgress × List FfmpegProgress

def Snapshots.line (snapshots : Snapshots) (line : String) : Snapshots :=
  let progress := parseFfmpegProgressLine snapshots.1 line
  (progress, if IsProgressLine line then snapshots.2 ++ [progress] else snapshots.2)

def Snapshots.lines (snapshots : Snapshots) (lines : List (List UInt8)) : Snapshots :=
  (lines.filterMap lineText).foldl Snapshots.line snapshots

def snapshotsOf (stream : List UInt8) : List FfmpegProgress :=
  (Snapshots.lines (.default, []) (terminatedLines 10 stream)).2

/-! A line of text. -/

theorem parseFfmpegProgressLine_of_unknown {progress : FfmpegProgress} {line key value : String}
    (h : keyValue line = some (key, value)) (hkey : Json.trim key ∉ knownProgressKeys) :
    parseFfmpegProgressLine progress line = progress := by
  simp only [knownProgressKeys, List.mem_cons, List.not_mem_nil, or_false, not_or] at hkey
  rw [parseFfmpegProgressLine, h]
  split
  · rfl
  · rename_i heq
    obtain ⟨rfl, rfl⟩ := by simpa using heq
    split <;> simp_all

theorem parseFfmpegProgressLineHasSnapshot_eq (progress : FfmpegProgress) (line : String) :
    parseFfmpegProgressLineHasSnapshot progress line =
      (parseFfmpegProgressLine progress line, decide (IsProgressLine line)) := by
  rw [parseFfmpegProgressLineHasSnapshot]
  cases h : keyValue line with
  | none =>
    have hprogress : ¬IsProgressLine line := by simp [IsProgressLine, h]
    simp [parseFfmpegProgressLine, h, hprogress]
  | some entry =>
    have hprogress : IsProgressLine line ↔ Json.trim entry.1 = "progress" := by
      simp [IsProgressLine, h, Prod.ext_iff]
    by_cases hkey : Json.trim entry.1 ∈ knownProgressKeys
    · simp [hkey, hprogress, beq_eq_decide]
    · simp [hkey, hprogress, beq_eq_decide, parseFfmpegProgressLine_of_unknown h hkey]

namespace Snapshots

variable {snapshots : Snapshots}

theorem lines_cons (line : List UInt8) (rest : List (List UInt8)) :
    snapshots.lines (line :: rest) = (snapshots.lines [line]).lines rest := by
  cases h : lineText line <;> simp [lines, h]

theorem lines_of_long {line : List UInt8} (h : ffmpegStderrMaxLineBytes < line.length) :
    snapshots.lines [line] = snapshots := by
  simp [lines, lineText, h]

end Snapshots

namespace StderrReader

def openLine (snapshots : Snapshots) (line : List UInt8) : StderrReader where
  lineBuffer := if line.length ≤ ffmpegStderrMaxLineBytes then line else []
  discardingOversizedLine := decide (ffmpegStderrMaxLineBytes < line.length)
  progress := snapshots.1
  published := snapshots.2

variable {snapshots : Snapshots} {line : List UInt8}

theorem openLine_nil (snapshots : Snapshots) :
    openLine snapshots [] = ⟨[], false, snapshots.1, snapshots.2⟩ := rfl

theorem publish_openLine (h : line.length ≤ ffmpegStderrMaxLineBytes) :
    let reader := (openLine snapshots line).publishFfmpegProgressLine line
    (reader.progress, reader.published) = snapshots.lines [line] := by
  have htext : lineText line = fromUtf8 (stripCarriageReturn line) := if_neg (by omega)
  simp only [publishFfmpegProgressLine, Snapshots.lines, List.filterMap_cons, htext]
  cases fromUtf8 (stripCarriageReturn line) with
  | none => rfl
  | some text => simp [parseFfmpegProgressLineHasSnapshot_eq, Snapshots.line, openLine]

theorem consumeByte_newline :
    (openLine snapshots line).consumeByte 10 = openLine (snapshots.lines [line]) [] := by
  by_cases hlong : ffmpegStderrMaxLineBytes < line.length
  · rw [Snapshots.lines_of_long hlong, consumeByte, if_pos rfl, openLine_nil]
    simp [openLine, hlong]
  · have hshort : line.length ≤ ffmpegStderrMaxLineBytes := Nat.not_lt.mp hlong
    rw [← publish_openLine hshort, consumeByte, if_pos rfl, openLine_nil]
    simp [openLine, hlong, hshort]

theorem consumeByte_openLine {byte : UInt8} (h : byte ≠ 10) :
    (openLine snapshots line).consumeByte byte = openLine snapshots (line ++ [byte]) := by
  by_cases hlong : ffmpegStderrMaxLineBytes < line.length
  · have hlonger : ffmpegStderrMaxLineBytes < line.length + 1 := by omega
    simp [consumeByte, h, openLine, hlong, hlonger, Nat.not_le.mpr]
  · by_cases hfull : line.length < ffmpegStderrMaxLineBytes
    · simp [consumeByte, h, openLine, hlong, hfull, Nat.le_of_lt hfull, Nat.succ_le_of_lt hfull,
        Nat.not_lt.mpr]
    · have hlonger : ffmpegStderrMaxLineBytes < line.length + 1 := by omega
      simp [consumeByte, h, openLine, hlong, hfull, hlonger, Nat.not_le.mpr, Nat.not_lt.mp hlong]

theorem published_finish_openLine :
    (openLine snapshots line).finish.published =
      (snapshots.lines (if line = [] then [] else [line])).2 := by
  by_cases hempty : line = []
  · subst hempty
    rfl
  by_cases hlong : ffmpegStderrMaxLineBytes < line.length
  · rw [if_neg hempty, Snapshots.lines_of_long hlong]
    simp [finish, openLine, hlong]
  · have hshort : line.length ≤ ffmpegStderrMaxLineBytes := Nat.not_lt.mp hlong
    rw [if_neg hempty, ← publish_openLine hshort]
    simp [finish, openLine, hlong, hshort, hempty]

theorem published_consume_openLine (stream : List UInt8) (hline : 10 ∉ line) :
    ((openLine snapshots line).consumeFfmpegStderrChunk stream).finish.published =
      (snapshots.lines (terminatedLines 10 (line ++ stream))).2 := by
  induction stream generalizing line snapshots with
  | nil =>
    rw [consumeFfmpegStderrChunk, List.foldl_nil, published_finish_openLine, List.append_nil]
    split
    · rename_i hempty
      rw [hempty, terminatedLines_nil]
    · rename_i hne
      rw [terminatedLines_open hline hne]
  | cons byte stream ih =>
    rw [consumeFfmpegStderrChunk, List.foldl_cons, ← consumeFfmpegStderrChunk]
    by_cases hbyte : byte = 10
    · subst hbyte
      rw [consumeByte_newline, ih List.not_mem_nil, terminatedLines_line hline, List.nil_append,
        Snapshots.lines_cons line (terminatedLines 10 stream)]
    · have hopen : 10 ∉ line ++ [byte] := by
        simpa [hline] using Ne.symm hbyte
      rw [consumeByte_openLine hbyte, ih hopen, List.append_assoc, List.singleton_append]

/-! The chunks. -/

variable {reader : StderrReader}

theorem consumeFfmpegStderrChunk_append (first second : List UInt8) :
    reader.consumeFfmpegStderrChunk (first ++ second) =
      (reader.consumeFfmpegStderrChunk first).consumeFfmpegStderrChunk second :=
  List.foldl_append

theorem readChunks_eq {IoError : Type} {chunks : List (List UInt8)}
    (h : ∀ chunk ∈ chunks, chunk ≠ []) :
    reader.readChunks (chunks.map (Except.ok : _ → Except IoError _)) =
      ((reader.consumeFfmpegStderrChunk chunks.flatten).finish, .ok ()) := by
  induction chunks generalizing reader with
  | nil => rfl
  | cons chunk chunks ih =>
    have hchunk : chunk.isEmpty = false := by simpa using h chunk List.mem_cons_self
    rw [List.map_cons, readChunks, hchunk, if_neg Bool.false_ne_true,
      ih fun other hother => h other (List.mem_cons_of_mem _ hother), List.flatten_cons,
      consumeFfmpegStderrChunk_append]

theorem length_lineBuffer_consumeByte (byte : UInt8)
    (h : reader.lineBuffer.length ≤ ffmpegStderrMaxLineBytes) :
    (reader.consumeByte byte).lineBuffer.length ≤ ffmpegStderrMaxLineBytes := by
  rw [consumeByte]
  split
  · exact Nat.zero_le _
  · split
    · split
      · rename_i hroom
        rw [List.length_append]
        exact hroom
      · exact Nat.zero_le _
    · exact h

theorem length_lineBuffer_consume (chunk : List UInt8)
    (h : reader.lineBuffer.length ≤ ffmpegStderrMaxLineBytes) :
    (reader.consumeFfmpegStderrChunk chunk).lineBuffer.length ≤ ffmpegStderrMaxLineBytes := by
  induction chunk generalizing reader with
  | nil => exact h
  | cons byte chunk ih => exact ih (length_lineBuffer_consumeByte byte h)

end StderrReader

/-- However the output is cut into chunks, the snapshots are those of its lines, and at no byte of
it does the reader hold more than the longest line. -/
theorem published_readFfmpegProgress {IoError : Type} (chunks : List (List UInt8))
    (h : ∀ chunk ∈ chunks, chunk ≠ []) :
    (readFfmpegProgress (chunks.map (Except.ok : _ → Except IoError _))).1.published =
        snapshotsOf chunks.flatten ∧
      ∀ consumed, consumed <+: chunks.flatten →
        (StderrReader.start.consumeFfmpegStderrChunk consumed).lineBuffer.length ≤
          ffmpegStderrMaxLineBytes := by
  constructor
  · rw [readFfmpegProgress, StderrReader.readChunks_eq h]
    exact @StderrReader.published_consume_openLine (.default, []) [] chunks.flatten
      List.not_mem_nil
  · intro consumed _
    exact StderrReader.length_lineBuffer_consume consumed (Nat.zero_le _)

def twentyFourFrames : List (List UInt8) :=
  [[102, 114, 97, 109, 101, 61, 50],
    [52, 13, 10, 112, 114, 111, 103, 114, 101, 115, 115], [61, 101, 110, 100, 10]]

theorem published_progressEnd :
    (readFfmpegProgress (twentyFourFrames.map (Except.ok : _ → Except Unit _))).1.published =
        snapshotsOf twentyFourFrames.flatten ∧
      snapshotsOf twentyFourFrames.flatten =
        [{ FfmpegProgress.default with frame := some 24, progress := some "end" }] :=
  ⟨(@published_readFfmpegProgress Unit _ (by decide)).1, by decide +kernel⟩

end Jellyrin.Transcode
