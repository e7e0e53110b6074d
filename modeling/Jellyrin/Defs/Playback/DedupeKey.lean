import Jellyrin.Defs.Data.EntityId
import Jellyrin.Defs.Data.Text
import Jellyrin.Defs.Transcode.HlsLayout

/-! The key under which equal HLS transcodes are shared, and what is read back from it. -/

namespace Jellyrin.Playback

open Text Transcode

structure MediaItem where
  id : Uuid
  deriving DecidableEq

structure PlaybackOutputConstraints where
  maxWidth : Option UInt32
  maxHeight : Option UInt32
  videoBitrate : Option UInt32
  audioBitrate : Option UInt32
  videoProfile : Option H264Profile
  videoLevel : Option UInt8
  videoBitDepth : Option UInt8
  maxVideoFrameRateMillihertz : Option UInt32
  audioProfile : Option AacProfile
  audioChannels : Option UInt8
  deriving DecidableEq

def PlaybackOutputConstraints.default : PlaybackOutputConstraints :=
  ⟨none, none, none, none, none, none, none, none, none, none⟩

def streamIndexKey (index : Option Int64) : String :=
  index.elim "-" fun index => toString index.toInt

def hlsTranscodeDedupeKey (userId : Uuid) (item : MediaItem)
    (selection : TranscodeStreamSelection) (startPositionTicks : Int64) : String :=
  let user := userId.simple
  let id := item.id.simple
  let video := streamIndexKey selection.videoStreamIndex
  let audio := streamIndexKey selection.audioStreamIndex
  let subtitle := streamIndexKey selection.subtitleStreamIndex
  let start := toString (max startPositionTicks 0).toInt
  "hls:ts:" ++ user ++ ":" ++ id ++ ":" ++ id ++ ":" ++ video ++ ":" ++ audio ++ ":" ++
    subtitle ++ ":" ++ start

def hlsStreamModeKey : HlsStreamMode → String
  | .copy => "copy"
  | .encode => "encode"
  | .drop => "drop"

def hlsStreamModeFromKey : String → Option HlsStreamMode
  | "copy" => some .copy
  | "encode" => some .encode
  | "drop" => some .drop
  | _ => none

def playbackHlsTranscodeDedupeKey (userId : Uuid) (item : MediaItem)
    (selection : TranscodeStreamSelection) (startPositionTicks : Int64)
    (videoMode audioMode : HlsStreamMode) : String :=
  let base := hlsTranscodeDedupeKey userId item selection startPositionTicks
  if videoMode = .encode ∧ audioMode = .encode then base
  else
    base ++ ":video-" ++ hlsStreamModeKey videoMode ++ ":audio-" ++ hlsStreamModeKey audioMode

def outputConstraintKey (value : Option UInt32) : String :=
  value.elim "-" fun value => toString value.toNat

def outputTextConstraintKey (value : Option String) : String := value.getD "-"

def PlaybackOutputConstraints.keys (output : PlaybackOutputConstraints) : List String :=
  [outputConstraintKey output.maxWidth,
    outputConstraintKey output.maxHeight,
    outputConstraintKey output.videoBitrate,
    outputConstraintKey output.audioBitrate,
    outputTextConstraintKey (output.videoProfile.map H264Profile.asStr),
    outputConstraintKey (output.videoLevel.map UInt8.toUInt32),
    outputConstraintKey (output.videoBitDepth.map UInt8.toUInt32),
    outputConstraintKey output.maxVideoFrameRateMillihertz,
    outputTextConstraintKey (output.audioProfile.map AacProfile.asStr),
    outputConstraintKey (output.audioChannels.map UInt8.toUInt32)]

def playbackHlsTranscodeDedupeKeyWithOutput (userId : Uuid) (item : MediaItem)
    (selection : TranscodeStreamSelection) (startPositionTicks : Int64)
    (videoMode audioMode : HlsStreamMode) (output : PlaybackOutputConstraints) : String :=
  let base :=
    playbackHlsTranscodeDedupeKey userId item selection startPositionTicks videoMode audioMode
  if output = .default then base
  else base ++ ":limits:" ++ ":".intercalate output.keys

def parseU32 (value : String) : Option UInt32 :=
  (parseUnsigned (2 ^ 32 - 1) value).map UInt32.ofNat

def parseU8 (value : String) : Option UInt8 :=
  (parseUnsigned (2 ^ 8 - 1) value).map UInt8.ofNat

def h264ProfileFromKey : String → Option H264Profile
  | "baseline" => some .baseline
  | "main" => some .main
  | "high" => some .high
  | _ => none

def aacProfileFromKey : String → Option AacProfile
  | "lc" => some .lowComplexity
  | _ => none

def playbackOutputConstraintsFromDedupeKey (dedupeKey : Option String) :
    PlaybackOutputConstraints :=
  match dedupeKey.map (split ':') with
  | none => .default
  | some parts =>
    match parts.findIdx? (· == "limits") with
    | none => .default
    | some index =>
      { maxWidth := parts[index + 1]?.bind parseU32
        maxHeight := parts[index + 2]?.bind parseU32
        videoBitrate := parts[index + 3]?.bind parseU32
        audioBitrate := parts[index + 4]?.bind parseU32
        videoProfile := parts[index + 5]?.bind h264ProfileFromKey
        videoLevel := parts[index + 6]?.bind parseU8
        videoBitDepth := parts[index + 7]?.bind parseU8
        maxVideoFrameRateMillihertz := parts[index + 8]?.bind parseU32
        audioProfile := parts[index + 9]?.bind aacProfileFromKey
        audioChannels := parts[index + 10]?.bind parseU8 }

def playbackHlsModesFromDedupeKey (dedupeKey : Option String) :
    Option (HlsStreamMode × HlsStreamMode) :=
  dedupeKey.bind fun dedupeKey =>
    let parts := split ':' dedupeKey
    let video := parts.findSome? fun part => (stripPrefix part "video-").bind hlsStreamModeFromKey
    let audio := parts.findSome? fun part => (stripPrefix part "audio-").bind hlsStreamModeFromKey
    match video, audio with
    | some video, some audio => some (video, audio)
    | none, none => some (.encode, .encode)
    | _, _ => none

end Jellyrin.Playback

/-! The key carries the whole identity of a request. -/

namespace Jellyrin.Playback

open Text Transcode

def isKeyChar (c : Char) : Bool := c.isDigit || ['a', 'b', 'c', 'd', 'e', 'f', '-'].contains c

def IsPlain (part : String) : Prop := ∀ c ∈ part.toList, isKeyChar c = true

variable {part : String}

theorem IsPlain.notMem (h : IsPlain part) {c : Char} (hc : isKeyChar c = false) :
    c ∉ part.toList := by
  intro hmem
  rw [h c hmem] at hc
  cases hc

theorem isPlain_simple (id : Uuid) : IsPlain id.simple := by
  intro c hc
  obtain hdigit | hletter := Uuid.mem_simple hc
  · simp [isKeyChar, hdigit]
  · have hall : ['a', 'b', 'c', 'd', 'e', 'f'].all isKeyChar = true := by decide
    exact List.all_eq_true.mp hall c hletter

theorem isPlain_toString_int (i : Int) : IsPlain (toString i) := by
  intro c hc
  obtain hdigit | rfl := mem_toString_int hc
  · simp [isKeyChar, hdigit]
  · decide

theorem isPlain_minus : IsPlain "-" := by
  intro c hc
  rw [List.mem_singleton.mp hc]
  decide

theorem isPlain_streamIndexKey (index : Option Int64) : IsPlain (streamIndexKey index) := by
  cases index with
  | none => exact isPlain_minus
  | some index => exact isPlain_toString_int index.toInt

theorem isPlain_outputConstraintKey (value : Option UInt32) :
    IsPlain (outputConstraintKey value) := by
  cases value with
  | none => exact isPlain_minus
  | some value => exact isPlain_toString_int (Int.ofNat value.toNat)

def baseParts (userId : Uuid) (item : MediaItem) (selection : TranscodeStreamSelection)
    (startPositionTicks : Int64) : List String :=
  ["hls", "ts", userId.simple, item.id.simple, item.id.simple,
    streamIndexKey selection.videoStreamIndex, streamIndexKey selection.audioStreamIndex,
    streamIndexKey selection.subtitleStreamIndex, toString (max startPositionTicks 0).toInt]

def modeParts (videoMode audioMode : HlsStreamMode) : List String :=
  if videoMode = .encode ∧ audioMode = .encode then []
  else ["video-" ++ hlsStreamModeKey videoMode, "audio-" ++ hlsStreamModeKey audioMode]

def limitParts (output : PlaybackOutputConstraints) : List String :=
  if output = .default then [] else "limits" :: output.keys

def requestParts (userId : Uuid) (item : MediaItem) (selection : TranscodeStreamSelection)
    (startPositionTicks : Int64) (videoMode audioMode : HlsStreamMode) : List String :=
  baseParts userId item selection startPositionTicks ++ modeParts videoMode audioMode

def keyParts (userId : Uuid) (item : MediaItem) (selection : TranscodeStreamSelection)
    (startPositionTicks : Int64) (videoMode audioMode : HlsStreamMode)
    (output : PlaybackOutputConstraints) : List String :=
  requestParts userId item selection startPositionTicks videoMode audioMode ++ limitParts output

variable {userId userId' : Uuid} {item item' : MediaItem}
  {selection selection' : TranscodeStreamSelection} {start start' : Int64}
  {videoMode audioMode videoMode' audioMode' : HlsStreamMode}
  {output output' : PlaybackOutputConstraints}

theorem intercalate_base (user source file video audio subtitle position : String) :
    ":".intercalate ["hls", "ts", user, source, file, video, audio, subtitle, position] =
      "hls:ts:" ++ user ++ ":" ++ source ++ ":" ++ file ++ ":" ++ video ++ ":" ++ audio ++ ":" ++
        subtitle ++ ":" ++ position := by
  have htag : "hls:ts:" = "hls" ++ ":" ++ "ts" ++ ":" := by simp
  simp only [String.intercalate_cons_cons, String.intercalate_singleton]
  rw [htag]
  simp only [String.append_assoc]

theorem hlsTranscodeDedupeKey_eq :
    hlsTranscodeDedupeKey userId item selection start =
      ":".intercalate (baseParts userId item selection start) :=
  (intercalate_base _ _ _ _ _ _ _).symm

theorem playbackHlsTranscodeDedupeKey_eq :
    playbackHlsTranscodeDedupeKey userId item selection start videoMode audioMode =
      ":".intercalate (requestParts userId item selection start videoMode audioMode) := by
  have hvideo : ":video-" = ":" ++ "video-" := by simp
  have haudio : ":audio-" = ":" ++ "audio-" := by simp
  simp only [playbackHlsTranscodeDedupeKey, requestParts, modeParts, hlsTranscodeDedupeKey_eq]
  split
  · rw [List.append_nil]
  · rw [String.intercalate_append_of_ne_nil (by simp [baseParts]) (by simp)]
    simp only [String.intercalate_cons_cons, String.intercalate_singleton, hvideo, haudio,
      String.append_assoc]

theorem playbackHlsTranscodeDedupeKeyWithOutput_eq :
    playbackHlsTranscodeDedupeKeyWithOutput userId item selection start videoMode audioMode output =
      ":".intercalate (keyParts userId item selection start videoMode audioMode output) := by
  have htag : ":limits:" = ":" ++ "limits" ++ ":" := by simp
  simp only [playbackHlsTranscodeDedupeKeyWithOutput, keyParts, limitParts,
    playbackHlsTranscodeDedupeKey_eq]
  split
  · rw [List.append_nil]
  · have hfirst : requestParts userId item selection start videoMode audioMode ≠ [] := by
      simp [requestParts, baseParts]
    have hlimits : ":".intercalate ("limits" :: output.keys) =
        "limits" ++ ":" ++ ":".intercalate output.keys :=
      String.intercalate_cons_of_ne_nil (by simp [PlaybackOutputConstraints.keys])
    have hjoin : ":".intercalate (requestParts userId item selection start videoMode audioMode ++
          "limits" :: output.keys) =
        ":".intercalate (requestParts userId item selection start videoMode audioMode) ++ ":" ++
          ":".intercalate ("limits" :: output.keys) :=
      String.intercalate_append_of_ne_nil hfirst (by simp)
    rw [hjoin, hlimits, htag]
    simp only [String.append_assoc]

/-! No part holds the separator. -/

theorem isPlain_of_mem_baseParts (h : part ∈ baseParts userId item selection start) :
    part = "hls" ∨ part = "ts" ∨ IsPlain part := by
  simp only [baseParts, List.mem_cons, List.not_mem_nil, or_false] at h
  obtain rfl | rfl | rfl | rfl | rfl | rfl | rfl | rfl | rfl := h
  · exact .inl rfl
  · exact .inr (.inl rfl)
  · exact .inr (.inr (isPlain_simple _))
  · exact .inr (.inr (isPlain_simple _))
  · exact .inr (.inr (isPlain_simple _))
  · exact .inr (.inr (isPlain_streamIndexKey _))
  · exact .inr (.inr (isPlain_streamIndexKey _))
  · exact .inr (.inr (isPlain_streamIndexKey _))
  · exact .inr (.inr (isPlain_toString_int _))

theorem mem_keys (h : part ∈ output.keys) :
    part ∈ ["baseline", "main", "high", "lc"] ∨ IsPlain part := by
  have hvideo : outputTextConstraintKey (output.videoProfile.map H264Profile.asStr) ∈
      ["baseline", "main", "high", "lc"] ∨
      IsPlain (outputTextConstraintKey (output.videoProfile.map H264Profile.asStr)) := by
    cases output.videoProfile with
    | none => exact .inr isPlain_minus
    | some profile => cases profile <;> exact .inl (by decide)
  have haudio : outputTextConstraintKey (output.audioProfile.map AacProfile.asStr) ∈
      ["baseline", "main", "high", "lc"] ∨
      IsPlain (outputTextConstraintKey (output.audioProfile.map AacProfile.asStr)) := by
    cases output.audioProfile with
    | none => exact .inr isPlain_minus
    | some profile => cases profile; exact .inl (by decide)
  simp only [PlaybackOutputConstraints.keys, List.mem_cons, List.not_mem_nil, or_false] at h
  obtain rfl | rfl | rfl | rfl | rfl | rfl | rfl | rfl | rfl | rfl := h
  · exact .inr (isPlain_outputConstraintKey _)
  · exact .inr (isPlain_outputConstraintKey _)
  · exact .inr (isPlain_outputConstraintKey _)
  · exact .inr (isPlain_outputConstraintKey _)
  · exact hvideo
  · exact .inr (isPlain_outputConstraintKey _)
  · exact .inr (isPlain_outputConstraintKey _)
  · exact .inr (isPlain_outputConstraintKey _)
  · exact haudio
  · exact .inr (isPlain_outputConstraintKey _)

def IsForeign (c : Char) : Prop :=
  isKeyChar c = false ∧
    ∀ word ∈ ["hls", "ts", "limits", "baseline", "main", "high", "lc"], c ∉ word.toList

theorem notMem_baseParts {c : Char} (hc : IsForeign c)
    (h : part ∈ baseParts userId item selection start) : c ∉ part.toList := by
  obtain rfl | rfl | hplain := isPlain_of_mem_baseParts h
  · exact hc.2 _ (by decide)
  · exact hc.2 _ (by decide)
  · exact hplain.notMem hc.1

theorem notMem_limitParts {c : Char} (hc : IsForeign c) (h : part ∈ limitParts output) :
    c ∉ part.toList := by
  simp only [limitParts] at h
  split at h
  · cases h
  · obtain rfl | hkey := List.mem_cons.mp h
    · exact hc.2 _ (by decide)
    · obtain hword | hplain := mem_keys hkey
      · exact hc.2 _ (by
          have hall : ∀ word ∈ ["baseline", "main", "high", "lc"], word ∈ ["hls", "ts", "limits",
              "baseline", "main", "high", "lc"] := by decide
          exact hall part hword)
      · exact hplain.notMem hc.1

theorem isForeign_separator : IsForeign ':' := ⟨by decide, by decide⟩

theorem isForeign_v : IsForeign 'v' := ⟨by decide, by decide⟩

theorem isForeign_u : IsForeign 'u' := ⟨by decide, by decide⟩

theorem separator_notMem_modeParts (h : part ∈ modeParts videoMode audioMode) :
    ':' ∉ part.toList := by
  have hall : ∀ part ∈ modeParts videoMode audioMode, ':' ∉ part.toList := by
    cases videoMode <;> cases audioMode <;> decide
  exact hall part h

theorem split_playbackHlsTranscodeDedupeKeyWithOutput :
    split ':' (playbackHlsTranscodeDedupeKeyWithOutput userId item selection start videoMode
      audioMode output) = keyParts userId item selection start videoMode audioMode output := by
  rw [playbackHlsTranscodeDedupeKeyWithOutput_eq]
  refine split_intercalate ':' ?_ (by simp [keyParts, requestParts, baseParts])
  intro part hpart
  simp only [keyParts, requestParts, List.mem_append] at hpart
  obtain (hbase | hmode) | hlimit := hpart
  · exact notMem_baseParts isForeign_separator hbase
  · exact separator_notMem_modeParts hmode
  · exact notMem_limitParts isForeign_separator hlimit

/-! The limits are read back. -/

theorem ne_limits_of_mem_baseParts (h : part ∈ baseParts userId item selection start) :
    part ≠ "limits" := by
  obtain rfl | rfl | hplain := isPlain_of_mem_baseParts h
  · decide
  · decide
  · rintro rfl
    exact hplain.notMem (c := 'l') (by decide) (by decide)

theorem ne_limits_of_mem_modeParts (h : part ∈ modeParts videoMode audioMode) :
    part ≠ "limits" := by
  have hall : ∀ part ∈ modeParts videoMode audioMode, part ≠ "limits" := by
    cases videoMode <;> cases audioMode <;> decide
  exact hall part h

theorem findIdx?_requestParts :
    (requestParts userId item selection start videoMode audioMode).findIdx? (· == "limits") =
      none := by
  rw [List.findIdx?_eq_none_iff]
  intro part hpart
  rw [beq_eq_false_iff_ne]
  obtain hbase | hmode := List.mem_append.mp hpart
  · exact ne_limits_of_mem_baseParts hbase
  · exact ne_limits_of_mem_modeParts hmode

theorem parseU32_outputConstraintKey (value : Option UInt32) :
    parseU32 (outputConstraintKey value) = value := by
  cases value with
  | none => rfl
  | some value =>
    have hparse : parseUnsigned (2 ^ 32 - 1) (toString value.toNat) = some value.toNat :=
      parseUnsigned_toString (Nat.le_sub_one_of_lt value.toNat_lt)
    simp only [parseU32, outputConstraintKey, Option.elim_some, hparse, Option.map_some,
      UInt32.ofNat_toNat]

theorem parseU8_outputConstraintKey (value : Option UInt8) :
    parseU8 (outputConstraintKey (value.map UInt8.toUInt32)) = value := by
  cases value with
  | none => rfl
  | some value =>
    have hparse : parseUnsigned (2 ^ 8 - 1) (toString value.toNat) = some value.toNat :=
      parseUnsigned_toString (Nat.le_sub_one_of_lt value.toNat_lt)
    simp only [parseU8, outputConstraintKey, Option.map_some, Option.elim_some,
      UInt8.toNat_toUInt32, hparse, UInt8.ofNat_toNat]

theorem h264ProfileFromKey_key (profile : Option H264Profile) :
    h264ProfileFromKey (outputTextConstraintKey (profile.map H264Profile.asStr)) = profile := by
  cases profile with
  | none => rfl
  | some profile => cases profile <;> rfl

theorem aacProfileFromKey_key (profile : Option AacProfile) :
    aacProfileFromKey (outputTextConstraintKey (profile.map AacProfile.asStr)) = profile := by
  cases profile with
  | none => rfl
  | some profile => cases profile; rfl

theorem playbackOutputConstraintsFromDedupeKey_key :
    playbackOutputConstraintsFromDedupeKey (some (playbackHlsTranscodeDedupeKeyWithOutput userId
      item selection start videoMode audioMode output)) = output := by
  simp only [playbackOutputConstraintsFromDedupeKey, Option.map_some,
    split_playbackHlsTranscodeDedupeKeyWithOutput, keyParts, List.findIdx?_append,
    findIdx?_requestParts, Option.none_or, limitParts]
  by_cases hdefault : output = .default
  · simp only [hdefault, if_true, List.findIdx?_nil, Option.map_none]
  · have hlimits : ∀ offset, (requestParts userId item selection start videoMode audioMode ++
        "limits" :: output.keys)[(requestParts userId item selection start videoMode
          audioMode).length + (offset + 1)]? = output.keys[offset]? := by
      intro offset
      rw [List.getElem?_append_right (Nat.le_add_right _ _), Nat.add_sub_cancel_left]
      rfl
    simp only [hdefault, if_false, List.findIdx?_cons, BEq.rfl, if_true, Option.map_some,
      Nat.zero_add, hlimits]
    simp only [PlaybackOutputConstraints.keys, List.getElem?_cons_succ, List.getElem?_cons_zero,
      Option.bind_some, parseU32_outputConstraintKey, parseU8_outputConstraintKey,
      h264ProfileFromKey_key, aacProfileFromKey_key]

/-! The modes are read back. -/

theorem findSome?_eq_none_of_notMem {parts : List String} {start : String} {c : Char}
    (hstart : c ∈ start.toList) (hparts : ∀ part ∈ parts, c ∉ part.toList) :
    parts.findSome? (fun part => (stripPrefix part start).bind hlsStreamModeFromKey) = none := by
  rw [List.findSome?_eq_none_iff]
  intro part hpart
  rw [stripPrefix_eq_none hstart (hparts part hpart), Option.bind_none]

theorem findSome?_baseParts {mode : String} {c : Char} (hc : IsForeign c) (hmode : c ∈ mode.toList) :
    (baseParts userId item selection start).findSome?
      (fun part => (stripPrefix part mode).bind hlsStreamModeFromKey) = none :=
  findSome?_eq_none_of_notMem hmode fun _ => notMem_baseParts hc

theorem findSome?_limitParts {mode : String} {c : Char} (hc : IsForeign c)
    (hmode : c ∈ mode.toList) :
    (limitParts output).findSome?
      (fun part => (stripPrefix part mode).bind hlsStreamModeFromKey) = none :=
  findSome?_eq_none_of_notMem hmode fun _ => notMem_limitParts hc

theorem playbackHlsModesFromDedupeKey_key :
    playbackHlsModesFromDedupeKey (some (playbackHlsTranscodeDedupeKeyWithOutput userId item
      selection start videoMode audioMode output)) = some (videoMode, audioMode) := by
  have hvideo : 'v' ∈ "video-".toList := by decide
  have haudio : 'u' ∈ "audio-".toList := by decide
  simp only [playbackHlsModesFromDedupeKey, Option.bind_some,
    split_playbackHlsTranscodeDedupeKeyWithOutput, keyParts, requestParts, List.findSome?_append,
    findSome?_baseParts isForeign_v hvideo, findSome?_baseParts isForeign_u haudio,
    findSome?_limitParts isForeign_v hvideo, findSome?_limitParts isForeign_u haudio,
    Option.none_or, Option.or_none]
  cases videoMode <;> cases audioMode <;> rfl

/-! Equal keys come from equal requests. -/

theorem streamIndexKey_injective {index index' : Option Int64}
    (h : streamIndexKey index = streamIndexKey index') : index = index' := by
  cases index with
  | none =>
    cases index' with
    | none => rfl
    | some index' => exact absurd h.symm (toString_int_ne_minus _)
  | some index =>
    cases index' with
    | none => exact absurd h (toString_int_ne_minus _)
    | some index' => exact congrArg some (Int64.toInt_inj.mp (toString_int_injective h))

theorem baseParts_injective
    (h : baseParts userId item selection start = baseParts userId' item' selection' start') :
    userId = userId' ∧ item = item' ∧ selection = selection' ∧ max start 0 = max start' 0 := by
  simp only [baseParts, List.cons.injEq, true_and, and_true] at h
  obtain ⟨huser, hitem, -, hvideo, haudio, hsubtitle, hstart⟩ := h
  exact ⟨Uuid.simple_injective huser, congrArg MediaItem.mk (Uuid.simple_injective hitem),
    TranscodeStreamSelection.ext (streamIndexKey_injective hvideo)
      (streamIndexKey_injective haudio) (streamIndexKey_injective hsubtitle),
    Int64.toInt_inj.mp (toString_int_injective hstart)⟩

theorem base_eq_of_key_eq
    (h : playbackHlsTranscodeDedupeKeyWithOutput userId item selection start videoMode audioMode
        output =
      playbackHlsTranscodeDedupeKeyWithOutput userId' item' selection' start' videoMode' audioMode'
        output') :
    userId = userId' ∧ item = item' ∧ selection = selection' ∧ max start 0 = max start' 0 := by
  have hparts := congrArg (split ':') h
  simp only [split_playbackHlsTranscodeDedupeKeyWithOutput, keyParts, requestParts,
    List.append_assoc] at hparts
  exact baseParts_injective (List.append_inj_left hparts (by simp [baseParts]))

theorem key_eq_of_max_eq (h : max start 0 = max start' 0) :
    playbackHlsTranscodeDedupeKeyWithOutput userId item selection start videoMode audioMode output =
      playbackHlsTranscodeDedupeKeyWithOutput userId item selection start' videoMode audioMode
        output := by
  simp only [playbackHlsTranscodeDedupeKeyWithOutput_eq, keyParts, requestParts, baseParts, h]

/-- A key decodes to its limits and modes, and only requests that differ in negative positions
share it. -/
theorem key_identifies_request (userId : Uuid) (item : MediaItem)
    (selection : TranscodeStreamSelection) (start : Int64) (videoMode audioMode : HlsStreamMode)
    (output : PlaybackOutputConstraints) :
    let key := playbackHlsTranscodeDedupeKeyWithOutput userId item selection start videoMode
      audioMode output
    playbackOutputConstraintsFromDedupeKey (some key) = output ∧
      playbackHlsModesFromDedupeKey (some key) = some (videoMode, audioMode) ∧
      ∀ userId' item' selection' start' videoMode' audioMode' output',
        key = playbackHlsTranscodeDedupeKeyWithOutput userId' item' selection' start' videoMode'
          audioMode' output' ↔
        userId = userId' ∧ item = item' ∧ selection = selection' ∧ max start 0 = max start' 0 ∧
          videoMode = videoMode' ∧ audioMode = audioMode' ∧ output = output' := by
  refine ⟨playbackOutputConstraintsFromDedupeKey_key, playbackHlsModesFromDedupeKey_key, ?_⟩
  intro userId' item' selection' start' videoMode' audioMode' output'
  constructor
  · intro hkey
    obtain ⟨huser, hitem, hselection, hstart⟩ := base_eq_of_key_eq hkey
    have hmodes := congrArg (fun key => playbackHlsModesFromDedupeKey (some key)) hkey
    have houtput := congrArg (fun key => playbackOutputConstraintsFromDedupeKey (some key)) hkey
    simp only [playbackHlsModesFromDedupeKey_key, Option.some.injEq, Prod.mk.injEq] at hmodes
    simp only [playbackOutputConstraintsFromDedupeKey_key] at houtput
    exact ⟨huser, hitem, hselection, hstart, hmodes.1, hmodes.2, houtput⟩
  · rintro ⟨rfl, rfl, rfl, hstart, rfl, rfl, rfl⟩
    exact key_eq_of_max_eq hstart

end Jellyrin.Playback
