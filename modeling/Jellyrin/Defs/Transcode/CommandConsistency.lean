import Jellyrin.Defs.Data.CommandLine
import Jellyrin.Defs.Transcode.CommandLane

/-! What FFmpeg asks of a command line, and which commands of the builder meet it. -/

namespace Jellyrin.Transcode

open CommandLine

/-! The streams that a command line chooses. -/

inductive StreamChoice where
  | selected (target : String)
  | disabled (option : String)
  deriving DecidableEq

def disablingOptions : List String := ["-vn", "-an", "-sn"]

def streamChoices : List String → List StreamChoice
  | [] => []
  | [arg] => if arg ∈ disablingOptions then [.disabled arg] else []
  | arg :: value :: args =>
    if arg = "-map" then .selected value :: streamChoices args
    else if arg ∈ disablingOptions then .disabled arg :: streamChoices (value :: args)
    else streamChoices (value :: args)

/-- The target of a map: a stream by its index, or else the first of its type. -/
def streamTarget (streamType : String) (streamIndex : Option Int64) (optional : Bool) : String :=
  let optionalSuffix := if optional then "?" else ""
  match streamIndex.filter fun index => 0 ≤ index with
  | some index => "0:" ++ toString index.toInt ++ optionalSuffix
  | none => "0:" ++ streamType ++ ":0" ++ optionalSuffix

def IsChosen (args : List String) (choice : StreamChoice) (target codec disabling : String) :
    Prop :=
  choice = .selected target ∧ codec ∈ args ∨ choice = .disabled disabling ∧ codec ∉ args

def HlsTranscodeRequest.videoTarget (request : HlsTranscodeRequest) : String :=
  if request.shouldBurnSubtitle then "[v]"
  else streamTarget "v" request.selection.videoStreamIndex true

def HlsTranscodeRequest.audioTarget (request : HlsTranscodeRequest) : String :=
  streamTarget "a" request.selection.audioStreamIndex true

def HlsTranscodeRequest.subtitleTarget (request : HlsTranscodeRequest) : String :=
  streamTarget "s" request.selection.subtitleStreamIndex false

/-- The command line reads one input, makes one choice for each type of streams and does not filter
a stream twice. -/
structure IsConsistent (request : HlsTranscodeRequest) (args : List String) : Prop where
  filter : ¬("-filter_complex" ∈ args ∧ "-vf" ∈ args)
  streams : ∃ video audio subtitle, streamChoices args = [video, audio, subtitle] ∧
    IsChosen args video request.videoTarget "-c:v" "-vn" ∧
    IsChosen args audio request.audioTarget "-c:a" "-an" ∧
    IsChosen args subtitle request.subtitleTarget "-c:s" "-sn"
  input : ∃ before after, args = before ++ "-i" :: request.inputPath :: after ∧
    "-i" ∉ before ∧ "-i" ∉ request.inputPath :: after ∧
    ∀ option ∈ ["-ss", "-readrate", "-filter_threads", "-txt_page"],
      option ∉ request.inputPath :: after

theorem pushSelectedStreamMap_eq (streamType : String) (streamIndex : Option Int64)
    (optional : Bool) :
    pushSelectedStreamMap streamType streamIndex optional =
      ["-map", streamTarget streamType streamIndex optional] := by
  simp only [pushSelectedStreamMap, streamTarget]
  cases streamIndex.filter fun index => 0 ≤ index <;> rfl

section Choices

variable {arg : String} {args group : List String}

theorem streamChoices_cons_of_notMem (hmap : arg ≠ "-map") (h : arg ∉ disablingOptions) :
    streamChoices (arg :: args) = streamChoices args := by
  cases args with
  | nil => simp [streamChoices, h]
  | cons value args => simp [streamChoices, hmap, h]

@[simp] theorem streamChoices_map (target : String) (args : List String) :
    streamChoices ("-map" :: target :: args) = .selected target :: streamChoices args := by
  simp [streamChoices]

theorem streamChoices_disabling (h : arg ∈ disablingOptions) (hmap : arg ≠ "-map") :
    streamChoices (arg :: args) = .disabled arg :: streamChoices args := by
  cases args with
  | nil => simp [streamChoices, h]
  | cons value args => simp [streamChoices, hmap, h]

def choiceOptions : List String := "-map" :: disablingOptions

theorem streamChoices_append (h : ∀ option ∈ choiceOptions, option ∉ group) :
    streamChoices (group ++ args) = streamChoices args := by
  induction group with
  | nil => rfl
  | cons arg group ih =>
    have hmem : arg ∉ choiceOptions := fun hmem => h arg hmem List.mem_cons_self
    simp only [choiceOptions, List.mem_cons, not_or] at hmem
    rw [List.cons_append, streamChoices_cons_of_notMem hmem.1 (by simpa using hmem.2)]
    apply ih
    intro option hoption hgroup
    exact h option hoption (List.mem_cons_of_mem _ hgroup)

end Choices

/-! The options of each group. -/

variable {value : String}

theorem IsValue.not_isOption (h : IsValue value) : ¬IsOption value := by
  obtain ⟨c, cs, hs, -, hdash⟩ := h.exists_cons
  simp [IsOption, hs, hdash]

variable {names : List String}

theorem options_pair_subset {option : String} (h : option ∈ names) (hvalue : IsValue value) :
    options [option, value] ⊆ names := by
  intro other hother
  have hmem := (List.mem_filter.mp hother).1
  simp only [List.mem_cons, List.not_mem_nil, or_false] at hmem
  obtain rfl | rfl := hmem
  · exact h
  · exact absurd (isOption_of_mem_options hother) hvalue.not_isOption

theorem options_append_subset {first second : List String} (h : options first ⊆ names)
    (h' : options second ⊆ names) : options (first ++ second) ⊆ names := by
  rw [options_append]
  exact List.append_subset.mpr ⟨h, h'⟩

theorem options_cons_pair_subset {option : String} {rest : List String} (h : option ∈ names)
    (hvalue : IsValue value) (hrest : options rest ⊆ names) :
    options (option :: value :: rest) ⊆ names :=
  options_append_subset (options_pair_subset h hvalue) hrest

theorem options_nil_subset (names : List String) : options [] ⊆ names := List.nil_subset _

namespace HlsTranscodeRequest

variable {request : HlsTranscodeRequest}

def inputOptions : List String :=
  ["-hide_banner", "-nostdin", "-y", "-loglevel", "-nostats", "-stats_period", "-filter_threads",
    "-filter_complex_threads", "-ss", "-readrate", "-readrate_initial_burst", "-txt_page",
    "-txt_format"]

theorem options_globalArgs : options globalArgs ⊆ inputOptions := by decide

theorem options_filterThreadArgs : options request.filterThreadArgs ⊆ inputOptions := by
  simp only [filterThreadArgs]
  split
  · split
    · exact options_cons_pair_subset (by decide) (isValue_toString _)
        (options_pair_subset (by decide) (isValue_toString _))
    · exact options_nil_subset _
  · exact options_nil_subset _

theorem options_seekArgs : options request.seekArgs ⊆ inputOptions := by
  simp only [seekArgs]
  split
  · exact options_pair_subset (by decide) (isValue_toFixed _ _)
  · exact options_nil_subset _

theorem options_readrateArgs : options request.readrateArgs ⊆ inputOptions := by
  simp only [readrateArgs]
  split
  · apply options_append_subset
    · exact options_pair_subset (by decide) (isValue_toFixed _ _)
    · simp only [readrateBurstArgs]
      split
      · exact options_pair_subset (by decide) (isValue_toString _)
      · exact options_nil_subset _
  · exact options_nil_subset _

theorem options_teletextArgs : options request.teletextArgs ⊆ inputOptions := by
  simp only [teletextArgs]
  split
  · exact options_cons_pair_subset (by decide) (isValue_toString _)
      (options_pair_subset (by decide) (by decide))
  · exact options_nil_subset _

theorem options_durationArgs : options request.durationArgs ⊆ ["-t"] := by
  simp only [durationArgs]
  split
  · exact options_pair_subset (by decide) (isValue_toFixed _ _)
  · exact options_nil_subset _

/-! The streams that the builder chooses. -/

theorem isValue_streamTarget (streamType : String) (streamIndex : Option Int64) (optional : Bool) :
    IsValue (streamTarget streamType streamIndex optional) := by
  have hstart : IsValue "0:" := by decide
  simp only [streamTarget]
  split
  · exact (hstart.append _).append _
  · exact ((hstart.append _).append _).append _

theorem options_streamMap (h : "-map" ∈ names) (streamType : String) (streamIndex : Option Int64)
    (optional : Bool) :
    options (pushSelectedStreamMap streamType streamIndex optional) ⊆ names := by
  rw [pushSelectedStreamMap_eq]
  exact options_pair_subset h (isValue_streamTarget _ _ _)

def burnInFilter (request : HlsTranscodeRequest) : String :=
  ffmpegStreamFilterInput "v" request.selection.videoStreamIndex ++
    ffmpegStreamFilterInput "s" request.selection.subtitleStreamIndex ++
    "overlay=eof_action=pass:repeatlast=0[v]"

theorem isValue_burnInFilter : IsValue request.burnInFilter := by
  have hstart : IsValue (ffmpegStreamFilterInput "v" request.selection.videoStreamIndex) := by
    simp only [ffmpegStreamFilterInput]
    split
    · exact (IsValue.append (by decide) _).append _
    · decide
  exact (hstart.append _).append _

theorem options_videoMapArgs :
    options request.videoMapArgs ⊆ ["-filter_complex", "-map", "-vn"] := by
  simp only [videoMapArgs]
  split
  · exact options_cons_pair_subset (by decide) isValue_burnInFilter
      (options_pair_subset (by decide) (by decide))
  · split
    · exact options_streamMap (by decide) _ _ _
    · decide

theorem options_audioMapArgs : options request.audioMapArgs ⊆ ["-map", "-an"] := by
  simp only [audioMapArgs]
  split
  · decide
  · exact options_streamMap (by decide) _ _ _

theorem options_subtitleArgs :
    options request.subtitleArgs ⊆ ["-map", "-sn", "-c:s", "-threads:s"] := by
  simp only [subtitleArgs]
  split
  · decide
  · split
    · apply options_append_subset (options_append_subset (options_streamMap (by decide) _ _ _)
        (by decide))
      split <;> decide
    · decide

/-! The codecs. -/

theorem options_videoLevelArgs : options request.videoLevelArgs ⊆ ["-level:v"] := by
  simp only [videoLevelArgs]
  split
  · exact options_pair_subset (by decide) (((isValue_toString _).append _).append _)
  · exact options_nil_subset _

theorem options_videoThreadArgs : options request.videoThreadArgs ⊆ ["-threads:v"] := by
  simp only [videoThreadArgs]
  split
  · exact options_pair_subset (by decide) (isValue_toString _)
  · exact options_nil_subset _

theorem options_videoBitrateArgs :
    options request.videoBitrateArgs ⊆ ["-b:v", "-maxrate", "-bufsize"] := by
  simp only [videoBitrateArgs]
  split
  · exact options_cons_pair_subset (by decide) (isValue_toString _)
      (options_cons_pair_subset (by decide) (isValue_toString _)
        (options_pair_subset (by decide) (isValue_toString _)))
  · exact options_nil_subset _

theorem options_audioProfileArgs : options request.audioProfileArgs ⊆ ["-profile:a"] := by
  simp only [audioProfileArgs]
  split
  · rename_i profile _
    cases profile
    decide
  · exact options_nil_subset _

theorem options_audioBitrateArgs : options request.audioBitrateArgs ⊆ ["-b:a"] := by
  simp only [audioBitrateArgs]
  split
  · exact options_pair_subset (by decide) (isValue_toString _)
  · exact options_nil_subset _

theorem options_audioCodecArgs :
    options request.audioCodecArgs ⊆ ["-c:a", "-profile:a", "-ac", "-b:a"] := by
  simp only [audioCodecArgs]
  split
  · decide
  · refine options_append_subset (options_append_subset (options_append_subset (by decide) ?_)
      (options_pair_subset (by decide) (isValue_toString _))) ?_
    · exact List.Subset.trans options_audioProfileArgs (by decide)
    · exact List.Subset.trans options_audioBitrateArgs (by decide)
  · exact options_nil_subset _

def limitsPicture (request : HlsTranscodeRequest) : Bool :=
  request.maxVideoWidth.isSome || request.maxVideoHeight.isSome ||
    request.maxVideoFrameRateMillihertz.any fun frameRate => 0 < frameRate

theorem isEmpty_videoFilters : request.videoFilters.isEmpty = !request.limitsPicture := by
  simp only [videoFilters, limitsPicture]
  cases request.maxVideoFrameRateMillihertz with
  | none => cases request.maxVideoWidth <;> cases request.maxVideoHeight <;> rfl
  | some frameRate =>
    by_cases hrate : 0 < frameRate <;>
      cases request.maxVideoWidth <;> cases request.maxVideoHeight <;>
        simp [Option.filter, hrate]

theorem isValue_intercalate {separator first : String} (h : IsValue first) (rest : List String) :
    IsValue (separator.intercalate (first :: rest)) := by
  cases rest with
  | nil => rwa [String.intercalate_singleton]
  | cons second rest =>
    rw [String.intercalate_cons_cons, String.append_assoc]
    exact h.append _

theorem isValue_of_mem_videoFilters {filter : String} (h : filter ∈ request.videoFilters) :
    IsValue filter := by
  simp only [videoFilters, List.mem_append] at h
  cases h with
  | inl hscale =>
    split at hscale
    · rw [List.mem_singleton.mp hscale, scaleFilter]
      exact IsValue.append (IsValue.append (IsValue.append (IsValue.append (by decide) _) _) _) _
    · cases hscale
  | inr hrate =>
    split at hrate
    · rw [List.mem_singleton.mp hrate]
      exact IsValue.append (by decide) _
    · cases hrate

theorem options_videoFilterArgs :
    options request.videoFilterArgs = if request.limitsPicture then ["-vf"] else [] := by
  rw [videoFilterArgs, isEmpty_videoFilters]
  cases hlimits : request.limitsPicture with
  | false => rfl
  | true =>
    cases hfilters : request.videoFilters with
    | nil =>
      have hempty := @isEmpty_videoFilters request
      rw [hfilters, hlimits] at hempty
      cases hempty
    | cons filter filters =>
      have hfilter : filter ∈ request.videoFilters := by
        rw [hfilters]
        exact List.mem_cons_self
      exact options_pair (by decide)
        (isValue_intercalate (isValue_of_mem_videoFilters hfilter) filters).not_isOption

def encoderOptions : List String :=
  ["-c:v", "-preset", "-profile:v", "-level:v", "-pix_fmt", "-force_key_frames", "-sc_threshold",
    "-threads:v", "-b:v", "-maxrate", "-bufsize"]

def encoderArgs (request : HlsTranscodeRequest) : List String :=
  ["-c:v", "libx264"] ++ ["-preset", request.videoPreset.asFfmpegValue] ++
    ["-profile:v", (request.videoProfile.getD .main).asStr] ++ request.videoLevelArgs ++
    ["-pix_fmt", "yuv420p"] ++
    ["-force_key_frames",
      "expr:gte(t,n_forced*" ++ toString (max request.segmentTimeSeconds.toNat 1) ++ ")"] ++
    ["-sc_threshold", "0"] ++ request.videoThreadArgs ++ request.videoBitrateArgs

theorem copiesVideo_of_encodes (h : request.encodesVideo = true) : request.copiesVideo = false := by
  simp only [encodesVideo, copiesVideo, Bool.and_eq_true, decide_eq_true_eq] at h ⊢
  simp [h.2]

theorem videoCodecArgs_eq (h : request.encodesVideo = true) :
    request.videoCodecArgs = request.encoderArgs ++ request.videoFilterArgs := by
  rw [videoCodecArgs, copiesVideo_of_encodes h, h]
  simp only [encoderArgs, Bool.false_eq_true, if_false, if_true, List.cons_append, List.nil_append,
    List.append_assoc]

theorem videoCodecArgs_cases (h : request.encodesVideo = false) :
    request.videoCodecArgs = ["-c:v", "copy"] ∨ request.videoCodecArgs = [] := by
  rw [videoCodecArgs, h]
  cases request.copiesVideo with
  | true => exact .inl rfl
  | false => exact .inr rfl

theorem options_encoderArgs : options request.encoderArgs ⊆ encoderOptions := by
  have hpreset : IsValue request.videoPreset.asFfmpegValue := by
    cases request.videoPreset <;> decide
  have hprofile : IsValue (request.videoProfile.getD .main).asStr := by
    cases request.videoProfile.getD .main <;> decide
  have hkeyFrames : IsValue
      ("expr:gte(t,n_forced*" ++ toString (max request.segmentTimeSeconds.toNat 1) ++ ")") :=
    IsValue.append (IsValue.append (by decide) _) _
  simp only [encoderArgs, options_append, List.append_subset]
  refine ⟨⟨⟨⟨⟨⟨⟨⟨?_, ?_⟩, ?_⟩, ?_⟩, ?_⟩, ?_⟩, ?_⟩, ?_⟩, ?_⟩
  · decide
  · exact options_pair_subset (by decide) hpreset
  · exact options_pair_subset (by decide) hprofile
  · exact List.Subset.trans options_videoLevelArgs (by decide)
  · decide
  · exact options_pair_subset (by decide) hkeyFrames
  · decide
  · exact List.Subset.trans options_videoThreadArgs (by decide)
  · exact List.Subset.trans options_videoBitrateArgs (by decide)

theorem options_videoCodecArgs :
    options request.videoCodecArgs ⊆ "-vf" :: encoderOptions := by
  cases hencodes : request.encodesVideo with
  | true =>
    rw [videoCodecArgs_eq hencodes, options_append, options_videoFilterArgs]
    apply List.append_subset.mpr
    constructor
    · exact List.Subset.trans options_encoderArgs (by decide)
    · split <;> decide
  | false => obtain h | h := videoCodecArgs_cases hencodes <;> rw [h] <;> decide

theorem filter_mem_videoCodecArgs :
    "-vf" ∈ request.videoCodecArgs ↔
      request.encodesVideo = true ∧ request.limitsPicture = true := by
  rw [← mem_options_iff (by decide)]
  cases hencodes : request.encodesVideo with
  | true =>
    have hencoder : "-vf" ∉ options request.encoderArgs := fun hmem =>
      absurd (options_encoderArgs hmem) (by decide)
    rw [videoCodecArgs_eq hencodes, options_append, options_videoFilterArgs]
    cases request.limitsPicture <;> simp [hencoder]
  | false =>
    simp only [Bool.false_eq_true, false_and, iff_false]
    obtain h | h := videoCodecArgs_cases hencodes <;> rw [h] <;> decide

theorem codec_mem_videoCodecArgs :
    "-c:v" ∈ request.videoCodecArgs ↔
      request.includeVideo = true ∧ request.effectiveVideoMode ≠ .drop := by
  rw [videoCodecArgs, copiesVideo, encodesVideo]
  cases request.includeVideo <;> cases request.effectiveVideoMode <;> simp

theorem codec_mem_audioCodecArgs :
    "-c:a" ∈ request.audioCodecArgs ↔ request.audioMode ≠ .drop := by
  rw [audioCodecArgs]
  cases request.audioMode <;> simp

theorem codec_mem_subtitleArgs :
    "-c:s" ∈ request.subtitleArgs ↔
      request.shouldBurnSubtitle = false ∧ request.selectsSubtitle = true := by
  rw [subtitleArgs]
  cases request.shouldBurnSubtitle <;> cases request.selectsSubtitle <;> simp

/-! The output. -/

def outputOptions : List String :=
  ["-max_interleave_delta", "-output_ts_offset", "-muxdelay", "-muxpreload", "-f", "-hls_time",
    "-hls_playlist_type", "-hls_list_size", "-hls_delete_threshold", "-hls_flags", "-start_number",
    "-hls_segment_filename", "-progress"]

theorem options_interleaveArgs : options request.interleaveArgs ⊆ outputOptions := by
  simp only [interleaveArgs]
  split
  · exact options_pair_subset (by decide) (isValue_toString _)
  · exact options_nil_subset _

theorem options_timestampOffsetArgs : options request.timestampOffsetArgs ⊆ outputOptions := by
  simp only [timestampOffsetArgs]
  split
  · exact options_pair_subset (by decide) (isValue_toFixed _ _)
  · exact options_nil_subset _

theorem options_deleteThresholdArgs : options request.deleteThresholdArgs ⊆ outputOptions := by
  simp only [deleteThresholdArgs]
  split
  · exact options_pair_subset (by decide) (isValue_toString _)
  · exact options_nil_subset _

theorem options_hlsFlagArgs : options request.hlsFlagArgs ⊆ outputOptions := by
  have hflags : ∀ flag ∈ request.hlsFlags, IsValue flag := by
    simp only [hlsFlags]
    cases request.hlsDeleteSegments <;> cases request.hlsOmitEndlist <;>
      cases request.hlsTempFile <;> cases request.encodesVideo <;> decide
  rw [hlsFlagArgs]
  cases h : request.hlsFlags with
  | nil => exact options_nil_subset _
  | cons flag flags =>
    rw [h] at hflags
    exact options_pair_subset (by decide) (isValue_intercalate (hflags flag List.mem_cons_self) _)

theorem options_startNumberArgs : options request.startNumberArgs ⊆ outputOptions := by
  simp only [startNumberArgs]
  split
  · exact options_pair_subset (by decide) (isValue_toString _)
  · exact options_nil_subset _

theorem options_muxerArgs : options request.muxerArgs ⊆ outputOptions := by
  rw [muxerArgs]
  refine options_append_subset (options_append_subset (options_append_subset ?_
    options_deleteThresholdArgs) options_hlsFlagArgs) options_startNumberArgs
  refine options_cons_pair_subset (by decide) (by decide) (options_cons_pair_subset (by decide)
    (by decide) (options_cons_pair_subset (by decide) (by decide) (options_cons_pair_subset
    (by decide) (isValue_toString _) (options_cons_pair_subset (by decide) ?_
    (options_pair_subset (by decide) (isValue_toString _))))))
  split <;> decide

theorem options_outputArgs (h : request.PathsAreOperands) :
    options request.outputArgs ⊆ outputOptions := by
  rw [outputArgs]
  refine options_append_subset (options_append_subset (options_append_subset
    options_interleaveArgs options_timestampOffsetArgs) options_muxerArgs) ?_
  have hsegment : ¬IsOption request.segmentPatternPath := h.segment
  have hplaylist : ¬IsOption request.outputPlaylistPath := h.playlist
  rw [options_cons_option (by decide), options_cons_operand hsegment,
    options_cons_option (by decide), options_cons_operand (by decide),
    options_cons_operand hplaylist]
  decide

/-! The whole command line. -/

def beforeInput (request : HlsTranscodeRequest) : List String :=
  globalArgs ++ request.filterThreadArgs ++ request.seekArgs ++ request.readrateArgs ++
    request.teletextArgs

def afterInput (request : HlsTranscodeRequest) : List String :=
  request.durationArgs ++ request.streamArgs ++ request.outputArgs

theorem args_eq (request : HlsTranscodeRequest) :
    (buildHlsFfmpegCommand request).args =
      request.beforeInput ++ "-i" :: request.inputPath :: request.afterInput := by
  simp [buildHlsFfmpegCommand, inputArgs, beforeInput, afterInput]

theorem options_beforeInput : options request.beforeInput ⊆ inputOptions := by
  simp only [beforeInput, options_append, List.append_subset]
  exact ⟨⟨⟨⟨options_globalArgs, options_filterThreadArgs⟩, options_seekArgs⟩, options_readrateArgs⟩,
    options_teletextArgs⟩

def streamOptions : List String :=
  ["-filter_complex", "-map", "-vn", "-an", "-sn", "-c:s", "-threads:s", "-vf"] ++ encoderOptions ++
    ["-c:a", "-profile:a", "-ac", "-b:a"]

theorem options_streamArgs : options request.streamArgs ⊆ streamOptions := by
  simp only [streamArgs, options_append, List.append_subset]
  refine ⟨⟨⟨⟨?_, ?_⟩, ?_⟩, ?_⟩, ?_⟩
  · exact List.Subset.trans options_videoMapArgs (by decide)
  · exact List.Subset.trans options_audioMapArgs (by decide)
  · exact List.Subset.trans options_subtitleArgs (by decide)
  · exact List.Subset.trans options_videoCodecArgs (by decide)
  · exact List.Subset.trans options_audioCodecArgs (by decide)

theorem options_afterInput (h : request.PathsAreOperands) :
    options request.afterInput ⊆ "-t" :: streamOptions ++ outputOptions := by
  simp only [afterInput, options_append, List.append_subset]
  refine ⟨⟨?_, ?_⟩, ?_⟩
  · exact List.Subset.trans options_durationArgs (by decide)
  · exact List.Subset.trans options_streamArgs (by decide)
  · exact List.Subset.trans (options_outputArgs h) (by decide)

theorem mem_args_iff (h : request.PathsAreOperands) {option : String} (hoption : IsOption option)
    (hinput : option ∉ "-i" :: "-t" :: inputOptions) (houtput : option ∉ outputOptions) :
    option ∈ (buildHlsFfmpegCommand request).args ↔ option ∈ request.streamArgs := by
  simp only [List.mem_cons, not_or] at hinput
  have hbefore : option ∉ request.beforeInput :=
    notMem_of_options_subset options_beforeInput hoption hinput.2.2
  have hduration : option ∉ request.durationArgs :=
    notMem_of_options_subset options_durationArgs hoption (by simpa using hinput.2.1)
  have hafter : option ∉ request.outputArgs :=
    notMem_of_options_subset (options_outputArgs h) hoption houtput
  have hpath : option ≠ request.inputPath := fun heq => h.input (heq ▸ hoption)
  simp only [args_eq, afterInput, List.mem_append, List.mem_cons, hbefore, hinput.1, hpath,
    hduration, hafter, false_or, or_false]

theorem mem_streamArgs_iff {option : String} (h : IsOption option) :
    option ∈ request.streamArgs ↔
      option ∈ ["-filter_complex", "-map", "-vn"] ∧ option ∈ request.videoMapArgs ∨
      option ∈ ["-map", "-an"] ∧ option ∈ request.audioMapArgs ∨
      option ∈ ["-map", "-sn", "-c:s", "-threads:s"] ∧ option ∈ request.subtitleArgs ∨
      option ∈ "-vf" :: encoderOptions ∧ option ∈ request.videoCodecArgs ∨
      option ∈ ["-c:a", "-profile:a", "-ac", "-b:a"] ∧ option ∈ request.audioCodecArgs := by
  rw [streamArgs]
  simp only [List.mem_append, or_assoc, ← mem_iff_of_options_subset options_videoMapArgs h,
    ← mem_iff_of_options_subset options_audioMapArgs h,
    ← mem_iff_of_options_subset options_subtitleArgs h,
    ← mem_iff_of_options_subset options_videoCodecArgs h,
    ← mem_iff_of_options_subset options_audioCodecArgs h]

theorem filterComplex_mem_streamArgs :
    "-filter_complex" ∈ request.streamArgs ↔ request.shouldBurnSubtitle = true := by
  rw [mem_streamArgs_iff (by decide)]
  simp only [encoderOptions, List.mem_cons, List.not_mem_nil, String.reduceEq, or_false, true_and,
    false_and]
  rw [videoMapArgs]
  cases request.shouldBurnSubtitle with
  | true => simp
  | false =>
    simp only [Bool.false_eq_true, if_false, iff_false]
    split
    · exact notMem_of_options_subset (options_streamMap (List.mem_singleton_self _) _ _ _)
        (by decide) (by decide)
    · decide

theorem filter_mem_streamArgs :
    "-vf" ∈ request.streamArgs ↔ request.encodesVideo = true ∧ request.limitsPicture = true := by
  rw [mem_streamArgs_iff (by decide)]
  simp [encoderOptions, filter_mem_videoCodecArgs]

def mapsVideo (request : HlsTranscodeRequest) : Bool :=
  request.includeVideo && request.effectiveVideoMode ≠ .drop

theorem videoCodec_mem_streamArgs :
    "-c:v" ∈ request.streamArgs ↔ request.mapsVideo = true := by
  rw [mem_streamArgs_iff (by decide)]
  simp [encoderOptions, codec_mem_videoCodecArgs, mapsVideo]

theorem audioCodec_mem_streamArgs :
    "-c:a" ∈ request.streamArgs ↔ request.audioMode ≠ .drop := by
  rw [mem_streamArgs_iff (by decide)]
  simp [encoderOptions, codec_mem_audioCodecArgs]

theorem subtitleCodec_mem_streamArgs :
    "-c:s" ∈ request.streamArgs ↔
      request.shouldBurnSubtitle = false ∧ request.selectsSubtitle = true := by
  rw [mem_streamArgs_iff (by decide)]
  simp [encoderOptions, codec_mem_subtitleArgs]

/-! The choices of the builder. -/

theorem mapsVideo_of_burn (h : request.shouldBurnSubtitle = true) :
    request.mapsVideo = true ∧ request.encodesVideo = true := by
  have hinclude : request.includeVideo = true := by
    simp only [shouldBurnSubtitle, Bool.and_eq_true] at h
    exact h.1.1
  simp [mapsVideo, encodesVideo, effectiveVideoMode, h, hinclude]

theorem ne_map_of_operand (h : ¬IsOption value) : value ≠ "-map" := by
  rintro rfl
  exact h (by decide)

theorem notMem_disablingOptions_of_operand (h : ¬IsOption value) : value ∉ disablingOptions := by
  intro hmem
  have hall : ∀ option ∈ disablingOptions, IsOption option := by decide
  exact h (hall value hmem)

theorem streamChoices_cons_operand (h : ¬IsOption value) (args : List String) :
    streamChoices (value :: args) = streamChoices args :=
  streamChoices_cons_of_notMem (ne_map_of_operand h) (notMem_disablingOptions_of_operand h)

theorem streamChoices_streamMap (streamType : String) (streamIndex : Option Int64)
    (optional : Bool) (args : List String) :
    streamChoices (pushSelectedStreamMap streamType streamIndex optional ++ args) =
      .selected (streamTarget streamType streamIndex optional) :: streamChoices args := by
  rw [pushSelectedStreamMap_eq]
  simp

theorem streamChoices_videoMapArgs (args : List String) :
    streamChoices (request.videoMapArgs ++ args) =
      (if request.mapsVideo then .selected request.videoTarget else .disabled "-vn") ::
        streamChoices args := by
  rw [videoMapArgs, videoTarget]
  cases hburn : request.shouldBurnSubtitle with
  | true =>
    have hfilter : ¬IsOption request.burnInFilter := isValue_burnInFilter.not_isOption
    simp only [burnInFilter] at hfilter
    rw [(mapsVideo_of_burn hburn).1]
    simp only [if_true, List.cons_append, List.nil_append]
    rw [streamChoices_cons_of_notMem (by decide) (by decide), streamChoices_cons_operand hfilter,
      streamChoices_map]
  | false =>
    simp only [Bool.false_eq_true, if_false, mapsVideo, Bool.and_eq_true, decide_eq_true_eq]
    split
    · exact streamChoices_streamMap _ _ _ _
    · exact streamChoices_disabling (by decide) (by decide)

theorem streamChoices_audioMapArgs (args : List String) :
    streamChoices (request.audioMapArgs ++ args) =
      (if request.audioMode ≠ .drop then .selected request.audioTarget else .disabled "-an") ::
        streamChoices args := by
  rw [audioMapArgs]
  by_cases hdrop : request.audioMode = .drop
  · simp only [hdrop, if_true, ne_eq, not_true_eq_false, if_false]
    exact streamChoices_disabling (by decide) (by decide)
  · simp only [hdrop, if_false, ne_eq, not_false_eq_true, if_true]
    exact streamChoices_streamMap _ _ _ _

theorem streamChoices_subtitleArgs (args : List String) :
    streamChoices (request.subtitleArgs ++ args) =
      (if request.shouldBurnSubtitle = false ∧ request.selectsSubtitle = true then
          .selected request.subtitleTarget
        else .disabled "-sn") :: streamChoices args := by
  rw [subtitleArgs]
  cases request.shouldBurnSubtitle with
  | true => exact streamChoices_disabling (by decide) (by decide)
  | false =>
    cases request.selectsSubtitle with
    | false => exact streamChoices_disabling (by decide) (by decide)
    | true =>
      simp only [Bool.false_eq_true, if_false, if_true, and_self, List.append_assoc,
        streamChoices_streamMap, subtitleTarget]
      congr 1
      split
      · exact @streamChoices_append _ ["-c:s", "webvtt", "-threads:s", "1"] (by decide)
      · exact @streamChoices_append _ ["-c:s", "webvtt"] (by decide)

theorem streamChoices_append_of_options {group : List String} (h : options group ⊆ names)
    (hnames : ∀ option ∈ choiceOptions, option ∉ names) (args : List String) :
    streamChoices (group ++ args) = streamChoices args := by
  have hall : ∀ option ∈ choiceOptions, IsOption option := by decide
  apply streamChoices_append
  intro option hoption
  exact notMem_of_options_subset h (hall option hoption) (hnames option hoption)

theorem streamChoices_args (h : request.PathsAreOperands) :
    streamChoices (buildHlsFfmpegCommand request).args =
      [if request.mapsVideo then .selected request.videoTarget else .disabled "-vn",
        if request.audioMode ≠ .drop then .selected request.audioTarget else .disabled "-an",
        if request.shouldBurnSubtitle = false ∧ request.selectsSubtitle = true then
          .selected request.subtitleTarget
        else .disabled "-sn"] := by
  have hend : streamChoices (request.videoCodecArgs ++ (request.audioCodecArgs ++
      request.outputArgs)) = [] := by
    rw [streamChoices_append_of_options options_videoCodecArgs (by decide),
      streamChoices_append_of_options options_audioCodecArgs (by decide),
      ← List.append_nil request.outputArgs,
      streamChoices_append_of_options (options_outputArgs h) (by decide)]
    rfl
  rw [args_eq, streamChoices_append_of_options options_beforeInput (by decide),
    streamChoices_cons_of_notMem (by decide) (by decide), streamChoices_cons_operand h.input,
    afterInput, streamArgs]
  simp only [List.append_assoc]
  rw [streamChoices_append_of_options options_durationArgs (by decide),
    streamChoices_videoMapArgs, streamChoices_audioMapArgs, streamChoices_subtitleArgs, hend]

theorem isChosen_of_iff {args : List String} {mapped : Prop} [Decidable mapped]
    {target codec disabling : String} (h : codec ∈ args ↔ mapped) :
    IsChosen args (if mapped then .selected target else .disabled disabling) target codec
      disabling := by
  by_cases hmapped : mapped
  · exact .inl ⟨if_pos hmapped, h.mpr hmapped⟩
  · exact .inr ⟨if_neg hmapped, mt h.mp hmapped⟩

theorem streams_and_input (h : request.PathsAreOperands) :
    IsConsistent request (buildHlsFfmpegCommand request).args ↔
      ¬("-filter_complex" ∈ (buildHlsFfmpegCommand request).args ∧
        "-vf" ∈ (buildHlsFfmpegCommand request).args) := by
  constructor
  · exact IsConsistent.filter
  intro hfilter
  have hafter : ∀ option ∈ ["-i", "-ss", "-readrate", "-filter_threads", "-txt_page"],
      option ∉ request.inputPath :: request.afterInput := by
    intro option hoption hmem
    have hall : ∀ option ∈ ["-i", "-ss", "-readrate", "-filter_threads", "-txt_page"],
        IsOption option ∧ option ∉ "-t" :: streamOptions ++ outputOptions := by decide
    obtain rfl | hmem := List.mem_cons.mp hmem
    · exact h.input (hall _ hoption).1
    · exact notMem_of_options_subset (options_afterInput h) (hall option hoption).1
        (hall option hoption).2 hmem
  refine ⟨hfilter, ⟨_, _, _, streamChoices_args h, ?_, ?_, ?_⟩, ?_⟩
  · apply isChosen_of_iff
    rw [mem_args_iff h (by decide) (by decide) (by decide), videoCodec_mem_streamArgs]
  · apply isChosen_of_iff
    rw [mem_args_iff h (by decide) (by decide) (by decide), audioCodec_mem_streamArgs]
  · apply isChosen_of_iff
    rw [mem_args_iff h (by decide) (by decide) (by decide), subtitleCodec_mem_streamArgs]
  · refine ⟨_, _, args_eq request, ?_, hafter "-i" (by decide), fun option hoption =>
      hafter option (List.mem_cons_of_mem _ hoption)⟩
    exact notMem_of_options_subset options_beforeInput (by decide) (by decide)

/-- A command is consistent unless it burns subtitles into a picture that it limits too. -/
theorem command_isConsistent_iff (request : HlsTranscodeRequest) (h : request.PathsAreOperands) :
    IsConsistent request (buildHlsFfmpegCommand request).args ↔
      ¬(request.shouldBurnSubtitle = true ∧ request.limitsPicture = true) := by
  rw [streams_and_input h, mem_args_iff h (by decide) (by decide) (by decide),
    mem_args_iff h (by decide) (by decide) (by decide), filterComplex_mem_streamArgs,
    filter_mem_streamArgs]
  exact not_congr (and_congr_right fun hburn => and_iff_right (mapsVideo_of_burn hburn).2)

end HlsTranscodeRequest

theorem command_of_remux_isConsistent :
    IsConsistent (remuxRequest ⟨none, none, some 2⟩)
      (buildHlsFfmpegCommand (remuxRequest ⟨none, none, some 2⟩)).args :=
  (HlsTranscodeRequest.command_isConsistent_iff _ (pathsAreOperands_remuxRequest _)).mpr
    (by decide)

def scaledBurnInRequest : HlsTranscodeRequest :=
  { remuxRequest ⟨some 0, some 1, some 2⟩ with
    videoMode := .encode
    burnInSubtitle := true
    maxVideoWidth := some 1280 }

theorem scaled_burn_in_filters_twice :
    scaledBurnInRequest.PathsAreOperands ∧
      ¬IsConsistent scaledBurnInRequest (buildHlsFfmpegCommand scaledBurnInRequest).args :=
  ⟨⟨by decide, by decide, by decide⟩, fun h => h.filter (by decide)⟩

end Jellyrin.Transcode
