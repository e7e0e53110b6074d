import Jellyrin.Defs.Transcode.CommandClassLaws

/-! Which commands of the builder keep the lane that it declares. -/

namespace Jellyrin.Transcode

open Ascii Text

/-! The groups of arguments that the scan passes over. -/

def plainOptions : List String :=
  ["-hide_banner", "-nostdin", "-y", "-loglevel", "-nostats", "-stats_period", "-ss", "-readrate",
    "-readrate_initial_burst", "-i", "-t", "-vn", "-an", "-sn", "-profile:a", "-ac", "-b:a",
    "-max_interleave_delta", "-output_ts_offset", "-muxdelay", "-muxpreload", "-f", "-hls_time",
    "-hls_playlist_type", "-hls_list_size", "-hls_delete_threshold", "-hls_flags", "-start_number",
    "-hls_segment_filename", "-progress"]

def IsQuiet (arg : String) : Prop := arg ∈ plainOptions ∨ IsValue arg

theorem IsQuiet.isPlainArg {arg : String} (h : IsQuiet arg) : IsPlainArg arg := by
  have hall : ∀ option ∈ plainOptions, IsPlainArg option := by decide +kernel
  cases h with
  | inl hoption => exact hall arg hoption
  | inr hvalue => exact hvalue.isPlainArg

theorem IsQuiet.ne_txtFormat {arg : String} (h : IsQuiet arg) : arg ≠ "-txt_format" := by
  rintro rfl
  revert h
  simp only [IsQuiet]
  decide

def AllQuiet (group : List String) : Prop := ∀ arg ∈ group, IsQuiet arg

theorem allQuiet_nil : AllQuiet [] := by
  intro arg harg
  cases harg

theorem AllQuiet.append {first second : List String} (h : AllQuiet first) (h' : AllQuiet second) :
    AllQuiet (first ++ second) := by
  intro arg harg
  obtain hfirst | hsecond := List.mem_append.mp harg
  · exact h arg hfirst
  · exact h' arg hsecond

theorem AllQuiet.txtFormat_notMem {group : List String} (h : AllQuiet group) :
    "-txt_format" ∉ group :=
  fun hmem => (h _ hmem).ne_txtFormat rfl

theorem allQuiet_pair {option value : String} (hoption : option ∈ plainOptions)
    (hvalue : IsValue value) : AllQuiet [option, value] := by
  intro arg harg
  obtain rfl | hmem := List.mem_cons.mp harg
  · exact .inl hoption
  · rw [List.mem_singleton.mp hmem]
    exact .inr hvalue

theorem allQuiet_of_decide {group : List String}
    (h : ∀ arg ∈ group, arg ∈ plainOptions ∨ IsValue arg) : AllQuiet group := h

namespace HlsTranscodeRequest

variable {request : HlsTranscodeRequest}

theorem allQuiet_globalArgs : AllQuiet globalArgs := allQuiet_of_decide (by decide)

theorem allQuiet_filterThreadArgs (h : request.encodesVideo = false) :
    AllQuiet request.filterThreadArgs := by
  simp only [filterThreadArgs, h, Bool.false_eq_true, if_false]
  split <;> exact allQuiet_nil

theorem allQuiet_seekArgs : AllQuiet request.seekArgs := by
  simp only [seekArgs]
  split
  · exact allQuiet_pair (by decide) (isValue_toFixed _ _)
  · exact allQuiet_nil

theorem allQuiet_readrateBurstArgs : AllQuiet request.readrateBurstArgs := by
  simp only [readrateBurstArgs]
  split
  · exact allQuiet_pair (by decide) (isValue_toString _)
  · exact allQuiet_nil

theorem allQuiet_readrateArgs : AllQuiet request.readrateArgs := by
  simp only [readrateArgs]
  split
  · exact (allQuiet_pair (by decide) (isValue_toFixed _ _)).append allQuiet_readrateBurstArgs
  · exact allQuiet_nil

theorem allQuiet_durationArgs : AllQuiet request.durationArgs := by
  simp only [durationArgs]
  split
  · exact allQuiet_pair (by decide) (isValue_toFixed _ _)
  · exact allQuiet_nil

theorem allQuiet_audioProfileArgs : AllQuiet request.audioProfileArgs := by
  simp only [audioProfileArgs]
  split
  · rename_i profile _
    cases profile
    exact allQuiet_pair (by decide) (by decide)
  · exact allQuiet_nil

theorem allQuiet_audioBitrateArgs : AllQuiet request.audioBitrateArgs := by
  simp only [audioBitrateArgs]
  split
  · exact allQuiet_pair (by decide) (isValue_toString _)
  · exact allQuiet_nil

theorem allQuiet_interleaveArgs : AllQuiet request.interleaveArgs := by
  simp only [interleaveArgs]
  split
  · exact allQuiet_pair (by decide) (isValue_toString _)
  · exact allQuiet_nil

theorem allQuiet_timestampOffsetArgs : AllQuiet request.timestampOffsetArgs := by
  simp only [timestampOffsetArgs]
  split
  · exact allQuiet_pair (by decide) (isValue_toFixed _ _)
  · exact allQuiet_nil

theorem allQuiet_deleteThresholdArgs : AllQuiet request.deleteThresholdArgs := by
  simp only [deleteThresholdArgs]
  split
  · exact allQuiet_pair (by decide) (isValue_toString _)
  · exact allQuiet_nil

theorem allQuiet_hlsFlagArgs (h : request.encodesVideo = false) :
    AllQuiet request.hlsFlagArgs := by
  simp only [hlsFlagArgs, hlsFlags, h]
  cases request.hlsDeleteSegments <;> cases request.hlsOmitEndlist <;> cases request.hlsTempFile <;>
    exact allQuiet_of_decide (by decide)

theorem allQuiet_startNumberArgs : AllQuiet request.startNumberArgs := by
  simp only [startNumberArgs]
  split
  · exact allQuiet_pair (by decide) (isValue_toString _)
  · exact allQuiet_nil

theorem allQuiet_muxerArgs (h : request.encodesVideo = false) : AllQuiet request.muxerArgs := by
  have hplaylist : IsValue (if request.eventPlaylist then "event" else "vod") := by
    split <;> decide
  have hfirst : AllQuiet ["-muxdelay", "0", "-muxpreload", "0", "-f", "hls"] :=
    allQuiet_of_decide (by decide)
  exact ((((((hfirst.append (allQuiet_pair (by decide) (isValue_toString _))).append
    (allQuiet_pair (by decide) hplaylist)).append
    (allQuiet_pair (by decide) (isValue_toString _)))).append allQuiet_deleteThresholdArgs).append
    (allQuiet_hlsFlagArgs h)).append allQuiet_startNumberArgs

theorem isPlainArg_of_mem_teletextArgs : ∀ arg ∈ request.teletextArgs, IsPlainArg arg := by
  have hpage : IsPlainArg "-txt_page" := by decide
  have hformat : ∀ arg ∈ ["-txt_format", "text"], IsPlainArg arg := by decide
  intro arg harg
  simp only [teletextArgs] at harg
  split at harg
  · obtain rfl | harg := List.mem_cons.mp harg
    · exact hpage
    · obtain rfl | harg := List.mem_cons.mp harg
      · exact (isValue_toString _).isPlainArg
      · exact hformat arg harg
  · cases harg

/-! The scan of a request that does not encode video. -/

theorem shouldBurnSubtitle_eq_false (h : request.encodesVideo = false) :
    request.shouldBurnSubtitle = false := by
  cases hburn : request.shouldBurnSubtitle with
  | false => rfl
  | true =>
    have hvideo : request.includeVideo = true := by
      simp only [shouldBurnSubtitle, Bool.and_eq_true] at hburn
      exact hburn.1.1
    simp [encodesVideo, effectiveVideoMode, hburn, hvideo] at h

theorem copiesVideo_of_encodesVideo (h : request.encodesVideo = false) :
    (request.includeVideo && request.effectiveVideoMode ≠ .drop) = request.copiesVideo := by
  simp only [encodesVideo] at h
  simp only [copiesVideo]
  cases hvideo : request.includeVideo with
  | false => rfl
  | true =>
    rw [hvideo] at h
    cases hmode : request.effectiveVideoMode <;> simp_all

def streamScan (request : HlsTranscodeRequest) (bounded : Bool) (scan : Scan) : Scan :=
  let scan :=
    if request.copiesVideo then
      scan.map (some (selectedTarget .video request.selection.videoStreamIndex))
    else scan
  let scan :=
    if request.audioMode = .drop then scan
    else scan.map (some (selectedTarget .audio request.selection.audioStreamIndex))
  let scan :=
    if request.selectsSubtitle then (scan.map (some .unknown)).webvtt bounded else scan
  let scan :=
    if request.copiesVideo then { scan with sawCodecDirective := true, videoCopy := true }
    else scan
  match request.audioMode with
  | .copy => { scan with sawCodecDirective := true, audioCopy := true }
  | .encode => { scan with sawCodecDirective := true }.observe .audioEncode
  | .drop => scan

variable {bounded : Bool} {scan : Scan} {rest : List String}

theorem args_videoMapArgs (h : request.encodesVideo = false) :
    scan.args bounded (request.videoMapArgs ++ rest) =
      (if request.copiesVideo then
        scan.map (some (selectedTarget .video request.selection.videoStreamIndex))
      else scan).args bounded rest := by
  rw [videoMapArgs, shouldBurnSubtitle_eq_false h, copiesVideo_of_encodesVideo h]
  cases request.copiesVideo with
  | true => exact Scan.args_selectedStreamMap rfl (by decide)
  | false => exact Scan.args_plain (by decide)

theorem args_audioMapArgs :
    scan.args bounded (request.audioMapArgs ++ rest) =
      (if request.audioMode = .drop then scan
      else scan.map (some (selectedTarget .audio request.selection.audioStreamIndex))).args bounded
        rest := by
  rw [audioMapArgs]
  split
  · exact Scan.args_plain (by decide +kernel)
  · exact Scan.args_selectedStreamMap rfl (by decide)

theorem args_subtitleArgs (h : request.encodesVideo = false) :
    scan.args bounded (request.subtitleArgs ++ rest) =
      (if request.selectsSubtitle then (scan.map (some .unknown)).webvtt bounded
      else scan).args bounded rest := by
  rw [subtitleArgs, shouldBurnSubtitle_eq_false h]
  cases hselects : request.selectsSubtitle with
  | false => exact Scan.args_plain (by decide +kernel)
  | true =>
    have hunknown : selectedTarget .subtitle request.selection.subtitleStreamIndex = .unknown := by
      rw [selectedTarget, if_pos]
      exact hselects
    have hthreads : ∀ arg ∈ (if request.decodesTeletextPage then ["-threads:s", "1"] else []),
        IsPlainArg arg := by
      split
      · decide +kernel
      · simp
    simp only [Bool.false_eq_true, if_false, if_true, List.append_assoc]
    have hmap : mappedStreamTarget ("0:" ++ "s" ++ ":0" ++ "") = some .subtitle := by
      decide
    have hsuffix : "" = if false then "?" else "" := rfl
    rw [Scan.args_selectedStreamMap hsuffix hmap, hunknown]
    rw [List.cons_append, List.cons_append, List.nil_append, Scan.args_webvtt,
      Scan.args_append_plain hthreads]

theorem args_videoCodecArgs (h : request.encodesVideo = false) :
    scan.args bounded (request.videoCodecArgs ++ rest) =
      (if request.copiesVideo then { scan with sawCodecDirective := true, videoCopy := true }
      else scan).args bounded rest := by
  rw [videoCodecArgs, h]
  cases request.copiesVideo with
  | true => exact Scan.args_videoCopy
  | false => rfl

theorem args_audioCodecArgs :
    scan.args bounded (request.audioCodecArgs ++ rest) =
      (match request.audioMode with
      | .copy => { scan with sawCodecDirective := true, audioCopy := true }
      | .encode => { scan with sawCodecDirective := true }.observe .audioEncode
      | .drop => scan).args bounded rest := by
  rw [audioCodecArgs]
  cases request.audioMode with
  | copy => exact Scan.args_audioCopy
  | drop => rfl
  | encode =>
    have hquiet : AllQuiet (request.audioProfileArgs ++ ["-ac", toString ((request.audioChannels.filter
        fun channels => 1 ≤ channels && channels ≤ 8).getD 2).toNat] ++ request.audioBitrateArgs) :=
      (allQuiet_audioProfileArgs.append (allQuiet_pair (by decide) (isValue_toString _))).append
        allQuiet_audioBitrateArgs
    have hrest : request.audioProfileArgs ++ "-ac" :: toString ((request.audioChannels.filter
        fun channels => 1 ≤ channels && channels ≤ 8).getD 2).toNat ::
          (request.audioBitrateArgs ++ rest) =
        (request.audioProfileArgs ++ ["-ac", toString ((request.audioChannels.filter
          fun channels => 1 ≤ channels && channels ≤ 8).getD 2).toNat] ++
            request.audioBitrateArgs) ++ rest := by
      simp only [List.append_assoc, List.cons_append, List.nil_append]
    simp only [List.append_assoc, List.cons_append, List.nil_append]
    rw [Scan.args_audioEncode, hrest]
    exact Scan.args_append_plain fun arg harg => (hquiet arg harg).isPlainArg

theorem args_streamArgs (h : request.encodesVideo = false) :
    scan.args bounded (request.streamArgs ++ rest) =
      (request.streamScan bounded scan).args bounded rest := by
  simp only [streamArgs, List.append_assoc]
  rw [args_videoMapArgs h, args_audioMapArgs, args_subtitleArgs h, args_videoCodecArgs h,
    args_audioCodecArgs]
  rfl

def encodesAudio (request : HlsTranscodeRequest) (bounded : Bool) : Bool :=
  request.audioMode = .encode || request.selectsSubtitle && !bounded

variable (request bounded scan) in
theorem observed_streamScan :
    (request.streamScan bounded scan).observed =
      if request.encodesAudio bounded then maxJobKind scan.observed .audioEncode
      else scan.observed := by
  have htwice : maxJobKind (maxJobKind scan.observed .audioEncode) .audioEncode =
      maxJobKind scan.observed .audioEncode := by
    rw [maxJobKind_assoc]
    rfl
  cases hmode : request.audioMode <;> cases hselects : request.selectsSubtitle <;>
    cases bounded <;> cases hcopies : request.copiesVideo <;>
    simp [streamScan, encodesAudio, Scan.webvtt, Scan.observe, hmode, hselects, hcopies, htwice]

variable (request bounded) in
theorem isSettled_streamScan (h : scan.IsSettled) :
    (request.streamScan bounded scan).IsSettled := by
  rw [Scan.IsSettled, observed_streamScan]
  split
  · exact maxJobKind_remux_max _ _
  · exact h

structure PathsAreOperands (request : HlsTranscodeRequest) : Prop where
  input : request.inputPath.toList.head? ≠ some '-'
  segment : request.segmentPatternPath.toList.head? ≠ some '-'
  playlist : request.outputPlaylistPath.toList.head? ≠ some '-'

theorem ne_map_of_head {path : String} (h : path.toList.head? ≠ some '-') :
    eqIgnoreAsciiCase path "-map" = false := by
  rw [eqIgnoreAsciiCase, decide_eq_false_iff_not]
  intro heq
  cases hs : path.toList with
  | nil =>
    rw [hs] at heq
    cases heq
  | cons c cs =>
    rw [hs, List.map_cons] at heq
    have hhead := congrArg List.head? heq
    rw [hs, List.head?_cons, ne_eq, Option.some.injEq] at h
    exact toLower_ne_dash h (Option.some.inj hhead)

theorem exists_next_durationArgs :
    ∃ next tail, request.durationArgs ++ (request.videoMapArgs ++ rest) = next :: tail ∧
      IsEncoder next := by
  have hoptions : ∀ option ∈ ["-t", "-filter_complex", "-map", "-vn"], IsEncoder option := by
    decide +kernel
  simp only [durationArgs]
  split
  · exact ⟨"-t", _, rfl, hoptions _ (by decide)⟩
  · simp only [videoMapArgs, pushSelectedStreamMap, List.nil_append]
    split
    · exact ⟨"-filter_complex", _, rfl, hoptions _ (by decide)⟩
    · split
      · split
        · exact ⟨"-map", _, rfl, hoptions _ (by decide)⟩
        · exact ⟨"-map", _, rfl, hoptions _ (by decide)⟩
      · exact ⟨"-vn", _, rfl, hoptions _ (by decide)⟩

theorem args_inputArgs (h : request.encodesVideo = false) (hpath : request.PathsAreOperands)
    (hscan : scan.IsSettled) :
    scan.args bounded (request.inputArgs ++ (request.videoMapArgs ++ rest)) =
      (scan.path request.inputPath).args bounded (request.videoMapArgs ++ rest) := by
  have hplain : ∀ {group : List String}, AllQuiet group → ∀ arg ∈ group, IsPlainArg arg :=
    fun hquiet arg harg => (hquiet arg harg).isPlainArg
  simp only [inputArgs, List.append_assoc]
  rw [Scan.args_append_plain (hplain allQuiet_globalArgs),
    Scan.args_append_plain (hplain (allQuiet_filterThreadArgs h)),
    Scan.args_append_plain (hplain allQuiet_seekArgs),
    Scan.args_append_plain (hplain allQuiet_readrateArgs),
    Scan.args_append_plain isPlainArg_of_mem_teletextArgs, List.cons_append,
    Scan.args_plain (by decide +kernel), List.cons_append, List.nil_append,
    Scan.args_path (ne_map_of_head hpath.input) hscan exists_next_durationArgs,
    Scan.args_append_plain (hplain allQuiet_durationArgs)]

theorem args_outputArgs (h : request.encodesVideo = false) (hpath : request.PathsAreOperands)
    (hscan : scan.IsSettled) :
    scan.args bounded request.outputArgs =
      if (codecTarget request.outputPlaylistPath).isSome then none
      else some ((scan.path request.segmentPatternPath).path request.outputPlaylistPath) := by
  have hplain : ∀ {group : List String}, AllQuiet group → ∀ arg ∈ group, IsPlainArg arg :=
    fun hquiet arg harg => (hquiet arg harg).isPlainArg
  have hprogress : IsEncoder "-progress" := by decide
  simp only [outputArgs, List.append_assoc]
  rw [Scan.args_append_plain (hplain allQuiet_interleaveArgs),
    Scan.args_append_plain (hplain allQuiet_timestampOffsetArgs),
    Scan.args_append_plain (hplain (allQuiet_muxerArgs h)), Scan.args_plain (by decide),
    Scan.args_path (ne_map_of_head hpath.segment) hscan ⟨_, _, rfl, hprogress⟩,
    Scan.args_plain (by decide), Scan.args_plain (by decide),
    Scan.args_lastPath (ne_map_of_head hpath.playlist) (Scan.isSettled_path _ _)]

theorem args_command (h : request.encodesVideo = false) (hpath : request.PathsAreOperands) :
    Scan.start.args bounded (buildHlsFfmpegCommand request).args =
      if (codecTarget request.outputPlaylistPath).isSome then none
      else some (((request.streamScan bounded (Scan.start.path request.inputPath)).path
        request.segmentPatternPath).path request.outputPlaylistPath) := by
  have hstream : ∀ rest, request.streamArgs ++ rest = request.videoMapArgs ++
      (request.audioMapArgs ++ (request.subtitleArgs ++ (request.videoCodecArgs ++
        (request.audioCodecArgs ++ rest)))) := by
    intro rest
    simp only [streamArgs, List.append_assoc]
  have hsettled := isSettled_streamScan request bounded
    (Scan.isSettled_path Scan.start request.inputPath)
  simp only [buildHlsFfmpegCommand, List.append_assoc]
  rw [hstream, args_inputArgs h hpath Scan.isSettled_start, ← hstream, args_streamArgs h,
    args_outputArgs h hpath hsettled]

/-! The bounds of a teletext page are there if one is decoded. -/

theorem anyPair_append_left {p : String → String → Bool} {first second : List String}
    (h : anyPair p first = true) : anyPair p (first ++ second) = true := by
  induction first with
  | nil => cases h
  | cons arg rest ih =>
    cases rest with
    | nil => cases h
    | cons next rest =>
      simp only [anyPair, Bool.or_eq_true, List.cons_append] at h ⊢
      exact h.imp_right ih

theorem anyPair_append_right {p : String → String → Bool} {first second : List String}
    (h : anyPair p second = true) : anyPair p (first ++ second) = true := by
  induction first with
  | nil => exact h
  | cons arg rest ih =>
    rw [List.cons_append]
    cases hrest : rest ++ second with
    | nil =>
      rw [hrest] at ih
      exact ih
    | cons next tail =>
      rw [hrest] at ih
      simp only [anyPair, Bool.or_eq_true]
      exact .inr ih

theorem anyPair_eq_false {first : String} {p : String → Bool} {args : List String}
    (h : first ∉ args) : anyPair (fun arg next => arg == first && p next) args = false := by
  induction args with
  | nil => rfl
  | cons arg rest ih =>
    obtain ⟨hne, hrest⟩ := List.ne_and_not_mem_of_not_mem_cons h
    cases rest with
    | nil => rfl
    | cons next rest =>
      have hbeq : (arg == first) = false := beq_eq_false_iff_ne.mpr hne.symm
      simp only [anyPair, hbeq, Bool.false_and, Bool.false_or]
      exact ih hrest

theorem txtFormat_notMem_selectedStreamMap {streamType : String} {streamIndex : Option Int64}
    {optional : Bool} : "-txt_format" ∉ pushSelectedStreamMap streamType streamIndex optional := by
  have hvalue : ∀ middle suffix, "-txt_format" ≠ "0:" ++ middle ++ suffix := by
    intro middle suffix heq
    have hzero : IsValue ("0:" ++ middle ++ suffix) :=
      ((show IsValue "0:" by decide).append middle).append suffix
    rw [← heq] at hzero
    revert hzero
    decide
  simp only [pushSelectedStreamMap]
  split <;> simp only [List.mem_cons, List.not_mem_nil, or_false, not_or]
  · exact ⟨by decide, hvalue _ _⟩
  · have hfirst : "0:" ++ streamType ++ ":0" ++ (if optional then "?" else "") =
        "0:" ++ (streamType ++ ":0") ++ if optional then "?" else "" := by
      simp only [String.append_assoc]
    exact ⟨by decide, by rw [hfirst]; exact hvalue _ _⟩

theorem txtFormat_notMem_streamArgs (h : request.encodesVideo = false) :
    "-txt_format" ∉ request.streamArgs := by
  have hsubtitle : "-txt_format" ∉ request.subtitleArgs := by
    rw [subtitleArgs, shouldBurnSubtitle_eq_false h]
    simp only [Bool.false_eq_true, if_false]
    split
    · rw [List.mem_append, List.mem_append, not_or, not_or]
      refine ⟨⟨txtFormat_notMem_selectedStreamMap, by decide⟩, ?_⟩
      split <;> decide
    · decide
  have hvideo : "-txt_format" ∉ request.videoMapArgs := by
    rw [videoMapArgs, shouldBurnSubtitle_eq_false h, copiesVideo_of_encodesVideo h]
    simp only [Bool.false_eq_true, if_false]
    split
    · exact txtFormat_notMem_selectedStreamMap
    · decide
  have haudio : "-txt_format" ∉ request.audioMapArgs := by
    rw [audioMapArgs]
    split
    · decide
    · exact txtFormat_notMem_selectedStreamMap
  have hvideoCodec : "-txt_format" ∉ request.videoCodecArgs := by
    rw [videoCodecArgs, h]
    simp only [Bool.false_eq_true, if_false]
    split <;> decide
  have haudioCodec : "-txt_format" ∉ request.audioCodecArgs := by
    rw [audioCodecArgs]
    split
    · decide
    · have hchannels : ∀ n : Nat, "-txt_format" ∉ ["-ac", toString n] := fun n =>
        (allQuiet_pair (by decide) (isValue_toString n)).txtFormat_notMem
      simp only [List.mem_append, not_or]
      exact ⟨⟨⟨by decide, allQuiet_audioProfileArgs.txtFormat_notMem⟩, hchannels _⟩,
        allQuiet_audioBitrateArgs.txtFormat_notMem⟩
    · decide
  simp only [streamArgs, List.mem_append, not_or]
  exact ⟨⟨⟨⟨hvideo, haudio⟩, hsubtitle⟩, hvideoCodec⟩, haudioCodec⟩

theorem txtFormat_notMem_command (h : request.encodesVideo = false)
    (hpath : request.PathsAreOperands) (hpage : request.decodesTeletextPage = false) :
    "-txt_format" ∉ (buildHlsFfmpegCommand request).args := by
  have hoperand : ∀ {path : String}, path.toList.head? ≠ some '-' → "-txt_format" ≠ path := by
    rintro path hhead rfl
    exact hhead rfl
  have hteletext : request.teletextArgs = [] := by
    rw [teletextArgs, hpage]
    rfl
  have hinput : "-txt_format" ∉ request.inputArgs := by
    simp only [inputArgs, hteletext, List.append_nil, List.mem_append, not_or, List.mem_cons,
      List.not_mem_nil, or_false]
    exact ⟨⟨⟨⟨⟨allQuiet_globalArgs.txtFormat_notMem,
      (allQuiet_filterThreadArgs h).txtFormat_notMem⟩, allQuiet_seekArgs.txtFormat_notMem⟩,
      allQuiet_readrateArgs.txtFormat_notMem⟩, ⟨by decide, hoperand hpath.input⟩⟩,
      allQuiet_durationArgs.txtFormat_notMem⟩
  have houtput : "-txt_format" ∉ request.outputArgs := by
    simp only [outputArgs, List.mem_append, not_or, List.mem_cons, List.not_mem_nil, or_false]
    exact ⟨⟨⟨allQuiet_interleaveArgs.txtFormat_notMem,
      allQuiet_timestampOffsetArgs.txtFormat_notMem⟩, (allQuiet_muxerArgs h).txtFormat_notMem⟩,
      by decide, hoperand hpath.segment, by decide, by decide, hoperand hpath.playlist⟩
  simp only [buildHlsFfmpegCommand, List.mem_append, not_or]
  exact ⟨⟨hinput, txtFormat_notMem_streamArgs h⟩, houtput⟩

theorem boundedTeletextWebvtt_command (h : request.encodesVideo = false)
    (hpath : request.PathsAreOperands) :
    boundedTeletextWebvtt (buildHlsFfmpegCommand request).args = request.decodesTeletextPage := by
  cases hdecodes : request.decodesTeletextPage with
  | false =>
    have hformat := anyPair_eq_false (p := (· == "text"))
      (txtFormat_notMem_command h hpath hdecodes)
    simp only [boundedTeletextWebvtt, hformat, Bool.and_false, Bool.false_and]
  | true =>
    have hteletext : request.teletextArgs = ["-txt_page",
        toString (request.teletextPage.getD 0).toNat, "-txt_format", "text"] := by
      rw [teletextArgs, hdecodes]
      rfl
    have hpage := hdecodes
    simp only [decodesTeletextPage, Bool.and_eq_true] at hpage
    obtain ⟨⟨hany, hselects⟩, -⟩ := hpage
    have hvalid : (parseUnsigned (2 ^ 16 - 1) (toString (request.teletextPage.getD 0).toNat)).any
        (fun page => 100 ≤ page && page ≤ 899) = true := by
      cases hteletextPage : request.teletextPage with
      | none =>
        rw [hteletextPage] at hany
        cases hany
      | some page =>
        rw [hteletextPage, Option.any_some, Bool.and_eq_true, decide_eq_true_eq,
          decide_eq_true_eq] at hany
        rw [Option.getD_some, parseUnsigned_toString (Nat.le_sub_one_of_lt page.toNat_lt),
          Option.any_some, Bool.and_eq_true, decide_eq_true_eq, decide_eq_true_eq]
        exact ⟨UInt16.le_iff_toNat_le.mp hany.1, UInt16.le_iff_toNat_le.mp hany.2⟩
    have hsubtitle : anyPair (fun first second => first == "-threads:s" && second == "1")
        request.subtitleArgs = true := by
      rw [subtitleArgs, shouldBurnSubtitle_eq_false h, hselects, hdecodes]
      exact anyPair_append_right rfl
    have hinput : ∀ {p : String → String → Bool}, anyPair p request.teletextArgs = true →
        anyPair p (buildHlsFfmpegCommand request).args = true := by
      intro p hp
      exact anyPair_append_left (anyPair_append_left (anyPair_append_left (anyPair_append_left
        (anyPair_append_right hp))))
    have hstream : ∀ {p : String → String → Bool}, anyPair p request.subtitleArgs = true →
        anyPair p (buildHlsFfmpegCommand request).args = true := by
      intro p hp
      exact anyPair_append_left (anyPair_append_right (anyPair_append_left (anyPair_append_left
        (anyPair_append_right hp))))
    rw [boundedTeletextWebvtt, hinput, hinput, hstream hsubtitle]
    · rfl
    · rw [hteletext]
      simp [anyPair]
    · rw [hteletext]
      simp only [anyPair, BEq.rfl, hvalid, Bool.true_and, Bool.true_or]

/-! The lane. -/

def pathsKeep (request : HlsTranscodeRequest) (kind : TranscodeJobKind) : Prop :=
  ∀ other ∈ [pathJobKind request.inputPath, pathJobKind request.segmentPatternPath,
      lastPathJobKind request.outputPlaylistPath],
    maxJobKind kind other = kind

def mapsKeepRemux (request : HlsTranscodeRequest) : Prop :=
  let videoIndex := request.selection.videoStreamIndex.any fun index => 0 ≤ index
  let audioIndex := request.selection.audioStreamIndex.any fun index => 0 ≤ index
  (request.copiesVideo ∧ !videoIndex ∨ request.audioMode = .copy ∧ !audioIndex) ∧
    (request.decodesTeletextPage ∨
      ¬(request.copiesVideo ∧ videoIndex) ∧ ¬(request.audioMode = .copy ∧ audioIndex))

instance (kind : TranscodeJobKind) : Decidable (request.pathsKeep kind) :=
  inferInstanceAs (Decidable (∀ _ ∈ _, _))

instance : Decidable request.mapsKeepRemux :=
  inferInstanceAs (Decidable (_ ∧ _))

theorem classifyTranscodeCommand_command (request : HlsTranscodeRequest) :
    classifyTranscodeCommand (buildHlsFfmpegCommand request) =
      maxJobKind request.workload.jobKind
        (classifyFfmpegArgs (buildHlsFfmpegCommand request).args) := rfl

def commandScan (request : HlsTranscodeRequest) : Scan :=
  let scan := Scan.start.path request.inputPath
  let scan := request.streamScan request.decodesTeletextPage scan
  (scan.path request.segmentPatternPath).path request.outputPlaylistPath

theorem classifyFfmpegArgs_command (h : request.encodesVideo = false)
    (hpath : request.PathsAreOperands) :
    classifyFfmpegArgs (buildHlsFfmpegCommand request).args =
      if (codecTarget request.outputPlaylistPath).isSome then .videoEncode
      else request.commandScan.jobKind request.decodesTeletextPage := by
  rw [classifyFfmpegArgs, boundedTeletextWebvtt_command h hpath, args_command h hpath]
  split <;> rfl

variable (request) in
theorem observed_commandScan :
    request.commandScan.observed =
      maxJobKind (maxJobKind
        (if request.encodesAudio request.decodesTeletextPage then
          maxJobKind (maxJobKind .remux (pathJobKind request.inputPath)) .audioEncode
        else maxJobKind .remux (pathJobKind request.inputPath))
        (pathJobKind request.segmentPatternPath)) (pathJobKind request.outputPlaylistPath) := by
  simp only [commandScan]
  rw [Scan.observed_path, Scan.observed_path, observed_streamScan, Scan.observed_path,
    Scan.observed_start]

theorem workload_eq (h : request.encodesVideo = false) :
    request.workload =
      if request.encodesAudio request.decodesTeletextPage then .audioEncode else .remux := by
  rw [workload, h]
  rfl

theorem sawCodecDirective_streamScan (h : request.encodesAudio bounded = true) :
    (request.streamScan bounded scan).sawCodecDirective = true := by
  cases hmode : request.audioMode <;> cases hselects : request.selectsSubtitle <;>
    cases bounded <;> cases hcopies : request.copiesVideo <;>
    simp_all [streamScan, encodesAudio, Scan.webvtt, Scan.observe]

theorem sawCodecDirective_commandScan
    (h : request.encodesAudio request.decodesTeletextPage = true) :
    request.commandScan.sawCodecDirective = true := by
  simp only [commandScan]
  rw [Scan.sawCodecDirective_path, Scan.sawCodecDirective_path, sawCodecDirective_streamScan h,
    Bool.true_or, Bool.true_or]

theorem commandScan_of_pathsKeep
    (hinput : maxJobKind .remux (pathJobKind request.inputPath) = .remux)
    (hsegment : maxJobKind .remux (pathJobKind request.segmentPatternPath) = .remux)
    (hplaylist : maxJobKind .remux (pathJobKind request.outputPlaylistPath) = .remux) :
    request.commandScan = request.streamScan request.decodesTeletextPage Scan.start := by
  have hsettled := isSettled_streamScan request request.decodesTeletextPage Scan.isSettled_start
  simp only [commandScan]
  rw [Scan.path_eq_self Scan.isSettled_start hinput, Scan.path_eq_self hsettled hsegment,
    Scan.path_eq_self hsettled hplaylist]

theorem pathsKeep_iff {kind : TranscodeJobKind} (h : maxJobKind kind .videoEncode ≠ kind) :
    request.pathsKeep kind ↔ (codecTarget request.outputPlaylistPath).isSome = false ∧
      maxJobKind kind (pathJobKind request.inputPath) = kind ∧
      maxJobKind kind (pathJobKind request.segmentPatternPath) = kind ∧
      maxJobKind kind (pathJobKind request.outputPlaylistPath) = kind := by
  simp only [pathsKeep, List.forall_mem_cons, List.not_mem_nil, false_imp_iff, implies_true,
    and_true, lastPathJobKind]
  cases (codecTarget request.outputPlaylistPath).isSome with
  | true => simp [h]
  | false => simp

theorem pathsKeep_audioEncode (h : request.pathsKeep .remux) : request.pathsKeep .audioEncode := by
  have hkind : ∀ kind, maxJobKind .remux kind = .remux →
      maxJobKind .audioEncode kind = .audioEncode := by
    intro kind
    cases kind <;> decide
  exact fun kind hmem => hkind kind (h kind hmem)

theorem keepsLane_audioEncode (h : request.encodesVideo = false)
    (haudio : request.encodesAudio request.decodesTeletextPage = true)
    (hpath : request.PathsAreOperands) :
    classifyTranscodeCommand (buildHlsFfmpegCommand request) = request.workload.jobKind ↔
      request.pathsKeep .audioEncode := by
  have hworkload : request.workload.jobKind = .audioEncode := by
    rw [workload_eq h, haudio]
    rfl
  rw [classifyTranscodeCommand_command, classifyFfmpegArgs_command h hpath,
    pathsKeep_iff (by decide), hworkload]
  cases hcodec : (codecTarget request.outputPlaylistPath).isSome with
  | true => simp [maxJobKind]
  | false =>
    have hobserved := observed_commandScan request
    rw [haudio, if_pos rfl] at hobserved
    have hne : ∀ a b c : TranscodeJobKind,
        maxJobKind (maxJobKind (maxJobKind a .audioEncode) b) c ≠ .remux := by
      intro a b c
      cases a <;> cases b <;> cases c <;> decide
    have hremux : maxJobKind .audioEncode .remux = .audioEncode := rfl
    have hself : maxJobKind .audioEncode .audioEncode = .audioEncode := rfl
    simp only [Bool.false_eq_true, if_false, true_and]
    rw [Scan.jobKind_of_observed (sawCodecDirective_commandScan haudio)
      (by rw [hobserved]; exact hne _ _ _), hobserved, maxJobKind_eq_self_iff,
      maxJobKind_eq_self_iff, maxJobKind_eq_self_iff, maxJobKind_eq_self_iff]
    simp only [hremux, hself, true_and, and_true, and_assoc]

theorem jobKind_streamScan_start
    (haudio : request.encodesAudio request.decodesTeletextPage = false) :
    maxJobKind .remux ((request.streamScan request.decodesTeletextPage Scan.start).jobKind
      request.decodesTeletextPage) = .remux ↔ request.mapsKeepRemux := by
  have hselects : request.selectsSubtitle = request.decodesTeletextPage := by
    simp only [encodesAudio, Bool.or_eq_false_iff] at haudio
    cases hpage : request.decodesTeletextPage with
    | false => simpa [hpage] using haudio.2
    | true =>
      simp only [decodesTeletextPage, Bool.and_eq_true] at hpage
      exact hpage.1.2
  have hmode : request.audioMode ≠ .encode := by
    simp only [encodesAudio, Bool.or_eq_false_iff, decide_eq_false_iff_not] at haudio
    exact haudio.1
  simp only [streamScan, mapsKeepRemux, selectedTarget, hselects]
  cases request.copiesVideo <;> cases hmode' : request.audioMode <;>
    cases request.decodesTeletextPage <;>
    cases (request.selection.videoStreamIndex.any fun index => 0 ≤ index) <;>
    cases (request.selection.audioStreamIndex.any fun index => 0 ≤ index) <;>
    first | exact absurd hmode' hmode | decide

theorem keepsLane_remux (h : request.encodesVideo = false)
    (haudio : request.encodesAudio request.decodesTeletextPage = false)
    (hpath : request.PathsAreOperands) :
    classifyTranscodeCommand (buildHlsFfmpegCommand request) = request.workload.jobKind ↔
      request.pathsKeep .remux ∧ request.mapsKeepRemux := by
  have hworkload : request.workload.jobKind = .remux := by
    rw [workload_eq h, haudio]
    rfl
  rw [classifyTranscodeCommand_command, classifyFfmpegArgs_command h hpath,
    pathsKeep_iff (by decide), hworkload]
  cases hcodec : (codecTarget request.outputPlaylistPath).isSome with
  | true => simp [maxJobKind]
  | false =>
    simp only [Bool.false_eq_true, if_false, true_and]
    have hobserved := observed_commandScan request
    rw [haudio, if_neg Bool.false_ne_true] at hobserved
    constructor
    · intro hremux
      have hkinds : maxJobKind .remux (maxJobKind (maxJobKind (maxJobKind .remux
          (pathJobKind request.inputPath)) (pathJobKind request.segmentPatternPath))
            (pathJobKind request.outputPlaylistPath)) = .remux := by
        rw [← hobserved]
        by_cases hne : request.commandScan.observed = .remux
        · rw [hne]
          rfl
        · obtain hvideo | hseen := Scan.jobKind_ne_remux request.decodesTeletextPage hne
          · rw [hvideo] at hremux
            cases hremux
          · rw [hseen] at hremux
            exact hremux
      rw [maxJobKind_eq_self_iff, maxJobKind_eq_self_iff, maxJobKind_eq_self_iff] at hkinds
      obtain ⟨⟨⟨-, hinput⟩, hsegment⟩, hplaylist⟩ := hkinds
      rw [commandScan_of_pathsKeep hinput hsegment hplaylist] at hremux
      exact ⟨⟨hinput, hsegment, hplaylist⟩, (jobKind_streamScan_start haudio).mp hremux⟩
    · rintro ⟨⟨hinput, hsegment, hplaylist⟩, hmaps⟩
      rw [commandScan_of_pathsKeep hinput hsegment hplaylist]
      exact (jobKind_streamScan_start haudio).mpr hmaps

/-- A command is admitted to the lane that the builder declares if and only if it encodes video,
or no path is taken for anything heavier and, without an encoder of audio, its maps tell a remux. -/
theorem lane_eq_declared_iff (request : HlsTranscodeRequest) (hpath : request.PathsAreOperands) :
    classifyTranscodeCommand (buildHlsFfmpegCommand request) = request.workload.jobKind ↔
      request.encodesVideo ∨
      request.encodesAudio request.decodesTeletextPage ∧ request.pathsKeep .audioEncode ∨
      request.pathsKeep .remux ∧ request.mapsKeepRemux := by
  cases h : request.encodesVideo with
  | true =>
    have hworkload : request.workload = .videoEncode := by
      rw [workload, h]
      rfl
    rw [classifyTranscodeCommand_command, hworkload]
    exact iff_of_true rfl (.inl rfl)
  | false =>
    cases haudio : request.encodesAudio request.decodesTeletextPage with
    | true =>
      rw [keepsLane_audioEncode h haudio hpath]
      simp only [Bool.false_eq_true, false_or, true_and]
      exact ⟨.inl, fun hkeeps => hkeeps.elim id fun hremux => pathsKeep_audioEncode hremux.1⟩
    | false =>
      rw [keepsLane_remux h haudio hpath]
      simp only [Bool.false_eq_true, false_or, false_and]

end HlsTranscodeRequest

def remuxRequest (selection : TranscodeStreamSelection) : HlsTranscodeRequest where
  inputPath := "https://provider.invalid/live.ts"
  outputPlaylistPath := "/tmp/main.m3u8"
  segmentPatternPath := "/tmp/segment_%05d.ts"
  selection
  includeVideo := true
  videoMode := .copy
  audioMode := .copy
  startPositionTicks := 0
  durationTicks := none
  hlsStartNumber := none
  outputTsOffsetTicks := none
  eventPlaylist := false
  hlsListSize := 0
  hlsDeleteThreshold := none
  hlsDeleteSegments := false
  hlsOmitEndlist := false
  hlsTempFile := false
  maxVideoWidth := none
  maxVideoHeight := none
  videoBitrate := none
  videoProfile := none
  videoLevel := none
  maxVideoFrameRateMillihertz := none
  videoThreads := some 2
  videoPreset := .veryfast
  audioBitrate := none
  audioProfile := none
  audioChannels := none
  segmentTimeSeconds := 6
  burnInSubtitle := false
  teletextPage := none
  inputReadratePercent := none
  inputReadrateInitialBurstSeconds := none

theorem pathsAreOperands_remuxRequest (selection : TranscodeStreamSelection) :
    (remuxRequest selection).PathsAreOperands :=
  ⟨by simp [remuxRequest], by simp [remuxRequest], by simp [remuxRequest]⟩

theorem remux_of_first_streams :
    classifyTranscodeCommand (buildHlsFfmpegCommand (remuxRequest ⟨none, none, none⟩)) = .remux :=
  (HlsTranscodeRequest.lane_eq_declared_iff (remuxRequest ⟨none, none, none⟩)
    (pathsAreOperands_remuxRequest _)).mpr (by decide)

theorem explicit_streams_leave_remux :
    (remuxRequest ⟨some 0, some 1, none⟩).PathsAreOperands ∧
      (remuxRequest ⟨some 0, some 1, none⟩).workload = .remux ∧
      classifyTranscodeCommand (buildHlsFfmpegCommand (remuxRequest ⟨some 0, some 1, none⟩)) =
        .videoEncode :=
  ⟨pathsAreOperands_remuxRequest _, rfl, by decide⟩

end Jellyrin.Transcode
