import Jellyrin.Defs.Playback.OutputConstraints

/-! The bitrates of an encoded output stay within every limit that bears on them. -/

namespace Jellyrin.Playback

open Ascii Transcode

def Within (limit : UInt32) (bitrate : Option UInt32) : Prop :=
  ∃ rate, bitrate = some rate ∧ rate ≤ limit

theorem min_le_left' (a b : UInt32) : min a b ≤ a := by
  simp [UInt32.le_iff_toNat_le]

theorem min_le_right' (a b : UInt32) : min a b ≤ b := by
  simp [UInt32.le_iff_toNat_le]

variable {limit : UInt32}

theorem within_minOptionalU32 {left right : Option UInt32}
    (h : Within limit left ∨ Within limit right) : Within limit (minOptionalU32 left right) := by
  cases left with
  | none =>
    cases right with
    | none =>
      obtain ⟨rate, hrate, -⟩ | ⟨rate, hrate, -⟩ := h <;> cases hrate
    | some right =>
      obtain ⟨rate, hrate, -⟩ | hright := h
      · cases hrate
      · exact hright
  | some left =>
    cases right with
    | none =>
      obtain hleft | ⟨rate, hrate, -⟩ := h
      · exact hleft
      · cases hrate
    | some right =>
      refine ⟨min left right, rfl, ?_⟩
      obtain ⟨rate, hrate, hle⟩ | ⟨rate, hrate, hle⟩ := h <;> cases hrate
      · exact UInt32.le_trans (min_le_left' left right) hle
      · exact UInt32.le_trans (min_le_right' left right) hle

variable {bitrate : Option UInt32}

theorem within_min_getD {budget : UInt32} (default : UInt32) (h : Within limit bitrate) :
    min (bitrate.getD default) budget ≤ limit := by
  obtain ⟨rate, rfl, hle⟩ := h
  exact UInt32.le_trans (min_le_left' rate budget) hle

def AllPositive (bitrate : Option UInt32) : Prop := ∀ rate, bitrate = some rate → 1 ≤ rate

theorem one_le_min {a b : UInt32} (ha : 1 ≤ a) (hb : 1 ≤ b) : 1 ≤ min a b := by
  rw [UInt32.le_iff_toNat_le] at ha hb ⊢
  rw [U32.toNat_min]
  omega

theorem AllPositive.minOptionalU32 {left right : Option UInt32} (hleft : AllPositive left)
    (hright : AllPositive right) : AllPositive (minOptionalU32 left right) := by
  intro rate hrate
  cases left with
  | none =>
    cases right with
    | none => cases hrate
    | some right => exact hright rate hrate
  | some left =>
    cases right with
    | none => exact hleft rate hrate
    | some right =>
      cases hrate
      exact one_le_min (hleft left rfl) (hright right rfl)

theorem AllPositive.min_getD (h : AllPositive bitrate) {default budget : UInt32}
    (hdefault : 1 ≤ default) (hbudget : 1 ≤ budget) : 1 ≤ min (bitrate.getD default) budget := by
  apply one_le_min _ hbudget
  cases bitrate with
  | none => exact hdefault
  | some rate => exact h rate rfl

section Bounds

variable {item : Items.MediaItem} {options : PlaybackInfoOptions} {streamType codec : String}
  {property : CodecConditionProperty}

theorem within_codecOutputUpperBound {condition : CodecCondition}
    (hcondition : condition ∈ codecOutputConditions item options streamType codec property)
    (hlimit : condition.upperBound = some limit) :
    Within limit (codecOutputUpperBound item options streamType codec property) := by
  have hmem : limit ∈ (codecOutputConditions item options streamType codec property).filterMap
      CodecCondition.upperBound :=
    List.mem_filterMap.mpr ⟨condition, hcondition, hlimit⟩
  cases hmin : codecOutputUpperBound item options streamType codec property with
  | none =>
    rw [codecOutputUpperBound, List.min?_eq_none_iff] at hmin
    rw [hmin] at hmem
    cases hmem
  | some bound => exact ⟨bound, rfl, (List.min?_eq_some_iff.mp hmin).2 limit hmem⟩

theorem exists_of_codecOutputUpperBound
    (h : codecOutputUpperBound item options streamType codec property = some limit) :
    ∃ condition ∈ codecOutputConditions item options streamType codec property,
      condition.upperBound = some limit :=
  List.mem_filterMap.mp (List.min?_eq_some_iff.mp h).1

end Bounds

namespace PlaybackFormats

variable {fmt : PlaybackFormats} {item : Items.MediaItem} {options : PlaybackInfoOptions}
  {videoMode audioMode : HlsStreamMode} {output next : PlaybackOutputConstraints}

theorem withVideoConditions_encode
    (h : fmt.withVideoConditions item options .encode output = some next) :
    next.videoBitrate = minOptionalU32 output.videoBitrate
        (codecOutputUpperBound item options "Video" "h264" .videoBitrate) ∧
      next.audioBitrate = output.audioBitrate := by
  rw [withVideoConditions, if_pos rfl] at h
  split at h
  · cases h
  · simp only [Option.bind_eq_bind, Option.bind_eq_some_iff] at h
    obtain ⟨_, -, _, -, _, -, _, -, h⟩ := h
    rw [← Option.some.inj h]
    exact ⟨rfl, rfl⟩

theorem withAudioConditions_cases
    (h : fmt.withAudioConditions item options audioMode output = some next) :
    next.videoBitrate = output.videoBitrate ∧
      next.audioBitrate =
        if audioMode = .encode then
          minOptionalU32 output.audioBitrate
            (codecOutputUpperBound item options "Audio" "aac" .audioBitrate)
        else none := by
  rw [withAudioConditions] at h
  split at h
  · rename_i hmode
    rw [if_pos hmode]
    split at h
    · cases h
    · simp only [Option.bind_eq_bind, Option.bind_eq_some_iff] at h
      obtain ⟨_, -, _, -, h⟩ := h
      rw [← Option.some.inj h]
      exact ⟨rfl, rfl⟩
  · rename_i hmode
    rw [if_neg hmode, ← Option.some.inj h]
    exact ⟨rfl, rfl⟩

theorem suggestedAudioBitrate_bounds {total : UInt32} (h : 2 ≤ total) :
    (suggestedAudioBitrate total).toNat ≤ total.toNat / 2 := by
  rw [UInt32.le_iff_toNat_le] at h
  have htwo : (2 : UInt32).toNat = 2 := rfl
  have hone : (1 : UInt32).toNat = 1 := rfl
  rw [suggestedAudioBitrate, U32.toNat_min, U32.toNat_max, UInt32.toNat_div, htwo, hone]
  omega

def profileConstraints (profile : Option TranscodingProfileMatcher) :
    PlaybackOutputConstraints :=
  { PlaybackOutputConstraints.default with
    maxWidth := profile.bind (·.maxWidth)
    maxHeight := profile.bind (·.maxHeight)
    videoBitrate := profile.bind (·.videoBitrate)
    audioBitrate := profile.bind (·.audioBitrate) }

theorem playbackOutputConstraints_stages {profile : Option TranscodingProfileMatcher}
    (h : fmt.playbackOutputConstraints item options profile videoMode audioMode = some output) :
    ∃ video audio,
      fmt.withVideoConditions item options videoMode (profileConstraints profile) = some video ∧
        fmt.withAudioConditions item options audioMode video = some audio ∧
          output = withinSourceBitrate item videoMode
            (fmt.withinStreamingBitrate item options videoMode audioMode audio) := by
  obtain ⟨video, hvideo, h⟩ := Option.bind_eq_some_iff.mp h
  obtain ⟨audio, haudio, h⟩ := Option.bind_eq_some_iff.mp h
  refine ⟨video, audio, hvideo, haudio, ?_⟩
  dsimp only at h
  split at h
  · cases h
  · split at h
    · cases h
    · exact (Option.some.inj h).symm

/-- The limits on the bitrate of an encoded video: of the profile, and of the conditions. -/
def VideoLimit (item : Items.MediaItem) (options : PlaybackInfoOptions)
    (profile : Option TranscodingProfileMatcher) (limit : UInt32) : Prop :=
  profile.bind (·.videoBitrate) = some limit ∨
    ∃ condition ∈ codecOutputConditions item options "Video" "h264" .videoBitrate,
      condition.upperBound = some limit

def AudioLimit (item : Items.MediaItem) (options : PlaybackInfoOptions)
    (profile : Option TranscodingProfileMatcher) (limit : UInt32) : Prop :=
  profile.bind (·.audioBitrate) = some limit ∨
    ∃ condition ∈ codecOutputConditions item options "Audio" "aac" .audioBitrate,
      condition.upperBound = some limit

def audioShare (fmt : PlaybackFormats) (item : Items.MediaItem) (options : PlaybackInfoOptions)
    (audioMode : HlsStreamMode) (total : UInt32) (output : PlaybackOutputConstraints) : UInt32 :=
  match audioMode with
  | .encode => output.audioBitrate.getD 0
  | .copy => ((fmt.sourceNumeric item options .audioBitrate).filter (· < total)).getD 0
  | .drop => 0

theorem audioBudget_bounds {total : UInt32} (h : 2 ≤ total) :
    (fmt.audioBudget item options audioMode total bitrate).2.toNat + 1 ≤ total.toNat := by
  have hsuggested := suggestedAudioBitrate_bounds h
  have hone : (1 : UInt32).toNat = 1 := rfl
  have hzero : (0 : UInt32).toNat = 0 := rfl
  rw [UInt32.le_iff_toNat_le] at h
  have htwo : (2 : UInt32).toNat = 2 := rfl
  rw [audioBudget]
  split
  · dsimp only
    split
    · rw [U32.toNat_min]
      omega
    · simp only [U32.toNat_min, U32.toNat_saturatingSub]
      omega
  · dsimp only
    omega

theorem audioShare_le_budget {total : UInt32}
    (hselected : (fmt.selectedAudioStreamIndex item options).isSome = true)
    (houtput : output.audioBitrate = (fmt.audioBudget item options audioMode total bitrate).1) :
    (audioShare fmt item options audioMode total output).toNat ≤
      (fmt.audioBudget item options audioMode total bitrate).2.toNat := by
  cases audioMode with
  | encode =>
    rw [audioShare, houtput, audioBudget, if_pos hselected]
    exact Nat.le_refl _
  | drop => exact Nat.zero_le _
  | copy =>
    rw [audioShare, audioBudget, if_pos hselected]
    cases hsource : fmt.sourceNumeric item options .audioBitrate with
    | none => exact Nat.zero_le _
    | some source =>
      by_cases hlt : source < total
      · have hsmall := UInt32.lt_iff_toNat_lt.mp hlt
        have hone : (1 : UInt32).toNat = 1 := rfl
        simp only [Option.filter_some, hlt, decide_true, if_true, Option.getD_some, reduceCtorEq,
          if_false, U32.toNat_min, U32.toNat_saturatingSub, hone]
        omega
      · have hnone : (some source).filter (fun source => decide (source < total)) = none := by
          rw [Option.filter_some, if_neg (by simpa using hlt)]
        rw [hnone]
        exact Nat.zero_le _

theorem audioBudget_within {total rate : UInt32} (h : Within limit bitrate)
    (hrate : (fmt.audioBudget item options audioMode total bitrate).1 = some rate) :
    rate ≤ limit := by
  have hkept : ∀ rate, bitrate = some rate → rate ≤ limit := by
    obtain ⟨found, rfl, hle⟩ := h
    intro rate heq
    cases heq
    exact hle
  rw [audioBudget] at hrate
  split at hrate
  · dsimp only at hrate
    split at hrate
    · rw [← Option.some.inj hrate]
      exact within_min_getD 192000 h
    · exact hkept rate hrate
  · exact hkept rate hrate

theorem sourceRelativeCeiling_bounds (item : Items.MediaItem) :
    1 ≤ sourceRelativeCeiling item ∧ sourceRelativeCeiling item ≤ maxVideoTranscodeBitrate := by
  rw [sourceRelativeCeiling]
  cases item.bitrate.bind U32.positive with
  | none => exact ⟨by decide, UInt32.le_refl _⟩
  | some bitrate =>
    have hle : minVideoTranscodeBitrate ≤ maxVideoTranscodeBitrate := by decide
    have hclamp := U32.toNat_clamp hle (U32.saturatingMul bitrate 2)
    simp only [Option.elim_some, UInt32.le_iff_toNat_le]
    exact ⟨Nat.le_trans (by decide) hclamp.1, hclamp.2⟩

section Encode

variable {profile : Option TranscodingProfileMatcher} {total : UInt32}

structure Conditioned (item : Items.MediaItem) (options : PlaybackInfoOptions)
    (profile : Option TranscodingProfileMatcher) (audioMode : HlsStreamMode)
    (output : PlaybackOutputConstraints) : Prop where
  video : ∀ limit, VideoLimit item options profile limit → Within limit output.videoBitrate
  positive : (∀ limit, VideoLimit item options profile limit → 1 ≤ limit) →
    AllPositive output.videoBitrate
  audio : audioMode = .encode →
    ∀ limit, AudioLimit item options profile limit → Within limit output.audioBitrate
  /-- A track that is not encoded has no bitrate. -/
  copied : audioMode ≠ .encode → output.audioBitrate = none

theorem within_of_eq_some (h : bitrate = some limit) :
    Within limit bitrate := ⟨limit, h, UInt32.le_refl limit⟩

theorem conditioned_of_stages {video audio : PlaybackOutputConstraints}
    (hvideo : fmt.withVideoConditions item options .encode (profileConstraints profile) =
      some video)
    (haudio : fmt.withAudioConditions item options audioMode video = some audio) :
    Conditioned item options profile audioMode audio := by
  obtain ⟨hvideoBitrate, hkeptAudio⟩ := withVideoConditions_encode hvideo
  obtain ⟨hkeptVideo, haudioBitrate⟩ := withAudioConditions_cases haudio
  rw [hkeptAudio] at haudioBitrate
  rw [hvideoBitrate] at hkeptVideo
  constructor
  · intro limit hlimit
    rw [hkeptVideo]
    apply within_minOptionalU32
    cases hlimit with
    | inl hprofile => exact .inl (within_of_eq_some hprofile)
    | inr hcondition =>
      obtain ⟨condition, hcondition, hbound⟩ := hcondition
      exact .inr (within_codecOutputUpperBound hcondition hbound)
  · intro hpositive
    rw [hkeptVideo]
    apply AllPositive.minOptionalU32
    · exact fun rate hrate => hpositive rate (.inl hrate)
    · exact fun rate hrate => hpositive rate (.inr (exists_of_codecOutputUpperBound hrate))
  · intro hmode limit hlimit
    rw [haudioBitrate, if_pos hmode]
    apply within_minOptionalU32
    cases hlimit with
    | inl hprofile => exact .inl (within_of_eq_some hprofile)
    | inr hcondition =>
      obtain ⟨condition, hcondition, hbound⟩ := hcondition
      exact .inr (within_codecOutputUpperBound hcondition hbound)
  · intro hmode
    rw [haudioBitrate, if_neg hmode]

structure Bounded (fmt : PlaybackFormats) (item : Items.MediaItem)
    (options : PlaybackInfoOptions) (profile : Option TranscodingProfileMatcher)
    (audioMode : HlsStreamMode) (total : UInt32) (output : PlaybackOutputConstraints)
    (video : UInt32) : Prop where
  atMost : video ≤ maxVideoTranscodeBitrate
  positive : (∀ limit, VideoLimit item options profile limit → 1 ≤ limit) → 1 ≤ video
  videoLimit : ∀ limit, VideoLimit item options profile limit → video ≤ limit
  audioLimit : ∀ limit, AudioLimit item options profile limit →
    ∀ audio, output.audioBitrate = some audio → audio ≤ limit
  transport : eqIgnoreAsciiCase item.mediaType "Audio" = false → video ≤ total
  shared : eqIgnoreAsciiCase item.mediaType "Audio" = false →
    (fmt.selectedAudioStreamIndex item options).isSome = true →
      video.toNat + (audioShare fmt item options audioMode total output).toNat ≤ total.toNat

theorem withinStreamingBitrate_eq (htotal : options.maxStreamingBitrate = some total)
    (hitem : ¬ eqIgnoreAsciiCase item.mediaType "Audio" = true) :
    fmt.withinStreamingBitrate item options .encode audioMode output =
      { output with
        audioBitrate := (fmt.audioBudget item options audioMode total output.audioBitrate).1
        videoBitrate := some
          (min
            (output.videoBitrate.getD (Max.max (U32.saturatingSub total
              (fmt.audioBudget item options audioMode total output.audioBitrate).2) 1))
            (Max.max (U32.saturatingSub total
              (fmt.audioBudget item options audioMode total output.audioBitrate).2) 1)) } := by
  rw [withinStreamingBitrate, htotal]
  dsimp only
  rw [if_neg hitem]
  simp only [if_true]

theorem withinStreamingBitrate_of_audio (hitem : eqIgnoreAsciiCase item.mediaType "Audio" = true) :
    (fmt.withinStreamingBitrate item options .encode audioMode output).videoBitrate =
      output.videoBitrate := by
  rw [withinStreamingBitrate]
  split
  · rfl
  · rw [if_pos hitem]
    split
    · rfl
    · rfl

theorem within_withinStreamingBitrate (h : Within limit output.videoBitrate) :
    Within limit (fmt.withinStreamingBitrate item options .encode audioMode output).videoBitrate :=
    by
  by_cases hitem : eqIgnoreAsciiCase item.mediaType "Audio" = true
  · rw [withinStreamingBitrate_of_audio hitem]
    exact h
  · cases htotal : options.maxStreamingBitrate with
    | none =>
      rw [withinStreamingBitrate, htotal]
      exact h
    | some total =>
      rw [withinStreamingBitrate_eq htotal hitem]
      exact ⟨_, rfl, within_min_getD _ h⟩

theorem allPositive_withinStreamingBitrate (h : AllPositive output.videoBitrate) :
    AllPositive (fmt.withinStreamingBitrate item options .encode audioMode output).videoBitrate := by
  by_cases hitem : eqIgnoreAsciiCase item.mediaType "Audio" = true
  · rw [withinStreamingBitrate_of_audio hitem]
    exact h
  · cases htotal : options.maxStreamingBitrate with
    | none =>
      rw [withinStreamingBitrate, htotal]
      exact h
    | some total =>
      have hbudget : ∀ rest : UInt32, 1 ≤ Max.max rest 1 := by
        intro rest
        rw [UInt32.le_iff_toNat_le, U32.toNat_max]
        exact Nat.le_max_right _ _
      rw [withinStreamingBitrate_eq htotal hitem]
      intro rate hrate
      rw [← Option.some.inj hrate]
      exact h.min_getD (hbudget _) (hbudget _)

theorem withinStreamingBitrate_audio
    (hconditioned : Conditioned item options profile audioMode output) {audio : UInt32}
    (hlimit : AudioLimit item options profile limit)
    (haudio : (fmt.withinStreamingBitrate item options .encode audioMode output).audioBitrate =
      some audio) : audio ≤ limit := by
  have hkept : ∀ rate, output.audioBitrate = some rate → rate ≤ limit := by
    intro rate hrate
    by_cases hmode : audioMode = .encode
    · obtain ⟨found, hfound, hle⟩ := hconditioned.audio hmode limit hlimit
      rw [hrate] at hfound
      cases hfound
      exact hle
    · rw [hconditioned.copied hmode] at hrate
      cases hrate
  cases htotal : options.maxStreamingBitrate with
  | none =>
    rw [withinStreamingBitrate, htotal] at haudio
    exact hkept audio haudio
  | some total =>
    by_cases hitem : eqIgnoreAsciiCase item.mediaType "Audio" = true
    · rw [withinStreamingBitrate, htotal] at haudio
      dsimp only at haudio
      rw [if_pos hitem] at haudio
      split at haudio
      · rename_i hmode
        rw [← Option.some.inj haudio]
        exact within_min_getD _ (hconditioned.audio hmode limit hlimit)
      · exact hkept audio haudio
    · rw [withinStreamingBitrate_eq htotal hitem] at haudio
      by_cases hmode : audioMode = .encode
      · exact audioBudget_within (hconditioned.audio hmode limit hlimit) haudio
      · have hsame : (fmt.audioBudget item options audioMode total output.audioBitrate).1 =
            output.audioBitrate := by
          simp only [audioBudget, if_neg hmode]
          split
          · rfl
          · rfl
        exact hkept audio (hsame.symm.trans haudio)

theorem withinStreamingBitrate_total (fmt : PlaybackFormats) (audioMode : HlsStreamMode)
    (output : PlaybackOutputConstraints) (htotal : options.maxStreamingBitrate = some total)
    (htwo : 2 ≤ total) (hitem : ¬ eqIgnoreAsciiCase item.mediaType "Audio" = true) :
    ∃ video, (fmt.withinStreamingBitrate item options .encode audioMode output).videoBitrate =
        some video ∧
      (fmt.withinStreamingBitrate item options .encode audioMode output).audioBitrate =
        (fmt.audioBudget item options audioMode total output.audioBitrate).1 ∧
      video.toNat + (fmt.audioBudget item options audioMode total output.audioBitrate).2.toNat ≤
        total.toNat := by
  have hbudget : (fmt.audioBudget item options audioMode total output.audioBitrate).2.toNat + 1 ≤
      total.toNat := audioBudget_bounds htwo
  rw [withinStreamingBitrate_eq htotal hitem]
  refine ⟨_, rfl, rfl, ?_⟩
  have hone : (1 : UInt32).toNat = 1 := rfl
  simp only [U32.toNat_min, U32.toNat_max, U32.toNat_saturatingSub, hone]
  omega

/-- An output that the constraints allow keeps to the limits of the server, of the profile, of the
conditions and, with its audio, of the client. -/
theorem playbackOutputConstraints_bounded (htotal : options.maxStreamingBitrate = some total)
    (htwo : 2 ≤ total)
    (h : fmt.playbackOutputConstraints item options profile .encode audioMode = some output) :
    ∃ video, output.videoBitrate = some video ∧
      Bounded fmt item options profile audioMode total output video := by
  obtain ⟨stage, audio, hvideo, haudio, rfl⟩ := playbackOutputConstraints_stages h
  have hconditioned := conditioned_of_stages hvideo haudio
  have hceiling := sourceRelativeCeiling_bounds item
  refine ⟨_, rfl, ?_⟩
  constructor
  · exact UInt32.le_trans (min_le_right' _ _) hceiling.2
  · intro hpositive
    exact (allPositive_withinStreamingBitrate (hconditioned.positive hpositive)).min_getD
      hceiling.1 hceiling.1
  · intro limit hlimit
    exact within_min_getD _ (within_withinStreamingBitrate (hconditioned.video limit hlimit))
  · intro limit hlimit rate hrate
    exact withinStreamingBitrate_audio hconditioned hlimit hrate
  · intro hitem
    obtain ⟨video, hbitrate, -, hsum⟩ :=
      withinStreamingBitrate_total fmt audioMode audio htotal htwo (Bool.eq_false_iff.mp hitem)
    refine UInt32.le_trans (within_min_getD _ ⟨video, hbitrate, UInt32.le_refl video⟩) ?_
    rw [UInt32.le_iff_toNat_le]
    exact Nat.le_trans (Nat.le_add_right _ _) hsum
  · intro hitem hselected
    obtain ⟨video, hbitrate, hsame, hsum⟩ :=
      withinStreamingBitrate_total fmt audioMode audio htotal htwo (Bool.eq_false_iff.mp hitem)
    have hleft : min ((fmt.withinStreamingBitrate item options .encode audioMode
        audio).videoBitrate.getD (sourceRelativeCeiling item)) (sourceRelativeCeiling item) ≤
          video :=
      within_min_getD _ ⟨video, hbitrate, UInt32.le_refl video⟩
    have hshare := audioShare_le_budget hselected hsame
    exact Nat.le_trans (Nat.add_le_add (UInt32.le_iff_toNat_le.mp hleft) hshare) hsum

end Encode

/-! Without the restrictions of `Bounded`. -/

def bitrateOptions (total : UInt32) (codecProfiles : List CodecProfileMatcher) :
    PlaybackInfoOptions :=
  { plainOptions with maxStreamingBitrate := some total, codecProfiles }

def hlsProfile (videoBitrate audioBitrate : Option UInt32) : TranscodingProfileMatcher :=
  ⟨none, none, [], [], [], [], none, none, videoBitrate, audioBitrate⟩

def soundFilm : Items.MediaItem :=
  { Items.itemNamed 1 "film.mkv" with
    mediaStreams := [videoStream "hevc" 0 30, audioStream "ac3" 1 6] }

def silentFilm : Items.MediaItem :=
  { Items.itemNamed 1 "film.mkv" with mediaStreams := [videoStream "hevc" 0 30] }

def song : Items.MediaItem :=
  { Items.itemNamed 1 "song.flac" with
    mediaType := "Audio"
    mediaStreams := [audioStream "flac" 0 2] }

def bitrates (output : PlaybackOutputConstraints) : Option UInt32 × Option UInt32 :=
  (output.videoBitrate, output.audioBitrate)

theorem soundFilm_bounded : ∃ output,
    (plainPlaybackFormats.playbackOutputConstraints soundFilm (bitrateOptions 1000000 [])
        (some (hlsProfile (some 3000000) (some 128000))) .encode .encode = some output ∧
      bitrates output = (some 872000, some 128000)) ∧
      ∃ video, output.videoBitrate = some video ∧
        Bounded plainPlaybackFormats soundFilm (bitrateOptions 1000000 [])
          (some (hlsProfile (some 3000000) (some 128000))) .encode 1000000 output video := by
  have hrun : (plainPlaybackFormats.playbackOutputConstraints soundFilm (bitrateOptions 1000000 [])
      (some (hlsProfile (some 3000000) (some 128000))) .encode .encode).map bitrates =
        some (some 872000, some 128000) := by
    decide
  obtain ⟨output, houtput, hbitrates⟩ := Option.map_eq_some_iff.mp hrun
  exact ⟨output, ⟨houtput, hbitrates⟩, playbackOutputConstraints_bounded rfl (by decide) houtput⟩

def keepsTotal (item : Items.MediaItem) (options : PlaybackInfoOptions)
    (audioMode : HlsStreamMode) (total : UInt32) (output : PlaybackOutputConstraints) : Bool :=
  output.videoBitrate.any fun video =>
    1 ≤ video && video.toNat +
      (audioShare plainPlaybackFormats item options audioMode total output).toNat ≤ total.toNat

/-- An audio track that is not there is not taken from the total; an audio item keeps its video
bitrate; and a condition below one leaves a bitrate of zero. -/
theorem bitrates_beyond_total :
    (plainPlaybackFormats.playbackOutputConstraints silentFilm (bitrateOptions 1000000 [])
        (some (hlsProfile none (some 128000))) .encode .encode).map
          (fun output => (bitrates output,
            keepsTotal silentFilm (bitrateOptions 1000000 []) .encode 1000000 output)) =
        some ((some 1000000, some 128000), false) ∧
      (plainPlaybackFormats.playbackOutputConstraints song (bitrateOptions 1000000 []) none .encode
        .encode).map
          (fun output => (bitrates output,
            keepsTotal song (bitrateOptions 1000000 []) .encode 1000000 output)) =
        some ((some 8000000, some 192000), false) ∧
      (plainPlaybackFormats.playbackOutputConstraints silentFilm
        (bitrateOptions 1000000
          [⟨some "Video", ["h264"], [⟨.videoBitrate, .lessThan, [.numeric 1], false⟩], []⟩])
        none .encode .copy).map bitrates = some (some 0, none) := by
  decide

end PlaybackFormats

end Jellyrin.Playback
