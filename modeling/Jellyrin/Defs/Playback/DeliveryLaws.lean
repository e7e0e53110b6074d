import Jellyrin.Defs.Playback.Delivery

/-! A delivery that is not direct says why, unless direct delivery is refused for something that has
no reason of its own. -/

namespace Jellyrin.Playback

open Ascii Transcode

theorem pushTranscodeReason_ne_nil (reasons : List String) (reason : String) :
    pushTranscodeReason reasons reason ≠ [] := by
  rw [pushTranscodeReason]
  split
  · rename_i hmem
    exact List.ne_nil_of_mem hmem
  · simp

theorem foldl_push_ne_nil {found reasons : List String} (h : reasons ≠ []) :
    found.foldl pushTranscodeReason reasons ≠ [] := by
  induction found generalizing reasons with
  | nil => exact h
  | cons reason found ih => exact ih (pushTranscodeReason_ne_nil reasons reason)

theorem foldl_push_eq_nil {found : List String} :
    found.foldl pushTranscodeReason [] = [] ↔ found = [] := by
  cases found with
  | nil => simp
  | cons reason found =>
    simp only [List.foldl_cons, reduceCtorEq, iff_false]
    exact foldl_push_ne_nil (pushTranscodeReason_ne_nil [] reason)

namespace PlaybackFormats

variable {fmt : PlaybackFormats} {item : Items.MediaItem} {options : PlaybackInfoOptions}
  {metadata : Option Json} {ffmpegMode : FfmpegMode} {streamType : String}

theorem playbackCodecConditionsCompatible_iff :
    fmt.playbackCodecConditionsCompatible item options streamType = true ↔
      (∀ property, fmt.codecConditionPropertyCompatible item options streamType property = true) ∧
        fmt.codecConditionsHaveUnknownRequiredCondition item options streamType = false := by
  simp only [playbackCodecConditionsCompatible, codecConditionPropertyCompatible,
    codecConditionsHaveUnknownRequiredCondition, List.all_eq_true, Bool.and_eq_true,
    Bool.not_eq_true', List.any_eq_false, List.mem_filter, List.mem_flatMap, decide_eq_true_iff]
  constructor
  · intro h
    constructor
    · intro property
      constructor
      · intro profile hprofile hmem
        have hempty := List.isEmpty_iff.mp (h profile hprofile).1
        simp [hempty] at hmem
      · rintro condition ⟨⟨profile, hprofile, hcondition⟩, -⟩
        exact (h profile hprofile).2 condition hcondition
    · intro profile hprofile hunknown
      have hempty := List.isEmpty_iff.mp (h profile hprofile).1
      simp [hempty] at hunknown
  · rintro ⟨hproperty, hunknown⟩ profile hprofile
    constructor
    · rw [List.isEmpty_iff, List.eq_nil_iff_forall_not_mem]
      intro invalid hinvalid
      cases invalid with
      | none => exact hunknown profile hprofile (List.any_eq_true.mpr ⟨none, hinvalid, rfl⟩)
      | some property =>
        exact (hproperty property).1 profile hprofile (List.contains_iff_mem.mpr hinvalid)
    · intro condition hcondition
      exact (hproperty condition.property).2 condition
        ⟨⟨profile, hprofile, hcondition⟩, rfl⟩

theorem codecConditionIncompatibilityReasons_eq_nil :
    fmt.codecConditionIncompatibilityReasons item options streamType = [] ↔
      (∀ property ∈ conditionProperties streamType,
        fmt.codecConditionPropertyCompatible item options streamType property = true) ∧
        fmt.codecConditionsHaveUnknownRequiredCondition item options streamType = false := by
  rw [codecConditionIncompatibilityReasons, foldl_push_eq_nil, List.append_eq_nil_iff,
    List.map_eq_nil_iff, List.filter_eq_nil_iff]
  apply and_congr
  · simp
  · cases fmt.codecConditionsHaveUnknownRequiredCondition item options streamType <;> simp

structure OtherStreamRefused (fmt : PlaybackFormats) (item : Items.MediaItem)
    (options : PlaybackInfoOptions) (streamType : String) : Prop where
  own : ∀ property ∈ conditionProperties streamType,
    fmt.codecConditionPropertyCompatible item options streamType property = true
  known : fmt.codecConditionsHaveUnknownRequiredCondition item options streamType = false
  other : ∃ property, property ∉ conditionProperties streamType ∧
    fmt.codecConditionPropertyCompatible item options streamType property = false

theorem codecConditionIncompatibilityReasons_eq_nil_iff
    (h : fmt.playbackCodecConditionsCompatible item options streamType = false) :
    fmt.codecConditionIncompatibilityReasons item options streamType = [] ↔
      OtherStreamRefused fmt item options streamType := by
  rw [codecConditionIncompatibilityReasons_eq_nil]
  constructor
  · rintro ⟨hown, hknown⟩
    refine ⟨hown, hknown, ?_⟩
    by_contra hnone
    have hall : ∀ property,
        fmt.codecConditionPropertyCompatible item options streamType property = true := by
      intro property
      by_cases hmem : property ∈ conditionProperties streamType
      · exact hown property hmem
      · exact Bool.not_eq_false _ ▸ fun hrefused => hnone ⟨property, hmem, hrefused⟩
    rw [playbackCodecConditionsCompatible_iff.mpr ⟨hall, hknown⟩] at h
    cases h
  · exact fun hrefused => ⟨hrefused.own, hrefused.known⟩

def UnnamedConditions (fmt : PlaybackFormats) (item : Items.MediaItem)
    (options : PlaybackInfoOptions) (streamType : String) (compatible : Bool) : Prop :=
  compatible = true ∨ OtherStreamRefused fmt item options streamType

theorem transcodeReasons_eq_nil : fmt.transcodeReasons item options metadata = [] ↔
    fmt.profileCompatible item options metadata = true ∧
      fmt.selectedAudioStreamNeedsTranscode item options = false ∧
      fmt.selectedSubtitleRequiresProcessing item options = false ∧
      UnnamedConditions fmt item options "Video"
        (fmt.videoCodecConditionsCompatible item options) ∧
      UnnamedConditions fmt item options "Audio"
        (fmt.audioCodecConditionsCompatible item options) ∧
      maxStreamingBitrateExceeded item options = false ∧ directRequested options = true := by
  have hconditions : ∀ {streamType : String} {compatible : Bool},
      (compatible = false →
        fmt.playbackCodecConditionsCompatible item options streamType = false) →
      ((if compatible = true then []
        else fmt.codecConditionIncompatibilityReasons item options streamType) = [] ↔
          UnnamedConditions fmt item options streamType compatible) := by
    intro streamType compatible hrefused
    cases compatible with
    | true => simp [UnnamedConditions]
    | false =>
      rw [if_neg Bool.false_ne_true, codecConditionIncompatibilityReasons_eq_nil_iff (hrefused rfl)]
      simp [UnnamedConditions]
  have hvideo : fmt.videoCodecConditionsCompatible item options = false →
      fmt.playbackCodecConditionsCompatible item options "Video" = false :=
    fun h => ((Bool.or_eq_false_iff ..).mp h).2
  have haudio : fmt.audioCodecConditionsCompatible item options = false →
      fmt.playbackCodecConditionsCompatible item options "Audio" = false := id
  rw [transcodeReasons, foldl_push_eq_nil]
  simp only [List.append_eq_nil_iff, hconditions hvideo, hconditions haudio, and_assoc]
  simp

/-- Direct delivery is refused and a transcode takes its place, though nothing that has a reason of
its own stands against direct delivery. -/
structure RefusedSilently (fmt : PlaybackFormats) (item : Items.MediaItem)
    (options : PlaybackInfoOptions) (metadata : Option Json) (ffmpegMode : FfmpegMode) : Prop where
  profile : fmt.profileCompatible item options metadata = true
  audioCodec : fmt.selectedAudioStreamNeedsTranscode item options = false
  subtitle : fmt.selectedSubtitleRequiresProcessing item options = false
  bitrate : maxStreamingBitrateExceeded item options = false
  requested : directRequested options = true
  videoConditions : UnnamedConditions fmt item options "Video"
    (fmt.videoCodecConditionsCompatible item options)
  audioConditions : UnnamedConditions fmt item options "Audio"
    (fmt.audioCodecConditionsCompatible item options)
  /-- A track of a plugin's stream is selected, or a condition fails. -/
  refused : fmt.pluginVodStreamSelectionRequiresHls item options metadata ffmpegMode = true ∨
    fmt.videoCodecConditionsCompatible item options = false ∨
      fmt.audioCodecConditionsCompatible item options = false
  notRemuxed : fmt.remuxChosen item options ffmpegMode = false
  allowed : transcodeAllowed item options ffmpegMode = true
  profileFound : fmt.hlsTranscodingProfileSupported item options
    (fmt.transcodeVideoMode item options metadata ffmpegMode)
    (fmt.transcodeAudioMode item options) = true
  outputFound : (fmt.transcodeOutput item options
    (fmt.transcodeVideoMode item options metadata ffmpegMode)
    (fmt.transcodeAudioMode item options)).isSome = true

/-- Direct deliveries alone have no reason, and a transcode encodes something or has one. -/
structure NamesRefusals (decision : TranscodeDecision) : Prop where
  direct : decision.reasons = [] ↔
    decision.delivery = .directLocal ∨ decision.delivery = .directProxy
  transcode : decision.delivery = .hlsTranscode →
    decision.video = .encode ∨ decision.audio = .encode ∨ decision.reasons ≠ []

omit fmt item options metadata ffmpegMode streamType in
theorem namesRefusals_of_reasons {decision : TranscodeDecision} (hreasons : decision.reasons ≠ [])
    (hdelivery : decision.delivery ≠ .directLocal ∧ decision.delivery ≠ .directProxy) :
    NamesRefusals decision where
  direct := by
    simp [hreasons, hdelivery.1, hdelivery.2]
  transcode _ := .inr (.inr hreasons)

theorem directChosen_eq_false (h : RefusedSilently fmt item options metadata ffmpegMode) :
    fmt.directChosen item options metadata ffmpegMode = false := by
  obtain hplugin | hvideo | haudio := h.refused
  · simp [directChosen, hplugin]
  · simp [directChosen, directCompatible, hvideo]
  · simp [directChosen, directCompatible, haudio]

theorem refused_of_reasons (hdirect : fmt.directChosen item options metadata ffmpegMode = false)
    (hreasons : fmt.transcodeReasons item options metadata = []) :
    fmt.pluginVodStreamSelectionRequiresHls item options metadata ffmpegMode = true ∨
      fmt.videoCodecConditionsCompatible item options = false ∨
        fmt.audioCodecConditionsCompatible item options = false := by
  obtain ⟨hprofile, haudio, hsubtitle, -, -, hbitrate, hrequested⟩ :=
    transcodeReasons_eq_nil.mp hreasons
  by_contra hnone
  simp only [not_or, Bool.not_eq_false, Bool.not_eq_true] at hnone
  simp [directChosen, directCompatible, hprofile, haudio, hsubtitle, hbitrate, hrequested, hnone]
    at hdirect

/-- The reasons tell direct deliveries from the others except where direct delivery is refused
silently. -/
theorem namesRefusals_iff :
    NamesRefusals (fmt.playbackDeliveryDecisionWithFfmpegMode item options metadata ffmpegMode) ↔
      ¬ RefusedSilently fmt item options metadata ffmpegMode := by
  rw [playbackDeliveryDecisionWithFfmpegMode]
  cases hdirect : fmt.directChosen item options metadata ffmpegMode with
  | true =>
    rw [if_pos rfl]
    refine iff_of_true ?_ fun h => ?_
    · constructor
      · cases fmt.isRemote metadata <;> simp
      · cases fmt.isRemote metadata <;> simp
    · rw [directChosen_eq_false h] at hdirect
      cases hdirect
  | false =>
    rw [if_neg Bool.false_ne_true]
    cases hremux : fmt.remuxChosen item options ffmpegMode with
    | true =>
      rw [if_pos rfl]
      refine iff_of_true (namesRefusals_of_reasons (by simp) (by simp)) fun h => ?_
      rw [h.notRemuxed] at hremux
      cases hremux
    | false =>
      rw [if_neg Bool.false_ne_true]
      cases hallowed : transcodeAllowed item options ffmpegMode with
      | false =>
        rw [if_neg Bool.false_ne_true]
        refine iff_of_true (namesRefusals_of_reasons (by simp [TranscodeDecision.unsupported])
          (by simp [TranscodeDecision.unsupported])) fun h => ?_
        rw [h.allowed] at hallowed
        cases hallowed
      | true =>
        rw [if_pos rfl, transcodeDecision]
        split
        · rename_i hprofile
          refine iff_of_true (namesRefusals_of_reasons (by simp [TranscodeDecision.unsupported])
            (by simp [TranscodeDecision.unsupported])) fun h => ?_
          rw [h.profileFound] at hprofile
          cases hprofile
        · rename_i hprofile
          split
          · rename_i houtput
            refine iff_of_true (namesRefusals_of_reasons
              (pushTranscodeReason_ne_nil _ _) (by simp [TranscodeDecision.unsupported]))
              fun h => ?_
            have hfound := h.outputFound
            rw [houtput] at hfound
            cases hfound
          · rename_i output houtput
            constructor
            · intro hnames h
              have hnil := transcodeReasons_eq_nil.mpr ⟨h.profile, h.audioCodec, h.subtitle,
                h.videoConditions, h.audioConditions, h.bitrate, h.requested⟩
              have hdelivery := hnames.direct.mp hnil
              simp at hdelivery
            · intro hsilent
              refine namesRefusals_of_reasons (fun hnil => hsilent ?_) (by simp)
              obtain ⟨hprofileFits, haudio, hsubtitle, hvideoConditions, haudioConditions, hbitrate,
                hrequested⟩ := transcodeReasons_eq_nil.mp hnil
              exact
                { profile := hprofileFits
                  audioCodec := haudio
                  subtitle := hsubtitle
                  bitrate := hbitrate
                  requested := hrequested
                  videoConditions := hvideoConditions
                  audioConditions := haudioConditions
                  refused := refused_of_reasons hdirect hnil
                  notRemuxed := hremux
                  allowed := hallowed
                  profileFound := (Bool.not_eq_false _).mp hprofile
                  outputFound := by rw [houtput]; rfl }

def bilingualFilm : Items.MediaItem :=
  { Items.itemNamed 1 "film.ts" with
    mediaStreams := [videoStream "h264" 0 30, audioStream "aac" 1 2, audioStream "aac" 2 2] }

def pluginFormats : PlaybackFormats :=
  { plainPlaybackFormats with isPluginVodRemoteMedia := fun _ => true }

def selectionOptions : PlaybackInfoOptions :=
  { plainOptions with
    enableDirectStream := false
    audioStreamIndex := some 2
    pluginVodSelectionHls := true }

def surroundFilm : Items.MediaItem :=
  { Items.itemNamed 1 "film.mkv" with
    mediaStreams := [videoStream "hevc" 0 30, audioStream "aac" 1 6] }

def crossOptions : PlaybackInfoOptions :=
  { plainOptions with
    codecProfiles :=
      [⟨some "Video", ["hevc"], [⟨.audioChannels, .lessThanEqual, [.numeric 2], false⟩], []⟩] }

/-- A selected track of a plugin's stream is copied without a reason, and a condition on the audio
channels in a profile for video has the video encoded without one. -/
theorem silent_transcodes :
    ¬ NamesRefusals (pluginFormats.playbackDeliveryDecisionWithFfmpegMode bilingualFilm
        selectionOptions (some .null) .enabled) ∧
      ¬ NamesRefusals (plainPlaybackFormats.playbackDeliveryDecisionWithFfmpegMode surroundFilm
        crossOptions none .enabled) := by
  have hrun :
      (pluginFormats.playbackDeliveryDecisionWithFfmpegMode bilingualFilm selectionOptions
          (some .null) .enabled =
        ⟨.hlsTranscode, .copy, .copy, [], PlaybackOutputConstraints.default⟩) ∧
      (plainPlaybackFormats.playbackDeliveryDecisionWithFfmpegMode surroundFilm crossOptions none
          .enabled).delivery = .hlsTranscode ∧
      (plainPlaybackFormats.playbackDeliveryDecisionWithFfmpegMode surroundFilm crossOptions none
          .enabled).reasons = [] := by
    decide
  constructor
  · intro hnames
    rw [hrun.1] at hnames
    obtain hvideo | haudio | hreasons := hnames.transcode rfl
    · cases hvideo
    · cases haudio
    · exact hreasons rfl
  · intro hnames
    have hdelivery := hnames.direct.mp hrun.2.2
    rw [hrun.2.1] at hdelivery
    obtain hlocal | hproxy := hdelivery
    · cases hlocal
    · cases hproxy

end PlaybackFormats

end Jellyrin.Playback
