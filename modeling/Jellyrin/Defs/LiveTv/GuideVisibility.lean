import Jellyrin.Defs.LiveTv.GuideQuery

/-! Which programmes the guide and its detail view show to a user with certain tuners. -/

namespace Jellyrin.LiveTv.Guide

open Api Ascii ClientIds

def HasVisibleChannel (allowed : List String) (channels : List Json) (program : Json) : Prop :=
  ∃ channel ∈ channels, hasAllowedTuner allowed channel = true ∧
    ∃ id ∈ channel.stringFields ["Id", "JellyrinChannelId"],
      ∃ channelId ∈ program.stringFields ["ChannelId", "JellyrinChannelId"],
        jellyfinIdMatches id channelId = .ok true

def comparedIds (allowed : List String) (channels : List Json) (program : Json) :
    List (String × String) :=
  (program.stringFields ["ChannelId", "JellyrinChannelId"]).flatMap fun channelId =>
    (allowedChannelIds channels allowed).map (·, channelId)

/-- Up to the first match no comparison panics. -/
def IsComparable (allowed : List String) (channels : List Json) (program : Json) : Prop :=
  hasAllowedTuner allowed program = true ∨
    reaches (fun ids => decide (IsSliceable ids.1) && decide (IsSliceable ids.2))
      (fun ids => Uuid.agree ids.1 ids.2) (comparedIds allowed channels program) = true

variable {allowed : List String} {channels : List Json}

theorem hasVisibleChannel_iff {program : Json} :
    HasVisibleChannel allowed channels program ↔
      ∃ ids ∈ comparedIds allowed channels program, jellyfinIdMatches ids.1 ids.2 = .ok true := by
  simp only [HasVisibleChannel, comparedIds, allowedChannelIds, List.mem_flatMap, List.mem_map,
    List.mem_filter]
  constructor
  · rintro ⟨channel, hchannel, htuner, id, hid, channelId, hchannelId, hmatches⟩
    exact ⟨(id, channelId), ⟨channelId, hchannelId, id, ⟨channel, ⟨hchannel, htuner⟩, hid⟩, rfl⟩,
      hmatches⟩
  · rintro ⟨_, ⟨channelId, hchannelId, id, ⟨channel, ⟨hchannel, htuner⟩, hid⟩, rfl⟩, hmatches⟩
    exact ⟨channel, hchannel, htuner, id, hid, channelId, hchannelId, hmatches⟩

def authorizes (allowed : List String) (channels : List Json) (program : Json) :
    Except Panic Bool :=
  if hasAllowedTuner allowed program then .ok true
  else
    (program.stringFields ["ChannelId", "JellyrinChannelId"]).anyM fun channelId =>
      (allowedChannelIds channels allowed).anyM (jellyfinIdMatches · channelId)

theorem authorizes_eq (allowed : List String) (channels : List Json) (program : Json) :
    authorizes allowed channels program =
      if hasAllowedTuner allowed program then .ok true
      else (comparedIds allowed channels program).anyM fun ids =>
        jellyfinIdMatches ids.1 ids.2 := by
  rw [authorizes, comparedIds, anyM_flatMap]
  simp only [anyM_map]
  rfl

theorem authorizes_eq_ok_true_iff {program : Json} {authorized : Bool}
    (h : authorizes allowed channels program = .ok authorized) :
    authorized = true ↔
      hasAllowedTuner allowed program = true ∨ HasVisibleChannel allowed channels program := by
  rw [authorizes_eq] at h
  by_cases htuner : hasAllowedTuner allowed program = true
  · rw [if_pos htuner] at h
    cases h
    exact iff_of_true rfl (.inl htuner)
  · rw [if_neg htuner] at h
    rw [of_anyM_eq_ok h, hasVisibleChannel_iff, or_iff_right htuner]

theorem exists_authorizes_iff {program : Json} :
    (∃ authorized, authorizes allowed channels program = .ok authorized) ↔
      IsComparable allowed channels program := by
  rw [authorizes_eq, IsComparable]
  by_cases htuner : hasAllowedTuner allowed program = true
  · rw [if_pos htuner]
    exact iff_of_true ⟨true, rfl⟩ (.inl htuner)
  · rw [if_neg htuner, anyM_eq fun ids : String × String => jellyfinIdMatches_eq ids.1 ids.2,
      exists_onlyIf_eq_ok, or_iff_right htuner]

theorem mem_retainAuthorizedLiveTvPrograms {programs kept : List Json} {program : Json}
    (h : retainAuthorizedLiveTvPrograms programs channels allowed = .ok kept) :
    program ∈ kept ↔ program ∈ programs ∧
      (hasAllowedTuner allowed program = true ∨ HasVisibleChannel allowed channels program) := by
  have hkept := mem_of_filterM (a := program) h
  rw [hkept]
  refine and_congr_right fun hprogram => ?_
  obtain ⟨authorized, hauthorized⟩ := exists_filterM_eq_ok.mp ⟨kept, h⟩ program hprogram
  rw [hauthorized, Except.ok.injEq]
  exact authorizes_eq_ok_true_iff hauthorized

theorem exists_retainAuthorizedLiveTvPrograms_iff {programs : List Json} :
    (∃ kept, retainAuthorizedLiveTvPrograms programs channels allowed = .ok kept) ↔
      ∀ program ∈ programs, IsComparable allowed channels program := by
  refine exists_filterM_eq_ok.trans (forall₂_congr fun program _ => ?_)
  exact exists_authorizes_iff

theorem hasAllowedTuner_iff {item : Json} :
    hasAllowedTuner allowed item = true ↔
      ∃ tunerId, item.stringField "TunerHostId" = some tunerId ∧
        ∃ id ∈ allowed, eqIgnoreAsciiCase id tunerId = true := by
  simp only [hasAllowedTuner, tunerIsAllowed, Option.any_eq_true, List.any_eq_true]

/-- A configured programme is shown by both or by neither if and only if the list does not panic,
and the programme's own tuner is allowed or no channel that the user sees is its channel. -/
theorem list_agrees_with_detail_iff (env : Surroundings) (config : Json) (allowed : List String) :
    ∀ programs, env.liveTvProgramItems config = .ok programs → ∀ program ∈ programs,
      ((∃ kept, retainAuthorizedLiveTvPrograms programs (env.liveTvChannelItems config) allowed =
          .ok kept ∧
        (liveTvItemIsVisibleToTuners program (some allowed) = true ↔ program ∈ kept)) ↔
        (∀ other ∈ programs, IsComparable allowed (env.liveTvChannelItems config) other) ∧
          ((∃ tunerId, program.stringField "TunerHostId" = some tunerId ∧
              ∃ id ∈ allowed, eqIgnoreAsciiCase id tunerId = true) ∨
            ¬HasVisibleChannel allowed (env.liveTvChannelItems config) program)) := by
  intro programs _ program h
  have hsame : ∀ kept, retainAuthorizedLiveTvPrograms programs (env.liveTvChannelItems config)
      allowed = .ok kept → ((liveTvItemIsVisibleToTuners program (some allowed) = true ↔
        program ∈ kept) ↔ hasAllowedTuner allowed program = true ∨
          ¬HasVisibleChannel allowed (env.liveTvChannelItems config) program) := by
    intro kept hkept
    rw [mem_retainAuthorizedLiveTvPrograms hkept]
    simp only [liveTvItemIsVisibleToTuners, Option.all_some, h, true_and]
    by_cases htuner : hasAllowedTuner allowed program = true
    · simp [htuner]
    · simp [htuner]
  rw [← exists_retainAuthorizedLiveTvPrograms_iff, ← hasAllowedTuner_iff]
  constructor
  · rintro ⟨kept, hkept, hagree⟩
    exact ⟨⟨kept, hkept⟩, (hsame kept hkept).mp hagree⟩
  · rintro ⟨⟨kept, hkept⟩, htuner⟩
    exact ⟨kept, hkept, (hsame kept hkept).mpr htuner⟩

def plainSurroundings : Surroundings :=
  ⟨"server", 0, fun _ => none, fun _ => "1970-01-01T00:00:00Z", fun _ => none⟩

def listingConfig : Json := Json.ofFields [
  ("ListingProviders", .array [Json.ofFields [("Id", .string "guide"),
    ("Programs", .array [Json.ofFields [("Id", .string "1"), ("ChannelId", .string "5")]])]]),
  ("TunerHosts", .array [Json.ofFields [("Id", .string "tuner"),
    ("Channels", .array [Json.ofFields [("Id", .string "5")]])]])]

def listedPrograms : List Json :=
  (plainSurroundings.liveTvProgramItems listingConfig).toOption.getD []

theorem liveTvProgramItems_listingConfig :
    plainSurroundings.liveTvProgramItems listingConfig = .ok listedPrograms := by
  have hlisted : (plainSurroundings.liveTvProgramItems listingConfig).toOption.isSome = true := by
    decide +kernel
  obtain ⟨programs, hprograms⟩ := Option.isSome_iff_exists.mp hlisted
  rw [listedPrograms, hprograms]
  exact mem_toOption.mp hprograms

def listedProgram : Json := listedPrograms.head?.getD .null

theorem mem_listedProgram : listedProgram ∈ listedPrograms := by
  have hlisted : listedPrograms.head?.isSome = true := by decide +kernel
  obtain ⟨program, hprogram⟩ := Option.isSome_iff_exists.mp hlisted
  rw [listedProgram, hprogram]
  exact List.mem_of_head? hprogram

theorem agrees_on_listedProgram :
    ∃ kept, retainAuthorizedLiveTvPrograms listedPrograms
        (plainSurroundings.liveTvChannelItems listingConfig) ["guide"] = .ok kept ∧
      (liveTvItemIsVisibleToTuners listedProgram (some ["guide"]) = true ↔
        listedProgram ∈ kept) := by
  have htuner : ∀ program ∈ listedPrograms, hasAllowedTuner ["guide"] program = true := by
    have hall : listedPrograms.all (hasAllowedTuner ["guide"]) = true := by decide +kernel
    exact List.all_eq_true.mp hall
  refine (list_agrees_with_detail_iff plainSurroundings listingConfig ["guide"] _
    liveTvProgramItems_listingConfig _ mem_listedProgram).mpr ⟨?_, .inl ?_⟩
  · exact fun program hprogram => .inl (htuner program hprogram)
  · exact hasAllowedTuner_iff.mp (htuner listedProgram mem_listedProgram)

/-- The list keeps the programme for a user of the tuner, and the detail view refuses it. -/
theorem listedProgram_is_refused :
    retainAuthorizedLiveTvPrograms listedPrograms
        (plainSurroundings.liveTvChannelItems listingConfig) ["tuner"] = .ok [listedProgram] ∧
      liveTvItemIsVisibleToTuners listedProgram (some ["tuner"]) = false ∧
      plainSurroundings.liveTvProgram ⟨some listingConfig, [], []⟩ (some ["tuner"]) "1" =
        .error (.notFound "Live TV item not found") := by
  refine ⟨?_, ?_, ?_⟩
  · decide +kernel
  · decide +kernel
  · decide +kernel

end Jellyrin.LiveTv.Guide
