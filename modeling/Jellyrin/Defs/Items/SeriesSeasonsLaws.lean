import Jellyrin.Defs.Items.SeriesSeasons

/-! Which seasons open with the episodes that they count. -/

namespace Jellyrin.Items

open Api Ascii ClientIds Text Metadata

/-! Seasons that are gathered. -/

section Gathered

variable {fmt : ItemFormats} {metadata : Uuid → Option Json} {played : MediaItem → Bool}
  {episodes : List MediaItem} {seriesName seriesId : String}

variable (fmt metadata) in
def storedSeasonId (episode : MediaItem) : Option String :=
  fmt.ownUuid (metadata episode.id) "SeasonId"

variable (fmt metadata) in
def seasonIdIsReadable (episode : MediaItem) : Bool :=
  fmt.uuidIsReadable (metadata episode.id) "SeasonId"

variable (fmt metadata played) in
def TvSeasonSummary.withEpisode (summary : TvSeasonSummary) (episode : MediaItem) :
    TvSeasonSummary :=
  summary.count played episode (summary.id.or (storedSeasonId fmt metadata episode))

variable (fmt metadata played) in
def knownSeasons (episodes : List MediaItem) : TvSeasons :=
  gather (fun episode => (episodeSeasonNumber fmt metadata episode : WithBot Int))
    TvSeasonSummary.new (TvSeasonSummary.withEpisode fmt metadata played) episodes

theorem addEpisode_eq (summary : TvSeasonSummary) (episode : MediaItem) :
    summary.addEpisode fmt metadata played episode = onlyIf .charBoundary
      (summary.id.isSome || seasonIdIsReadable fmt metadata episode)
      (summary.withEpisode fmt metadata played episode) := by
  rw [TvSeasonSummary.addEpisode, TvSeasonSummary.withEpisode]
  cases summary.id with
  | some id => rfl
  | none =>
    dsimp only
    rw [ItemFormats.metadataUuid_eq, map_onlyIf]
    rfl

variable (fmt metadata played) in
theorem foldl_withEpisode (episodes : List MediaItem) (summary : TvSeasonSummary) :
    (episodes.foldl (TvSeasonSummary.withEpisode fmt metadata played) summary).id =
        summary.id.or (episodes.findSome? (storedSeasonId fmt metadata)) ∧
      (episodes.foldl (TvSeasonSummary.withEpisode fmt metadata played) summary).seasonNumber =
        summary.seasonNumber ∧
      (episodes.foldl (TvSeasonSummary.withEpisode fmt metadata played) summary).episodeCount =
        summary.episodeCount + episodes.length ∧
      (episodes.foldl (TvSeasonSummary.withEpisode fmt metadata played) summary).counted =
        summary.counted ++ episodes := by
  induction episodes generalizing summary with
  | nil => simp
  | cons episode episodes ih =>
    obtain ⟨hid, hnumber, hcount, hcounted⟩ :=
      ih (summary.withEpisode fmt metadata played episode)
    rw [List.foldl_cons, hid, hnumber, hcount, hcounted]
    refine ⟨?_, rfl, ?_, ?_⟩
    · rw [TvSeasonSummary.withEpisode, TvSeasonSummary.count, Option.or_assoc, List.findSome?_cons]
      cases storedSeasonId fmt metadata episode <;> rfl
    · change summary.episodeCount + 1 + episodes.length = _
      rw [List.length_cons]
      omega
    · rw [TvSeasonSummary.withEpisode, TvSeasonSummary.count, List.append_assoc]
      rfl

variable (fmt metadata episodes) in
def numbered (number : Option Int) : List MediaItem :=
  episodes.filter fun episode => episodeSeasonNumber fmt metadata episode = number

variable (fmt metadata) in
def seasonIsRead (episodes : List MediaItem) : Bool :=
  reaches (seasonIdIsReadable fmt metadata) (fun episode =>
    (storedSeasonId fmt metadata episode).isSome) episodes

theorem foldIsSafe_withEpisode (summary : TvSeasonSummary) (episodes : List MediaItem) :
    foldIsSafe (fun summary episode => summary.id.isSome || seasonIdIsReadable fmt metadata episode)
        (TvSeasonSummary.withEpisode fmt metadata played) summary episodes =
      (summary.id.isSome || seasonIsRead fmt metadata episodes) := by
  induction episodes generalizing summary with
  | nil => exact (Bool.or_true _).symm
  | cons episode episodes ih =>
    rw [foldIsSafe, ih, TvSeasonSummary.withEpisode, TvSeasonSummary.count, seasonIsRead,
      seasonIsRead, reaches, Option.isSome_or]
    cases summary.id with
    | some id => rfl
    | none => rfl

variable (fmt metadata) in
def SeasonsAreRead (episodes : List MediaItem) : Prop :=
  ∀ episode ∈ episodes, seasonIsRead fmt metadata
    (numbered fmt metadata episodes (episodeSeasonNumber fmt metadata episode)) = true

instance : Decidable (SeasonsAreRead fmt metadata episodes) :=
  inferInstanceAs (Decidable (∀ _ ∈ _, _))

theorem gatheredSeasons_eq :
    gatheredSeasons fmt metadata played episodes =
      onlyIf .charBoundary (decide (SeasonsAreRead fmt metadata episodes))
        (knownSeasons fmt metadata played episodes) := by
  refine (gatherM_eq (K := WithBot Int) addEpisode_eq episodes).trans ?_
  congr 1
  rw [Bool.eq_iff_iff, List.all_eq_true, decide_eq_true_iff]
  refine forall₂_congr fun episode _ => ?_
  exact Bool.eq_iff_iff.mp (foldIsSafe_withEpisode _ _)

variable (fmt metadata episodes seriesName) in
def announcedSeasonId (number : Option Int) : String :=
  ((numbered fmt metadata episodes number).findSome? (storedSeasonId fmt metadata)).getD
    (ItemFormats.tvSeasonId seriesName number)

variable (fmt metadata episodes seriesName) in
structure Announces (number : Option Int) (season : TvSeasonItem) : Prop where
  id : season.id = announcedSeasonId fmt metadata episodes seriesName number
  childCount : season.childCount = season.counted.length
  counted : season.counted = numbered fmt metadata episodes number

theorem lookup_knownSeasons (number : Option Int) :
    (knownSeasons fmt metadata played episodes).lookup number =
      if (numbered fmt metadata episodes number).isEmpty then none
      else some ((numbered fmt metadata episodes number).foldl
        (TvSeasonSummary.withEpisode fmt metadata played) (.new number)) :=
  lookup_gather (K := WithBot Int) episodes number

theorem of_lookup_knownSeasons {number : Option Int} {summary : TvSeasonSummary}
    (h : (knownSeasons fmt metadata played episodes).lookup number = some summary) :
    ∃ episode ∈ episodes, episodeSeasonNumber fmt metadata episode = number ∧
      Announces fmt metadata episodes seriesName number
        (tvSeasonItem seriesName seriesId summary) := by
  rw [lookup_knownSeasons] at h
  split at h
  · cases h
  · rename_i hrows
    obtain ⟨episode, hepisode⟩ :=
      List.exists_mem_of_ne_nil _ fun hnil => hrows (List.isEmpty_iff.mpr hnil)
    obtain ⟨hmem, hnumber⟩ := List.mem_filter.mp hepisode
    obtain ⟨hid, hseason, hcount, hcounted⟩ := foldl_withEpisode fmt metadata played
      (numbered fmt metadata episodes number) (.new number)
    cases h
    refine ⟨episode, hmem, of_decide_eq_true hnumber, ?_, ?_, ?_⟩
    · rw [tvSeasonItem, hid, hseason]
      rfl
    · rw [tvSeasonItem, hcount, hcounted]
      exact Nat.zero_add _
    · exact hcounted

theorem exists_lookup_knownSeasons {episode : MediaItem} (h : episode ∈ episodes) :
    ∃ summary, (knownSeasons fmt metadata played episodes).lookup
      (episodeSeasonNumber fmt metadata episode) = some summary := by
  have hmem : episode ∈ numbered fmt metadata episodes
      (episodeSeasonNumber fmt metadata episode) :=
    List.mem_filter.mpr ⟨h, decide_eq_true rfl⟩
  rw [lookup_knownSeasons, if_neg]
  · exact ⟨_, rfl⟩
  · intro hempty
    rw [List.isEmpty_iff.mp hempty] at hmem
    cases hmem

end Gathered

/-! Seasons that are shown. -/

section Shown

variable {seasons : TvSeasons} {seriesName seriesId : String} {number : Option Int}
  {shown summary : TvSeasonSummary}

variable (seriesName) in
structure ShowsAs (shown summary : TvSeasonSummary) : Prop where
  id : shown.id.getD (ItemFormats.tvSeasonId seriesName shown.seasonNumber) =
    summary.id.getD (ItemFormats.tvSeasonId seriesName summary.seasonNumber)
  episodeCount : shown.episodeCount = summary.episodeCount
  counted : shown.counted = summary.counted

theorem ShowsAs.announces {fmt : ItemFormats} {metadata : Uuid → Option Json}
    {episodes : List MediaItem} (h : ShowsAs seriesName shown summary)
    (hsummary : Announces fmt metadata episodes seriesName number
      (tvSeasonItem seriesName seriesId summary)) :
    Announces fmt metadata episodes seriesName number
      (tvSeasonItem seriesName seriesId shown) where
  id := h.id.trans hsummary.id
  childCount := by
    have hcount : summary.episodeCount = summary.counted.length := hsummary.childCount
    change shown.episodeCount = shown.counted.length
    rw [h.episodeCount, hcount, h.counted]
  counted := h.counted.trans hsummary.counted

theorem presentUnnumberedSeasonAsFirst_cases (seasons : TvSeasons) (seriesName : String) :
    presentUnnumberedSeasonAsFirst seasons seriesName = seasons ∨
      ∃ summary, seasons.lookup (none : Option Int) = some summary ∧
        (∀ number : Option Int, ∀ other, seasons.lookup number = some other → number = none) ∧
        presentUnnumberedSeasonAsFirst seasons seriesName =
          AList.insert (some (1 : Int) : Option Int)
            { summary with
              id := some (summary.id.getD (ItemFormats.tvSeasonId seriesName none))
              seasonNumber := some 1 }
            (seasons.erase (none : Option Int)) := by
  by_cases hsize : HashMap.size seasons = 1
  · cases hnone : seasons.lookup (none : Option Int) with
    | none =>
      refine .inl ?_
      rw [presentUnnumberedSeasonAsFirst, if_neg (not_not.mpr hsize), hnone]
    | some summary =>
      refine .inr ⟨summary, rfl, fun number other hother => ?_, ?_⟩
      · exact HashMap.eq_of_size_eq_one hsize (HashMap.mem_of_lookup hother)
          (HashMap.mem_of_lookup hnone)
      · rw [presentUnnumberedSeasonAsFirst, if_neg (not_not.mpr hsize), hnone]
        rfl
  · exact .inl (if_pos hsize)

theorem showsAs_refl (summary : TvSeasonSummary) : ShowsAs seriesName summary summary :=
  ⟨rfl, rfl, rfl⟩

theorem showsAs_relabelled (h : summary.seasonNumber = none) :
    ShowsAs seriesName { summary with
      id := some (summary.id.getD (ItemFormats.tvSeasonId seriesName none))
      seasonNumber := some 1 } summary where
  id := by rw [h, Option.getD_some]
  episodeCount := rfl
  counted := rfl

theorem exists_lookup_of_shown
    (hnumber : ∀ number : Option Int, ∀ summary, seasons.lookup number = some summary →
      summary.seasonNumber = number)
    (h : shown ∈ (presentUnnumberedSeasonAsFirst seasons seriesName).values) :
    ∃ (number : Option Int) (summary : TvSeasonSummary),
      seasons.lookup number = some summary ∧ ShowsAs seriesName shown summary := by
  obtain ⟨key, hkey⟩ := BTreeMap.mem_values.mp h
  obtain heq | ⟨summary, hsummary, hall, heq⟩ :=
    presentUnnumberedSeasonAsFirst_cases seasons seriesName
  · rw [heq] at hkey
    exact ⟨key, shown, hkey, showsAs_refl shown⟩
  · rw [heq] at hkey
    obtain ⟨-, rfl⟩ | ⟨-, hrest⟩ := HashMap.lookup_insert_eq_some.mp hkey
    · exact ⟨none, summary, hsummary, showsAs_relabelled (hnumber none summary hsummary)⟩
    · obtain ⟨hne, hrest⟩ := HashMap.lookup_erase_eq_some.mp hrest
      exact absurd (hall key shown hrest) hne

theorem exists_shown_of_lookup
    (hnumber : ∀ number : Option Int, ∀ summary, seasons.lookup number = some summary →
      summary.seasonNumber = number) (h : seasons.lookup number = some summary) :
    ∃ shown ∈ (presentUnnumberedSeasonAsFirst seasons seriesName).values,
      ShowsAs seriesName shown summary := by
  obtain heq | ⟨other, hother, hall, heq⟩ :=
    presentUnnumberedSeasonAsFirst_cases seasons seriesName
  · rw [heq]
    exact ⟨summary, BTreeMap.mem_values.mpr ⟨number, h⟩, showsAs_refl summary⟩
  · obtain rfl := hall number summary h
    cases hother.symm.trans h
    refine ⟨_, BTreeMap.mem_values.mpr ⟨some (1 : Int), ?_⟩,
      showsAs_relabelled (hnumber none summary h)⟩
    rw [heq]
    exact AList.lookup_insert _

end Shown

section Items

variable {fmt : ItemFormats} {metadata : Uuid → Option Json} {played : MediaItem → Bool}
  {episodes : List MediaItem} {seriesName seriesId : String}

theorem seasonNumber_of_lookup {number : Option Int} {summary : TvSeasonSummary}
    (h : (knownSeasons fmt metadata played episodes).lookup number = some summary) :
    summary.seasonNumber = number := by
  rw [lookup_knownSeasons] at h
  split at h
  · cases h
  · cases h
    exact (foldl_withEpisode fmt metadata played _ _).2.1

theorem exists_episode_of_season {season : TvSeasonItem}
    (h : season ∈ seasonsToItems (knownSeasons fmt metadata played episodes) seriesName seriesId) :
    ∃ episode ∈ episodes, Announces fmt metadata episodes seriesName
      (episodeSeasonNumber fmt metadata episode) season := by
  obtain ⟨shown, hshown, rfl⟩ := List.mem_map.mp (mem_sortBy.mp h)
  obtain ⟨number, summary, hlookup, hshows⟩ :=
    exists_lookup_of_shown (fun _ _ => seasonNumber_of_lookup) hshown
  obtain ⟨episode, hepisode, hnumber, hannounces⟩ := of_lookup_knownSeasons hlookup
  refine ⟨episode, hepisode, ?_⟩
  rw [hnumber]
  exact hshows.announces hannounces

variable (played seriesName seriesId) in
theorem exists_season_of_episode {episode : MediaItem} (h : episode ∈ episodes) :
    ∃ season ∈ seasonsToItems (knownSeasons fmt metadata played episodes) seriesName seriesId,
      Announces fmt metadata episodes seriesName (episodeSeasonNumber fmt metadata episode)
        season := by
  obtain ⟨summary, hlookup⟩ := exists_lookup_knownSeasons h
  obtain ⟨shown, hshown, hshows⟩ := exists_shown_of_lookup
    (fun _ _ => seasonNumber_of_lookup) hlookup
  obtain ⟨-, -, -, hannounces⟩ := of_lookup_knownSeasons hlookup
  exact ⟨_, mem_sortBy.mpr (List.mem_map_of_mem hshown), hshows.announces hannounces⟩

end Items

/-! Episodes that a season opens with. -/

section Opened

variable {fmt : ItemFormats} {metadata : Uuid → Option Json} {episodes : List MediaItem}
  {seriesName : String} {episode : MediaItem} {id : String}

variable (fmt metadata) in
def derivedSeasonId (episode : MediaItem) : Option String :=
  (fmt.tvEpisodeInfoWithMetadata episode (metadata episode.id)).map fun info =>
    ItemFormats.tvSeasonId info.seriesName info.seasonNumber

variable (fmt metadata) in
def HasSeasonId (episode : MediaItem) (id : String) : Prop :=
  storedSeasonId fmt metadata episode = some id ∨ derivedSeasonId fmt metadata episode = some id

instance (episode : MediaItem) (id : String) : Decidable (HasSeasonId fmt metadata episode id) :=
  inferInstanceAs (Decidable (_ ∨ _))

theorem exists_simple_ownUuid {value : Option Json} {key : String}
    (h : fmt.ownUuid value key = some id) : ∃ uuid : Uuid, id = uuid.simple := by
  obtain ⟨text, -, h⟩ := Option.bind_eq_some_iff.mp h
  obtain ⟨uuid, -, rfl⟩ := Option.map_eq_some_iff.mp h
  exact ⟨uuid, rfl⟩

variable (fmt metadata episodes seriesName) in
theorem exists_simple_announcedSeasonId (number : Option Int) :
    ∃ uuid : Uuid, announcedSeasonId fmt metadata episodes seriesName number = uuid.simple := by
  rw [announcedSeasonId]
  cases hfirst : (numbered fmt metadata episodes number).findSome?
      (storedSeasonId fmt metadata) with
  | none => exact exists_simple_stableEntityId _ _
  | some id =>
    obtain ⟨episode, -, hid⟩ := List.exists_of_findSome?_eq_some hfirst
    exact exists_simple_ownUuid hid

theorem tvEpisodeMatchesSeason_simple (uuid : Uuid)
    (h : (fmt.tvEpisodeInfo episode).isSome = true) :
    fmt.tvEpisodeMatchesSeason episode (metadata episode.id) uuid.simple =
      onlyIf .charBoundary (seasonIdIsReadable fmt metadata episode)
        (decide (HasSeasonId fmt metadata episode uuid.simple)) := by
  obtain ⟨info, hinfo⟩ : ∃ info,
      fmt.tvEpisodeInfoWithMetadata episode (metadata episode.id) = some info := by
    rw [← Option.isSome_iff_exists, ItemFormats.tvEpisodeInfoWithMetadata, Option.isSome_map, h]
  obtain ⟨derived, hderived⟩ := exists_simple_stableEntityId "Season"
    (info.seriesName ++ ":" ++ (info.seasonNumber.map toString).getD "unknown")
  have hderived : ItemFormats.tvSeasonId info.seriesName info.seasonNumber = derived.simple :=
    hderived
  rw [ItemFormats.tvEpisodeMatchesSeason_eq, h, Bool.not_true, Bool.false_or,
    decide_eq_true (isSliceable_simple uuid), Bool.and_true, seasonIdIsReadable]
  congr 1
  rw [Bool.eq_iff_iff, decide_eq_true_iff, HasSeasonId, derivedSeasonId, hinfo, Option.map_some,
    hderived, Option.any_some, ItemFormats.ownSeasonId, hderived, Bool.or_eq_true,
    Uuid.agree_simple derived, decide_eq_true_iff, Option.some.injEq]
  change Uuid.agree ((storedSeasonId fmt metadata episode).getD _) _ = true ∨ _ ↔ _
  cases hown : storedSeasonId fmt metadata episode with
  | none =>
    rw [Option.getD_none, Uuid.agree_simple, decide_eq_true_iff]
    simp
  | some own =>
    obtain ⟨own, rfl⟩ := exists_simple_ownUuid hown
    rw [Option.getD_some, Uuid.agree_simple, decide_eq_true_iff, Option.some.injEq]

variable (fmt metadata) in
/-- The episodes of a number, and no others, have the identifier that is announced for it. -/
structure SeasonsAreTold (episodes : List MediaItem) : Prop where
  readable : ∀ episode ∈ episodes, seasonIdIsReadable fmt metadata episode = true
  own : ∀ episode ∈ episodes, HasSeasonId fmt metadata episode
    (announcedSeasonId fmt metadata episodes
      ((firstSeriesName fmt metadata episodes).getD "") (episodeSeasonNumber fmt metadata episode))
  others : ∀ episode ∈ episodes, ∀ other ∈ episodes,
    episodeSeasonNumber fmt metadata other ≠ episodeSeasonNumber fmt metadata episode →
    ¬HasSeasonId fmt metadata other (announcedSeasonId fmt metadata episodes
      ((firstSeriesName fmt metadata episodes).getD "") (episodeSeasonNumber fmt metadata episode))

variable (fmt metadata) in
def OpensWithCounted (episodes : List MediaItem) (season : TvSeasonItem) : Prop :=
  episodes.filterM (fun episode =>
    fmt.tvEpisodeMatchesSeason episode (metadata episode.id) season.id) = .ok season.counted

theorem filterM_congr {ε α : Type} {f g : α → Except ε Bool} {l : List α}
    (h : ∀ a ∈ l, f a = g a) : l.filterM f = l.filterM g := by
  induction l with
  | nil => rfl
  | cons a l ih =>
    rw [filterM_cons, filterM_cons, h a List.mem_cons_self,
      ih fun b hb => h b (List.mem_cons_of_mem a hb)]

theorem opensWithCounted_iff {number : Option Int} {season : TvSeasonItem}
    (hepisodes : ∀ episode ∈ episodes, (fmt.tvEpisodeInfo episode).isSome = true)
    (h : Announces fmt metadata episodes seriesName number season) :
    OpensWithCounted fmt metadata episodes season ↔
      (∀ episode ∈ episodes, seasonIdIsReadable fmt metadata episode = true) ∧
        ∀ episode ∈ episodes, HasSeasonId fmt metadata episode
          (announcedSeasonId fmt metadata episodes seriesName number) ↔
            episodeSeasonNumber fmt metadata episode = number := by
  obtain ⟨uuid, huuid⟩ := exists_simple_announcedSeasonId fmt metadata episodes seriesName number
  rw [OpensWithCounted, h.id, h.counted, numbered, huuid, filterM_congr fun episode hepisode =>
    tvEpisodeMatchesSeason_simple uuid (hepisodes episode hepisode), filterM_eq fun _ => rfl,
    onlyIf_eq_ok, List.all_eq_true, filter_eq_filter_iff]
  refine and_congr_right fun _ => forall₂_congr fun episode _ => ?_
  rw [decide_eq_decide]

end Opened

section Listing

variable {fmt : ItemFormats} {store : CatalogStore} {allowed : Option (List String)}
  {seriesId : String} {episodes : List MediaItem}

theorem of_mem_seriesEpisodes (h : seriesEpisodes fmt store allowed seriesId = .ok episodes)
    {episode : MediaItem} (hepisode : episode ∈ episodes) :
    (fmt.tvEpisodeInfo episode).isSome = true ∧
      fmt.uuidIsReadable (store.metadata episode.id) "SeriesId" = true := by
  obtain ⟨⟨items, id⟩, -, h⟩ := exists_of_bind_eq_ok h
  have hmatches := ((mem_of_filterM h).mp hepisode).2
  rw [ItemFormats.tvEpisodeMatchesSeries_eq, onlyIf_eq_ok] at hmatches
  cases hinfo : fmt.tvEpisodeInfo episode with
  | none =>
    rw [hinfo] at hmatches
    cases hmatches.2
  | some info =>
    rw [hinfo, Option.isSome_some, Bool.not_true, Bool.false_or, Bool.and_eq_true] at hmatches
    exact ⟨rfl, hmatches.1.1⟩

theorem exists_firstSeriesName (h : seriesEpisodes fmt store allowed seriesId = .ok episodes)
    {episode : MediaItem} (hepisode : episode ∈ episodes) :
    ∃ seriesName, firstSeriesName fmt store.metadata episodes = some seriesName := by
  rw [← Option.isSome_iff_exists, firstSeriesName, List.findSome?_isSome_iff]
  refine ⟨episode, hepisode, ?_⟩
  rw [Option.isSome_map, ItemFormats.tvEpisodeInfoWithMetadata, Option.isSome_map,
    (of_mem_seriesEpisodes h hepisode).1]

theorem exists_firstSeriesId (h : seriesEpisodes fmt store allowed seriesId = .ok episodes) :
    ∃ id, firstSeriesId fmt store.metadata episodes = .ok id := by
  rw [firstSeriesId, findSomeM?_eq fun episode => ItemFormats.metadataUuid_eq _ _,
    exists_onlyIf_eq_ok]
  refine reaches_of_all (List.all_eq_true.mpr fun episode hepisode => ?_)
  exact (of_mem_seriesEpisodes h hepisode).2

theorem mem_seasonItems_of_page {query : ItemsQuery} {requestedUserId : Uuid}
    {page : QueryResult TvSeasonItem} {season : TvSeasonItem}
    (hpage : seriesSeasonsResult fmt store query seriesId requestedUserId = .ok page)
    (hseason : season ∈ page.items) :
    ∃ episodes seriesName id,
      seriesEpisodes fmt store query.allowedPluginTunerIds seriesId = .ok episodes ∧
      firstSeriesName fmt store.metadata episodes = some seriesName ∧
      SeasonsAreRead fmt store.metadata episodes ∧
      season ∈ seasonsToItems (knownSeasons fmt store.metadata (isPlayed store requestedUserId)
        episodes) seriesName id := by
  obtain ⟨episodes, hepisodes, hpage⟩ := exists_of_bind_eq_ok hpage
  replace hepisodes : seriesEpisodes fmt store query.allowedPluginTunerIds seriesId =
    .ok episodes := of_lift_eq_ok hepisodes
  cases hname : firstSeriesName fmt store.metadata episodes with
  | none =>
    rw [hname] at hpage
    cases hpage
  | some seriesName =>
    rw [hname] at hpage
    obtain ⟨id, -, hpage⟩ := exists_of_bind_eq_ok hpage
    obtain ⟨gathered, hgathered, hpage⟩ := exists_of_bind_eq_ok hpage
    replace hgathered := of_lift_eq_ok hgathered
    rw [gatheredSeasons_eq, onlyIf_eq_ok] at hgathered
    obtain ⟨hread, rfl⟩ := hgathered
    cases hpage
    refine ⟨episodes, seriesName, id.getD (ItemFormats.tvSeriesId seriesName), hepisodes, hname,
      of_decide_eq_true hread, ?_⟩
    simp only at hseason
    split at hseason
    · exact List.mem_of_mem_drop (List.mem_of_mem_take hseason)
    · exact List.mem_of_mem_drop hseason

theorem exists_page_of_seasonItems (requestedUserId : Uuid) {seriesName : String}
    (h : seriesEpisodes fmt store allowed seriesId = .ok episodes)
    (hname : firstSeriesName fmt store.metadata episodes = some seriesName)
    (hread : SeasonsAreRead fmt store.metadata episodes) :
    ∃ id page, seriesSeasonsResult fmt store (({} : ItemsQuery).withTuners allowed) seriesId
        requestedUserId = .ok page ∧
      page.items = seasonsToItems (knownSeasons fmt store.metadata
        (isPlayed store requestedUserId) episodes) seriesName id := by
  obtain ⟨id, hid⟩ := exists_firstSeriesId h
  have hgathered : gatheredSeasons fmt store.metadata (isPlayed store requestedUserId) episodes =
      .ok (knownSeasons fmt store.metadata (isPlayed store requestedUserId) episodes) := by
    rw [gatheredSeasons_eq, decide_eq_true hread, onlyIf_true]
  refine ⟨id.getD (ItemFormats.tvSeriesId seriesName), ?_⟩
  have hallowed : (({} : ItemsQuery).withTuners allowed).allowedPluginTunerIds = allowed := rfl
  rw [seriesSeasonsResult, hallowed, h]
  simp only [lift_ok, ok_bind, hname, hid, hgathered]
  exact ⟨_, rfl, rfl⟩

/-- Every season that is listed, on whatever page, opens with the episodes that it counts just when
the identifiers tell the numbers apart, or the list stops at one that cannot be read. -/
theorem advertised_seasons_open_iff (fmt : ItemFormats) (store : CatalogStore)
    (allowed : Option (List String)) (seriesId : String) (requestedUserId : Uuid) :
    (∀ (query : ItemsQuery) page, query.allowedPluginTunerIds = allowed →
      seriesSeasonsResult fmt store query seriesId requestedUserId = .ok page →
        ∀ season ∈ page.items, ∃ episodes,
          seriesEpisodes fmt store allowed seriesId = .ok episodes ∧
            OpensWithCounted fmt store.metadata episodes season) ↔
      ∀ episodes, seriesEpisodes fmt store allowed seriesId = .ok episodes →
        SeasonsAreTold fmt store.metadata episodes ∨ ¬SeasonsAreRead fmt store.metadata episodes := by
  constructor
  · intro hopen episodes hepisodes
    by_cases hread : SeasonsAreRead fmt store.metadata episodes
    · refine .inl ?_
      have hinfo : ∀ episode ∈ episodes, (fmt.tvEpisodeInfo episode).isSome = true :=
        fun episode hepisode => (of_mem_seriesEpisodes hepisodes hepisode).1
      have hseason : ∀ episode ∈ episodes,
          (∀ other ∈ episodes, seasonIdIsReadable fmt store.metadata other = true) ∧
          ∀ other ∈ episodes,
            (HasSeasonId fmt store.metadata other (announcedSeasonId fmt store.metadata episodes
              ((firstSeriesName fmt store.metadata episodes).getD "")
                (episodeSeasonNumber fmt store.metadata episode)) ↔
            episodeSeasonNumber fmt store.metadata other =
              episodeSeasonNumber fmt store.metadata episode) := by
        intro episode hepisode
        obtain ⟨seriesName, hname⟩ := exists_firstSeriesName hepisodes hepisode
        obtain ⟨id, page, hpage, hitems⟩ :=
          exists_page_of_seasonItems requestedUserId hepisodes hname hread
        obtain ⟨season, hseason, hannounces⟩ :=
          exists_season_of_episode (isPlayed store requestedUserId) seriesName id hepisode
        obtain ⟨opened, hopened, hopens⟩ := hopen _ page rfl hpage season (hitems ▸ hseason)
        cases hepisodes.symm.trans hopened
        rw [hname, Option.getD_some]
        exact (opensWithCounted_iff hinfo hannounces).mp hopens
      exact ⟨fun episode hepisode => (hseason episode hepisode).1 episode hepisode,
        fun episode hepisode => ((hseason episode hepisode).2 episode hepisode).mpr rfl,
        fun episode hepisode other hother hne hhas =>
          hne (((hseason episode hepisode).2 other hother).mp hhas)⟩
    · exact .inr hread
  · rintro htold query page rfl hpage season hseason
    obtain ⟨episodes, seriesName, id, hepisodes, hname, hread, hseason⟩ :=
      mem_seasonItems_of_page hpage hseason
    obtain ⟨hreadable, hown, hothers⟩ :=
      (htold episodes hepisodes).resolve_right (not_not.mpr hread)
    have hinfo : ∀ episode ∈ episodes, (fmt.tvEpisodeInfo episode).isSome = true :=
      fun episode hepisode => (of_mem_seriesEpisodes hepisodes hepisode).1
    obtain ⟨episode, hepisode, hannounces⟩ := exists_episode_of_season hseason
    rw [hname, Option.getD_some] at hown hothers
    refine ⟨episodes, hepisodes, (opensWithCounted_iff hinfo hannounces).mpr
      ⟨hreadable, fun other hother => ⟨fun hhas => ?_, ?_⟩⟩⟩
    · by_contra hne
      exact hothers episode hepisode other hother hne hhas
    · intro hnumber
      rw [← hnumber]
      exact hown other hother

end Listing

def episodeNamed (id : Uuid) (name : String) : MediaItem :=
  { itemNamed 0 name with
    id
    path := "/tv/Show/" ++ name
    collectionType := some "tvshows" }

def storeOfTwoSeasonIds : CatalogStore where
  folders := [{ id := 0, name := "TV", collectionType := some "tvshows", locations := [] }]
  metadata id := some (.object [("ParentIndexNumber", .number 1), ("SeasonId", .string id.simple)])
  playback _ _ := none
  items := [episodeNamed 1 "Pilot", episodeNamed 2 "Finale"]
  userConfiguration _ := none
  distinct := by decide
  inFolders := by decide

theorem season_opens_with_one_of_two :
    (seriesEpisodes pathFormats storeOfTwoSeasonIds none (ItemFormats.tvSeriesId "Show")) =
        .ok [episodeNamed 1 "Pilot", episodeNamed 2 "Finale"] ∧
      (seriesSeasonsResult pathFormats storeOfTwoSeasonIds {} (ItemFormats.tvSeriesId "Show")
        5).toOption.map (fun page => page.items.map fun season =>
          (season.childCount, ([episodeNamed 1 "Pilot", episodeNamed 2 "Finale"].filterM
            fun episode => pathFormats.tvEpisodeMatchesSeason episode
              (storeOfTwoSeasonIds.metadata episode.id) season.id).toOption)) =
        some [(2, some [episodeNamed 1 "Pilot"])] := by
  refine ⟨?_, ?_⟩ <;> decide +kernel

end Jellyrin.Items
