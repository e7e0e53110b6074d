import Jellyrin.Defs.Items.FilteredItemsLaws
import Jellyrin.Defs.Items.SeriesGroups

/-! Which seasons and series lead back to their episodes. -/

namespace Jellyrin.Items

open Api Ascii ClientIds Text Metadata

variable {fmt : ItemFormats} {metadata : Uuid → Option Json} {played : MediaItem → Bool}
  {episodes snapshot : List MediaItem} {episode item : MediaItem}

/-! Episodes of a series. -/

variable (fmt) in
def isEpisode (item : MediaItem) : Bool := (fmt.tvEpisodeInfo item).isSome

variable (fmt) in
def pathSeriesName (item : MediaItem) : String :=
  ((fmt.tvEpisodeInfo item).map (·.seriesName)).getD ""

variable (fmt metadata) in
def episodeSeriesId (episode : MediaItem) : Option String :=
  fmt.ownUuid (metadata episode.id) "SeriesId"

variable (fmt metadata) in
def seriesIdIsReadable (episode : MediaItem) : Bool :=
  fmt.uuidIsReadable (metadata episode.id) "SeriesId"

variable (fmt metadata) in
def storedSeriesId (item : MediaItem) : String :=
  (episodeSeriesId fmt metadata item).getD (ItemFormats.tvSeriesId (pathSeriesName fmt item))

theorem exists_simple_storedSeriesId (item : MediaItem) :
    ∃ uuid : Uuid, storedSeriesId fmt metadata item = uuid.simple := by
  rw [storedSeriesId]
  cases hid : episodeSeriesId fmt metadata item with
  | none => exact exists_simple_stableEntityId _ _
  | some id =>
    exact exists_simple_ownUuid hid

theorem tvEpisodeMatchesSeries_simple (uuid : Uuid) (item : MediaItem) :
    fmt.tvEpisodeMatchesSeries item (metadata item.id) uuid.simple = onlyIf .charBoundary
      (!isEpisode fmt item || seriesIdIsReadable fmt metadata item)
      (isEpisode fmt item && decide (storedSeriesId fmt metadata item = uuid.simple)) := by
  obtain ⟨stored, hstored⟩ : ∃ stored : Uuid, storedSeriesId fmt metadata item = stored.simple :=
    exists_simple_storedSeriesId item
  rw [ItemFormats.tvEpisodeMatchesSeries_eq, decide_eq_true (isSliceable_simple uuid),
    Bool.and_true, isEpisode, seriesIdIsReadable]
  congr 1
  cases hinfo : fmt.tvEpisodeInfo item with
  | none => rfl
  | some info =>
    have hid : fmt.ownSeriesId info (metadata item.id) = storedSeriesId fmt metadata item := by
      rw [ItemFormats.ownSeriesId, storedSeriesId, pathSeriesName, hinfo]
      rfl
    rw [Option.any_some, hid, hstored, Uuid.agree_simple, Option.isSome_some, Bool.true_and]

/-! Series that are gathered. -/

variable (fmt metadata played) in
def TvSeriesSummary.withEpisode (summary : TvSeriesSummary) (row : MediaItem × TvEpisodeInfo) :
    TvSeriesSummary :=
  match metadata row.1.id with
  | some value => (summary.count played row).describe fmt value
      (summary.id.or (episodeSeriesId fmt metadata row.1))
  | none => summary.count played row

variable (fmt metadata played) in
def knownSeries (episodes : List MediaItem) : BTreeMap String TvSeriesSummary :=
  gather (·.2.seriesName) .new (TvSeriesSummary.withEpisode fmt metadata played)
    (episodeRows fmt episodes)

theorem addSeriesEpisode_eq (summary : TvSeriesSummary) (row : MediaItem × TvEpisodeInfo) :
    summary.addEpisode fmt metadata played row = onlyIf .charBoundary
      (summary.id.isSome || seriesIdIsReadable fmt metadata row.1)
      (summary.withEpisode fmt metadata played row) := by
  have hid : (summary.count played row).id = summary.id := rfl
  rw [TvSeriesSummary.addEpisode, TvSeriesSummary.withEpisode, seriesIdIsReadable, episodeSeriesId]
  cases metadata row.1.id with
  | none =>
    have hread : fmt.uuidIsReadable none "SeriesId" = true := rfl
    rw [hread, Bool.or_true, onlyIf_true]
  | some value =>
    dsimp only
    rw [TvSeriesSummary.mergeEpisodeMetadata, hid]
    cases summary.id with
    | some id => rfl
    | none =>
      dsimp only
      rw [ItemFormats.canonicalMetadataUuidFromJson_eq, map_onlyIf]
      rfl

variable (fmt metadata played) in
theorem foldl_addSeriesEpisode (rows : List (MediaItem × TvEpisodeInfo))
    (summary : TvSeriesSummary) :
    (rows.foldl (TvSeriesSummary.withEpisode fmt metadata played) summary).id =
        summary.id.or ((rows.map Prod.fst).findSome? (episodeSeriesId fmt metadata)) ∧
      (rows.foldl (TvSeriesSummary.withEpisode fmt metadata played) summary).sourceName =
        summary.sourceName ∧
      (rows.foldl (TvSeriesSummary.withEpisode fmt metadata played) summary).episodeCount =
        summary.episodeCount + rows.length ∧
      (rows.foldl (TvSeriesSummary.withEpisode fmt metadata played) summary).merged =
        summary.merged ++ rows.map Prod.fst := by
  induction rows generalizing summary with
  | nil => simp
  | cons row rows ih =>
    obtain ⟨hid, hname, hcount, hmerged⟩ := ih (summary.withEpisode fmt metadata played row)
    have hadded : (summary.withEpisode fmt metadata played row).id =
          summary.id.or (episodeSeriesId fmt metadata row.1) ∧
        (summary.withEpisode fmt metadata played row).sourceName = summary.sourceName ∧
        (summary.withEpisode fmt metadata played row).episodeCount = summary.episodeCount + 1 ∧
        (summary.withEpisode fmt metadata played row).merged = summary.merged ++ [row.1] := by
      rw [TvSeriesSummary.withEpisode, episodeSeriesId]
      cases metadata row.1.id with
      | none => exact ⟨(Option.or_none ..).symm, rfl, rfl, rfl⟩
      | some value => exact ⟨rfl, rfl, rfl, rfl⟩
    rw [List.foldl_cons, hid, hname, hcount, hmerged, hadded.1, hadded.2.1, hadded.2.2.1,
      hadded.2.2.2]
    refine ⟨?_, rfl, ?_, ?_⟩
    · rw [List.map_cons, List.findSome?_cons, Option.or_assoc]
      cases episodeSeriesId fmt metadata row.1 <;> rfl
    · rw [List.length_cons]
      omega
    · rw [List.map_cons, List.append_assoc]
      rfl

variable (fmt) in
def ofName (episodes : List MediaItem) (name : String) : List MediaItem :=
  (episodes.filter (isEpisode fmt)).filter (pathSeriesName fmt · = name)

variable (fmt) in
theorem map_fst_episodeRows (episodes : List MediaItem) (name : String) :
    ((episodeRows fmt episodes).filter (·.2.seriesName = name)).map Prod.fst =
      ofName fmt episodes name := by
  induction episodes with
  | nil => rfl
  | cons episode episodes ih =>
    rw [ofName] at ih ⊢
    cases hinfo : fmt.tvEpisodeInfo episode with
    | none =>
      rw [List.filter_cons_of_neg (by simp [isEpisode, hinfo]), ← ih, episodeRows,
        List.filterMap_cons, hinfo]
      rfl
    | some info =>
      have hname : pathSeriesName fmt episode = info.seriesName := by
        rw [pathSeriesName, hinfo]
        rfl
      rw [List.filter_cons_of_pos (by simp [isEpisode, hinfo]), List.filter_cons, hname,
        episodeRows, List.filterMap_cons, hinfo, Option.map_some, List.filter_cons]
      by_cases hsame : info.seriesName = name
      · rw [if_pos (decide_eq_true hsame), if_pos (decide_eq_true hsame), List.map_cons, ← ih]
        rfl
      · rw [if_neg (by simpa using hsame), if_neg (by simpa using hsame), ← ih]
        rfl

variable (fmt metadata) in
def seriesIsRead (episodes : List MediaItem) : Bool :=
  reaches (seriesIdIsReadable fmt metadata) (fun episode =>
    (episodeSeriesId fmt metadata episode).isSome) episodes

theorem foldIsSafe_withSeriesEpisode (summary : TvSeriesSummary)
    (rows : List (MediaItem × TvEpisodeInfo)) :
    foldIsSafe (fun summary row => summary.id.isSome || seriesIdIsReadable fmt metadata row.1)
        (TvSeriesSummary.withEpisode fmt metadata played) summary rows =
      (summary.id.isSome || seriesIsRead fmt metadata (rows.map Prod.fst)) := by
  induction rows generalizing summary with
  | nil => exact (Bool.or_true _).symm
  | cons row rows ih =>
    have hid := (foldl_addSeriesEpisode fmt metadata played [row] summary).1
    rw [List.foldl_cons, List.foldl_nil, List.map_singleton, List.findSome?_singleton] at hid
    rw [foldIsSafe, ih, hid, List.map_cons, seriesIsRead, seriesIsRead, reaches, Option.isSome_or]
    cases summary.id with
    | some id => rfl
    | none => rfl

variable (fmt metadata) in
def SeriesAreRead (episodes : List MediaItem) : Prop :=
  ∀ episode ∈ episodes.filter (isEpisode fmt),
    seriesIsRead fmt metadata (ofName fmt episodes (pathSeriesName fmt episode)) = true

instance : Decidable (SeriesAreRead fmt metadata episodes) :=
  inferInstanceAs (Decidable (∀ _ ∈ _, _))

variable (fmt metadata) in
def announcedSeriesId (episodes : List MediaItem) (name : String) : String :=
  ((ofName fmt episodes name).findSome? (episodeSeriesId fmt metadata)).getD
    (ItemFormats.tvSeriesId name)

variable (fmt metadata) in
structure AnnouncesSeries (episodes : List MediaItem) (name : String) (series : TvSeriesItem) :
    Prop where
  id : series.id = announcedSeriesId fmt metadata episodes name
  recursiveItemCount : series.recursiveItemCount = series.merged.length
  merged : series.merged = ofName fmt episodes name

theorem announcesSeries_foldl (episodes : List MediaItem) (name : String) :
    AnnouncesSeries fmt metadata episodes name (tvSeriesItem
      (((episodeRows fmt episodes).filter (·.2.seriesName = name)).foldl
        (TvSeriesSummary.withEpisode fmt metadata played) (.new name))) := by
  obtain ⟨hid, hname, hcount, hmerged⟩ := foldl_addSeriesEpisode fmt metadata played
    ((episodeRows fmt episodes).filter (·.2.seriesName = name)) (.new name)
  rw [map_fst_episodeRows] at hid hmerged
  have hlength := congrArg List.length (map_fst_episodeRows fmt episodes name)
  rw [List.length_map] at hlength
  refine ⟨?_, ?_, hmerged⟩
  · rw [tvSeriesItem, TvSeriesSummary.idText, hid, hname]
    rfl
  · rw [tvSeriesItem, hcount, hmerged, hlength]
    exact Nat.zero_add _

theorem mem_episodeRows {row : MediaItem × TvEpisodeInfo} :
    row ∈ episodeRows fmt episodes ↔
      row.1 ∈ episodes ∧ fmt.tvEpisodeInfo row.1 = some row.2 := by
  rw [episodeRows, List.mem_filterMap]
  constructor
  · rintro ⟨episode, hepisode, hrow⟩
    obtain ⟨info, hinfo, rfl⟩ := Option.map_eq_some_iff.mp hrow
    exact ⟨hepisode, hinfo⟩
  · rintro ⟨hepisode, hinfo⟩
    exact ⟨row.1, hepisode, by rw [hinfo]; rfl⟩

theorem pathSeriesName_eq {info : TvEpisodeInfo} (h : fmt.tvEpisodeInfo item = some info) :
    pathSeriesName fmt item = info.seriesName := by
  rw [pathSeriesName, h]
  rfl

theorem isEpisode_eq {info : TvEpisodeInfo} (h : fmt.tvEpisodeInfo item = some info) :
    isEpisode fmt item = true := by
  rw [isEpisode, h]
  rfl

theorem gatheredSeries_eq :
    gatheredSeries fmt metadata played episodes =
      onlyIf .charBoundary (decide (SeriesAreRead fmt metadata episodes))
        (knownSeries fmt metadata played episodes) := by
  have hkey : ∀ name, keyIsSafe (fun row : MediaItem × TvEpisodeInfo => row.2.seriesName) .new
      (TvSeriesSummary.withEpisode fmt metadata played)
      (fun summary row => summary.id.isSome || seriesIdIsReadable fmt metadata row.1)
      (episodeRows fmt episodes) name = seriesIsRead fmt metadata (ofName fmt episodes name) := by
    intro name
    rw [keyIsSafe, foldIsSafe_withSeriesEpisode, map_fst_episodeRows]
    rfl
  rw [gatheredSeries, gatherM_eq addSeriesEpisode_eq]
  congr 1
  rw [Bool.eq_iff_iff, List.all_eq_true, decide_eq_true_iff, SeriesAreRead]
  simp only [hkey]
  constructor
  · intro h episode hepisode
    obtain ⟨hepisode, hinfo⟩ := List.mem_filter.mp hepisode
    obtain ⟨info, hinfo⟩ := Option.isSome_iff_exists.mp hinfo
    rw [pathSeriesName_eq hinfo]
    exact h (episode, info) (mem_episodeRows.mpr ⟨hepisode, hinfo⟩)
  · intro h row hrow
    obtain ⟨hepisode, hinfo⟩ := mem_episodeRows.mp hrow
    rw [← pathSeriesName_eq hinfo]
    exact h row.1 (List.mem_filter.mpr ⟨hepisode, isEpisode_eq hinfo⟩)

theorem of_mem_knownSeries {summary : TvSeriesSummary}
    (h : summary ∈ (knownSeries fmt metadata played episodes).values) :
    ∃ episode ∈ episodes.filter (isEpisode fmt),
      AnnouncesSeries fmt metadata episodes (pathSeriesName fmt episode)
        (tvSeriesItem summary) := by
  obtain ⟨row, hrow, rfl⟩ := mem_values_gather.mp h
  obtain ⟨hepisode, hinfo⟩ := mem_episodeRows.mp hrow
  refine ⟨row.1, List.mem_filter.mpr ⟨hepisode, isEpisode_eq hinfo⟩, ?_⟩
  rw [pathSeriesName_eq hinfo]
  exact announcesSeries_foldl episodes row.2.seriesName

variable (metadata played) in
theorem exists_mem_knownSeries (h : episode ∈ episodes.filter (isEpisode fmt)) :
    ∃ summary ∈ (knownSeries fmt metadata played episodes).values,
      AnnouncesSeries fmt metadata episodes (pathSeriesName fmt episode)
        (tvSeriesItem summary) := by
  obtain ⟨hepisode, hinfo⟩ := List.mem_filter.mp h
  obtain ⟨info, hinfo⟩ := Option.isSome_iff_exists.mp hinfo
  rw [pathSeriesName_eq hinfo]
  exact ⟨_, mem_values_gather.mpr ⟨(episode, info), mem_episodeRows.mpr ⟨hepisode, hinfo⟩, rfl⟩,
    announcesSeries_foldl episodes info.seriesName⟩

theorem exists_episode_of_series {query : ItemsQuery} {page : QueryResult TvSeriesItem}
    {series : TvSeriesItem}
    (h : groupedSeriesResult fmt metadata played episodes query = .ok page)
    (hseries : series ∈ page.items) :
    SeriesAreRead fmt metadata episodes ∧ ∃ episode ∈ episodes.filter (isEpisode fmt),
      AnnouncesSeries fmt metadata episodes (pathSeriesName fmt episode) series := by
  obtain ⟨grouped, hgrouped, h⟩ := exists_of_bind_eq_ok h
  replace hgrouped := of_lift_eq_ok hgrouped
  rw [gatheredSeries_eq, onlyIf_eq_ok] at hgrouped
  obtain ⟨hread, rfl⟩ := hgrouped
  obtain ⟨requestedIds, -, h⟩ := exists_of_bind_eq_ok h
  obtain ⟨requested, hrequested, h⟩ := exists_of_bind_eq_ok h
  replace hrequested := of_lift_eq_ok hrequested
  cases h
  obtain ⟨summary, hsummary, rfl⟩ := List.mem_map.mp hseries
  have hmem : summary ∈ requested := by
    split at hsummary
    · exact mem_sortBy.mp (List.mem_of_mem_drop (List.mem_of_mem_take hsummary))
    · exact mem_sortBy.mp (List.mem_of_mem_drop hsummary)
  exact ⟨of_decide_eq_true hread, of_mem_knownSeries ((mem_of_filterM hrequested).mp hmem).1⟩

variable (metadata played) in
theorem exists_series_of_episode (hread : SeriesAreRead fmt metadata episodes)
    (h : episode ∈ episodes.filter (isEpisode fmt)) :
    ∃ page series, groupedSeriesResult fmt metadata played episodes {} = .ok page ∧
      series ∈ page.items ∧
      AnnouncesSeries fmt metadata episodes (pathSeriesName fmt episode) series := by
  obtain ⟨summary, hsummary, hannounces⟩ := exists_mem_knownSeries metadata played h
  have hgrouped : gatheredSeries fmt metadata played episodes =
      .ok (knownSeries fmt metadata played episodes) := by
    rw [gatheredSeries_eq, decide_eq_true hread, onlyIf_true]
  have hrequested : (knownSeries fmt metadata played episodes).values.filterM
      (seriesIsRequested {} none) = .ok (knownSeries fmt metadata played episodes).values := by
    have hall : ∀ series, seriesIsRequested {} none series =
        onlyIf .charBoundary ((fun _ => true) series) ((fun _ => true) series) := fun _ => rfl
    rw [filterM_eq hall, List.all_eq_true.mpr fun _ _ => rfl, onlyIf_true, List.filter_true]
  have hids : traverseOption parseUuidList ({} : ItemsQuery).ids = .ok none := rfl
  rw [groupedSeriesResult, hgrouped]
  simp only [lift_ok, ok_bind, hids, hrequested]
  refine ⟨_, tvSeriesItem summary, rfl, List.mem_map_of_mem ?_, hannounces⟩
  exact mem_sortBy.mpr hsummary

variable (fmt metadata) in
/-- The episodes of a name, and no others, have the identifier that is announced for it. -/
structure SeriesAreTold (episodes : List MediaItem) : Prop where
  readable : ∀ episode ∈ episodes.filter (isEpisode fmt), seriesIdIsReadable fmt metadata episode = true
  own : ∀ episode ∈ episodes.filter (isEpisode fmt), storedSeriesId fmt metadata episode =
    announcedSeriesId fmt metadata episodes (pathSeriesName fmt episode)
  others : ∀ episode ∈ episodes.filter (isEpisode fmt),
    ∀ other ∈ episodes.filter (isEpisode fmt),
      pathSeriesName fmt other ≠ pathSeriesName fmt episode → storedSeriesId fmt metadata other ≠
        announcedSeriesId fmt metadata episodes (pathSeriesName fmt episode)

variable (fmt metadata) in
def LeadsToMerged (episodes : List MediaItem) (series : TvSeriesItem) : Prop :=
  episodes.filterM (fun episode =>
    fmt.tvEpisodeMatchesSeries episode (metadata episode.id) series.id) = .ok series.merged

theorem exists_simple_announcedSeriesId (name : String) :
    ∃ uuid : Uuid, announcedSeriesId fmt metadata episodes name = uuid.simple := by
  rw [announcedSeriesId]
  cases hfirst : (ofName fmt episodes name).findSome? (episodeSeriesId fmt metadata) with
  | none => exact exists_simple_stableEntityId _ _
  | some id =>
    obtain ⟨episode, -, hid⟩ := List.exists_of_findSome?_eq_some hfirst
    exact exists_simple_ownUuid hid

theorem leadsToMerged_iff {name : String} {series : TvSeriesItem}
    (h : AnnouncesSeries fmt metadata episodes name series) :
    LeadsToMerged fmt metadata episodes series ↔
      (∀ episode ∈ episodes.filter (isEpisode fmt),
        seriesIdIsReadable fmt metadata episode = true) ∧
      (episodes.filter (isEpisode fmt)).filter (fun episode => decide
        (storedSeriesId fmt metadata episode = announcedSeriesId fmt metadata episodes name)) =
        (episodes.filter (isEpisode fmt)).filter (pathSeriesName fmt · = name) := by
  obtain ⟨uuid, huuid⟩ : ∃ uuid : Uuid,
      announcedSeriesId fmt metadata episodes name = uuid.simple :=
    exists_simple_announcedSeriesId name
  rw [LeadsToMerged, h.id, h.merged, ofName, huuid,
    filterM_eq fun episode => tvEpisodeMatchesSeries_simple uuid episode, onlyIf_eq_ok,
    List.filter_filter, List.filter_filter, List.all_eq_true]
  refine and_congr ?_ ?_
  · constructor
    · intro hread episode hepisode
      obtain ⟨hmem, hepisode⟩ := List.mem_filter.mp hepisode
      have hreadable := hread episode hmem
      rwa [hepisode, Bool.not_true, Bool.false_or] at hreadable
    · intro hread episode hmem
      cases hepisode : isEpisode fmt episode with
      | false => rfl
      | true => rw [hread episode (List.mem_filter.mpr ⟨hmem, hepisode⟩), Bool.or_true]
  · simp only [Bool.and_comm]

theorem series_lead_to_merged_iff :
    (∀ query page, groupedSeriesResult fmt metadata played episodes query = .ok page →
      ∀ series ∈ page.items, LeadsToMerged fmt metadata episodes series) ↔
      SeriesAreTold fmt metadata episodes ∨ ¬SeriesAreRead fmt metadata episodes := by
  have hkeys := keys_open_iff (episodes.filter (isEpisode fmt)) (pathSeriesName fmt)
    fun name episode => decide
      (storedSeriesId fmt metadata episode = announcedSeriesId fmt metadata episodes name)
  simp only [decide_eq_true_iff, decide_eq_false_iff_not] at hkeys
  constructor
  · intro h
    by_cases hread : SeriesAreRead fmt metadata episodes
    · have hleads : ∀ episode ∈ episodes.filter (isEpisode fmt),
          ∃ series, AnnouncesSeries fmt metadata episodes (pathSeriesName fmt episode) series ∧
            LeadsToMerged fmt metadata episodes series := by
        intro episode hepisode
        obtain ⟨page, series, hpage, hseries, hannounces⟩ :=
          exists_series_of_episode metadata played hread hepisode
        exact ⟨series, hannounces, h _ page hpage series hseries⟩
      replace hleads := fun episode hepisode =>
        let ⟨_, hannounces, hleads⟩ := hleads episode hepisode
        (leadsToMerged_iff hannounces).mp hleads
      obtain ⟨hown, hothers⟩ := hkeys.mp fun episode hepisode => (hleads episode hepisode).2
      exact .inl ⟨fun episode hepisode => (hleads episode hepisode).1 episode hepisode, hown,
        hothers⟩
    · exact .inr hread
  · intro htold query page hpage series hseries
    obtain ⟨hread, episode, hepisode, hannounces⟩ := exists_episode_of_series hpage hseries
    obtain ⟨hreadable, hown, hothers⟩ := htold.resolve_right (not_not.mpr hread)
    exact (leadsToMerged_iff hannounces).mpr
      ⟨hreadable, hkeys.mpr ⟨hown, hothers⟩ episode hepisode⟩

/-! The parent of a season. -/

variable (fmt) in
def isShowEpisode (item : MediaItem) : Bool := isTvShow item && isEpisode fmt item

variable (fmt metadata) in
def isSeasonMember (uuid : Uuid) (item : MediaItem) : Bool :=
  seasonIdIsReadable fmt metadata item && decide (HasSeasonId fmt metadata item uuid.simple)

variable (fmt metadata) in
def seasonMembers (snapshot : List MediaItem) (uuid : Uuid) : List MediaItem :=
  (snapshot.filter (isShowEpisode fmt)).filter (isSeasonMember fmt metadata uuid)

variable (fmt metadata) in
def SeasonIsReached (snapshot : List MediaItem) (uuid : Uuid) : Prop :=
  reaches (seasonIdIsReadable fmt metadata)
    (fun item => decide (HasSeasonId fmt metadata item uuid.simple))
    (snapshot.filter (isShowEpisode fmt)) = true

variable (fmt metadata) in
/-- The identifier in the metadata, or that of the name that the metadata tell. -/
def namedSeriesId (item : MediaItem) : String :=
  (episodeSeriesId fmt metadata item).getD (ItemFormats.tvSeriesId
    (((fmt.tvEpisodeInfoWithMetadata item (metadata item.id)).map (·.seriesName)).getD ""))

theorem exists_simple_namedSeriesId (item : MediaItem) :
    ∃ uuid : Uuid, namedSeriesId fmt metadata item = uuid.simple := by
  rw [namedSeriesId]
  cases hid : episodeSeriesId fmt metadata item with
  | none => exact exists_simple_stableEntityId _ _
  | some id =>
    exact exists_simple_ownUuid hid

theorem tvEpisodeMatchesSeason_of_not (item : MediaItem) (seasonId : String)
    (h : isEpisode fmt item = false) :
    fmt.tvEpisodeMatchesSeason item (metadata item.id) seasonId = .ok false := by
  rw [isEpisode, Option.isSome_eq_false_iff, Option.isNone_iff_eq_none] at h
  rw [ItemFormats.tvEpisodeMatchesSeason, ItemFormats.tvEpisodeInfoWithMetadata, h]
  rfl

theorem tvEpisodeMatchesSeason_text (item : MediaItem) {seasonId : String} {uuid : Uuid}
    (hparse : Uuid.parseStr seasonId = some uuid) :
    fmt.tvEpisodeMatchesSeason item (metadata item.id) seasonId =
      fmt.tvEpisodeMatchesSeason item (metadata item.id) uuid.simple := by
  have hsame : ∀ id, Uuid.IsHex id → Uuid.agree id seasonId = Uuid.agree id uuid.simple := by
    intro id hid
    obtain ⟨own, hown⟩ := Option.isSome_iff_exists.mp hid.isSome_parseStr
    rw [Uuid.agree, Uuid.agree, hown, hparse, Uuid.parseStr_simple]
  have hagree : ∀ info : TvEpisodeInfo,
      (Uuid.agree (fmt.ownSeasonId info (metadata item.id)) seasonId ||
        Uuid.agree (ItemFormats.tvSeasonId info.seriesName info.seasonNumber) seasonId) =
      (Uuid.agree (fmt.ownSeasonId info (metadata item.id)) uuid.simple ||
        Uuid.agree (ItemFormats.tvSeasonId info.seriesName info.seasonNumber) uuid.simple) := by
    intro info
    rw [hsame _ (ItemFormats.isHex_ownSeasonId _ _), hsame _ (ItemFormats.isHex_tvSeasonId _ _)]
  rw [ItemFormats.tvEpisodeMatchesSeason_eq, ItemFormats.tvEpisodeMatchesSeason_eq,
    decide_eq_true (isSliceable_of_parseStr hparse), decide_eq_true (isSliceable_simple uuid)]
  simp only [hagree]

theorem exists_parseStr_of_matches {item : MediaItem} {seasonId : String}
    (h : fmt.tvEpisodeMatchesSeason item (metadata item.id) seasonId = .ok true) :
    ∃ uuid, Uuid.parseStr seasonId = some uuid := by
  rw [← Option.isSome_iff_exists]
  rw [ItemFormats.tvEpisodeMatchesSeason_eq, onlyIf_eq_ok] at h
  by_contra hnone
  rw [Option.not_isSome_iff_eq_none] at hnone
  obtain ⟨info, -, hagree⟩ := (Option.any_eq_true ..).mp h.2
  rw [Uuid.agree_eq_false (ItemFormats.isHex_ownSeasonId _ _) hnone,
    Uuid.agree_eq_false (ItemFormats.isHex_tvSeasonId _ _) hnone] at hagree
  cases hagree

theorem mem_seasonMembers {uuid : Uuid} :
    item ∈ seasonMembers fmt metadata snapshot uuid ↔
      item ∈ snapshot ∧ isTvShow item = true ∧
        fmt.tvEpisodeMatchesSeason item (metadata item.id) uuid.simple = .ok true := by
  rw [seasonMembers, List.mem_filter, List.mem_filter, isShowEpisode, Bool.and_eq_true, and_assoc,
    and_assoc]
  refine and_congr_right fun _ => and_congr_right fun _ => ?_
  cases hepisode : isEpisode fmt item with
  | false =>
    rw [tvEpisodeMatchesSeason_of_not item uuid.simple hepisode]
    simp
  | true =>
    rw [tvEpisodeMatchesSeason_simple uuid hepisode, onlyIf_eq_ok, isSeasonMember, Bool.and_eq_true]
    exact and_iff_right rfl

variable (metadata) in
theorem exists_info_of_isEpisode (h : isEpisode fmt item = true) :
    ∃ info, fmt.tvEpisodeInfoWithMetadata item (metadata item.id) = some info ∧
      fmt.ownSeriesId info (metadata item.id) = namedSeriesId fmt metadata item := by
  obtain ⟨info, hinfo⟩ := Option.isSome_iff_exists.mp h
  have hnamed : ∃ named, fmt.tvEpisodeInfoWithMetadata item (metadata item.id) = some named := by
    rw [ItemFormats.tvEpisodeInfoWithMetadata, hinfo]
    exact ⟨_, rfl⟩
  obtain ⟨named, hnamed⟩ := hnamed
  refine ⟨named, hnamed, ?_⟩
  rw [ItemFormats.ownSeriesId, namedSeriesId, hnamed]
  rfl

theorem exists_tvSeasonParent_iff {uuid : Uuid} {id : String} :
    (∃ name, tvSeasonParentFromSnapshot fmt metadata snapshot uuid.simple =
        .ok (some (name, id))) ↔
      SeasonIsReached fmt metadata snapshot uuid ∧
        ∃ first, (seasonMembers fmt metadata snapshot uuid).head? = some first ∧
          seriesIdIsReadable fmt metadata first = true ∧ namedSeriesId fmt metadata first = id := by
  induction snapshot with
  | nil =>
    refine iff_of_false ?_ ?_
    · rintro ⟨name, ⟨⟩⟩
    · rintro ⟨-, first, ⟨⟩, -⟩
  | cons item snapshot ih =>
    have hskip : isShowEpisode fmt item = false →
        (SeasonIsReached fmt metadata (item :: snapshot) uuid ↔
          SeasonIsReached fmt metadata snapshot uuid) ∧
        seasonMembers fmt metadata (item :: snapshot) uuid =
          seasonMembers fmt metadata snapshot uuid := by
      intro hother
      rw [SeasonIsReached, SeasonIsReached, seasonMembers, seasonMembers, List.filter_cons_of_neg
        (by rw [hother]; exact Bool.false_ne_true)]
      exact ⟨Iff.rfl, rfl⟩
    rw [tvSeasonParentFromSnapshot] at ih ⊢
    rw [List.findSomeM?]
    cases hshow : isTvShow item with
    | false =>
      obtain ⟨hreached, hmembers⟩ := hskip (by rw [isShowEpisode, hshow, Bool.false_and])
      rw [hreached, hmembers]
      exact ih
    | true =>
      cases hepisode : isEpisode fmt item with
      | false =>
        obtain ⟨hreached, hmembers⟩ := hskip (by rw [isShowEpisode, hepisode, Bool.and_false])
        rw [hreached, hmembers, tvEpisodeMatchesSeason_of_not item uuid.simple hepisode]
        exact ih
      | true =>
        have hkept : isShowEpisode fmt item = true := by rw [isShowEpisode, hshow, hepisode]; rfl
        rw [tvEpisodeMatchesSeason_simple uuid hepisode, SeasonIsReached, seasonMembers,
          List.filter_cons_of_pos hkept, reaches]
        cases hread : seasonIdIsReadable fmt metadata item with
        | false =>
          refine iff_of_false ?_ ?_
          · rintro ⟨name, ⟨⟩⟩
          · rintro ⟨⟨⟩, -⟩
        | true =>
          cases hhas : decide (HasSeasonId fmt metadata item uuid.simple) with
          | false =>
            rw [List.filter_cons_of_neg (by simp [isSeasonMember, hhas])]
            exact ih
          | true =>
            rw [List.filter_cons_of_pos (by simp only [isSeasonMember, hread, hhas, Bool.and_true])]
            obtain ⟨info, hinfo, hnamed⟩ := exists_info_of_isEpisode metadata hepisode
            rw [hinfo, List.head?_cons]
            dsimp only
            rw [ItemFormats.tvSeriesIdForEpisode_eq, hnamed]
            constructor
            · rintro ⟨name, hparent⟩
              cases hseries : fmt.uuidIsReadable (metadata item.id) "SeriesId" with
              | false =>
                rw [hseries] at hparent
                cases hparent
              | true =>
                rw [hseries] at hparent
                cases hparent
                exact ⟨rfl, item, rfl, hseries, rfl⟩
            · rintro ⟨-, first, hfirst, hseries, rfl⟩
              cases hfirst
              have hseries : fmt.uuidIsReadable (metadata item.id) "SeriesId" = true := hseries
              rw [hseries]
              exact ⟨info.seriesName, rfl⟩

variable (fmt metadata) in
def ParentsAccept (snapshot : List MediaItem) : Prop :=
  ∀ seasonId name id,
    tvSeasonParentFromSnapshot fmt metadata snapshot seasonId = .ok (some (name, id)) →
    ∀ item ∈ snapshot, isTvShow item = true →
      fmt.tvEpisodeMatchesSeason item (metadata item.id) seasonId = .ok true →
        fmt.tvEpisodeMatchesSeries item (metadata item.id) id = .ok true

variable (fmt metadata) in
def ParentsAreTold (snapshot : List MediaItem) : Prop :=
  ∀ uuid first, SeasonIsReached fmt metadata snapshot uuid →
    (seasonMembers fmt metadata snapshot uuid).head? = some first →
      seriesIdIsReadable fmt metadata first = true →
        ∀ item ∈ seasonMembers fmt metadata snapshot uuid,
          seriesIdIsReadable fmt metadata item = true ∧
            storedSeriesId fmt metadata item = namedSeriesId fmt metadata first

theorem tvEpisodeMatchesSeries_eq_true_iff {item first : MediaItem}
    (h : isEpisode fmt item = true) :
    fmt.tvEpisodeMatchesSeries item (metadata item.id) (namedSeriesId fmt metadata first) =
        .ok true ↔
      seriesIdIsReadable fmt metadata item = true ∧
        storedSeriesId fmt metadata item = namedSeriesId fmt metadata first := by
  obtain ⟨named, hnamed⟩ : ∃ named : Uuid, namedSeriesId fmt metadata first = named.simple :=
    exists_simple_namedSeriesId first
  rw [hnamed, tvEpisodeMatchesSeries_simple, onlyIf_eq_ok, h, Bool.not_true, Bool.false_or,
    Bool.true_and, decide_eq_true_iff]

theorem parentsAccept_iff :
    ParentsAccept fmt metadata snapshot ↔ ParentsAreTold fmt metadata snapshot := by
  have hepisode : ∀ {item : MediaItem} {seasonId : String},
      fmt.tvEpisodeMatchesSeason item (metadata item.id) seasonId = .ok true →
        isEpisode fmt item = true := by
    intro item seasonId hmatches
    by_contra hother
    rw [tvEpisodeMatchesSeason_of_not item seasonId (Bool.not_eq_true _ ▸ hother)] at hmatches
    cases hmatches
  constructor
  · intro haccept uuid first hreached hfirst hread item hitem
    obtain ⟨name, hparent⟩ := exists_tvSeasonParent_iff.mpr ⟨hreached, first, hfirst, hread, rfl⟩
    obtain ⟨hmem, hshow, hmatches⟩ := mem_seasonMembers.mp hitem
    exact (tvEpisodeMatchesSeries_eq_true_iff (hepisode hmatches)).mp
      (haccept uuid.simple name _ hparent item hmem hshow hmatches)
  · intro htold seasonId name id hparent item hitem hshow hmatches
    obtain ⟨uuid, hparse⟩ := exists_parseStr_of_matches hmatches
    have hsame : tvSeasonParentFromSnapshot fmt metadata snapshot seasonId =
        tvSeasonParentFromSnapshot fmt metadata snapshot uuid.simple := by
      simp only [tvSeasonParentFromSnapshot, tvEpisodeMatchesSeason_text _ hparse]
    obtain ⟨hreached, first, hfirst, hread, rfl⟩ :=
      exists_tvSeasonParent_iff.mp ⟨name, hsame ▸ hparent⟩
    rw [tvEpisodeMatchesSeason_text item hparse] at hmatches
    exact (tvEpisodeMatchesSeries_eq_true_iff (hepisode hmatches)).mpr
      (htold uuid first hreached hfirst hread item
        (mem_seasonMembers.mpr ⟨hitem, hshow, hmatches⟩))

/-- The parents of seasons and the series that are gathered lead to the same episodes just when
the identifiers are told alike, or the series are not listed for one that cannot be read. -/
theorem series_resolve_alike_iff (fmt : ItemFormats) (metadata : Uuid → Option Json)
    (played : MediaItem → Bool) (snapshot : List MediaItem) :
    (ParentsAccept fmt metadata snapshot ∧
        ∀ query page, groupedSeriesResult fmt metadata played snapshot query = .ok page →
          ∀ series ∈ page.items, LeadsToMerged fmt metadata snapshot series) ↔
      ParentsAreTold fmt metadata snapshot ∧
        (SeriesAreTold fmt metadata snapshot ∨ ¬SeriesAreRead fmt metadata snapshot) :=
  and_congr parentsAccept_iff series_lead_to_merged_iff

/-- Two series in directories of one name: the listed one has both episodes and leads to one.  An
episode of a renamed series is not found in the parent of its season. -/
theorem series_leads_to_one_of_two :
    ((groupedSeriesResult pathFormats
        (fun id => some (.object [("SeriesId", .string id.simple)])) (fun _ => false)
        [episodeNamed 1 "Pilot", episodeNamed 2 "Finale"] {}).toOption.map fun page =>
          page.items.map fun series =>
            (series.recursiveItemCount, series.id == Uuid.simple 1)) = some [(2, true)] ∧
      pathFormats.tvEpisodeMatchesSeries (episodeNamed 2 "Finale")
        (some (.object [("SeriesId", .string (Uuid.simple 2))])) (Uuid.simple 1) = .ok false ∧
      ((tvSeasonParentFromSnapshot pathFormats
        (fun _ => some (.object [("SeriesName", .string "Renamed")])) [episodeNamed 1 "Pilot"]
        (ItemFormats.tvSeasonId "Renamed" none)).toOption.map fun parent => parent.map fun parent =>
          (pathFormats.tvEpisodeMatchesSeries (episodeNamed 1 "Pilot")
            (some (.object [("SeriesName", .string "Renamed")])) parent.2).toOption) =
        some (some (some false)) := by
  refine ⟨?_, ?_, ?_⟩ <;> decide +kernel

end Jellyrin.Items
