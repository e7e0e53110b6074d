import Jellyrin.Defs.Data.Rows
import Jellyrin.Defs.LiveTv.GuideVisibility

/-! What the programmes of an answer stand for, and whose tuners these entries are of. -/

namespace Jellyrin.LiveTv.Guide

open Ascii ClientIds

/-- What a programme is listed for: an entry of the guide, or a channel of the configuration or of
the database that has none. -/
inductive GuideEntry where
  | guide (program : Json)
  | configured (channel : Json)
  | persisted (record : LiveTvChannelRecord)
  deriving DecidableEq

namespace GuideEntry

variable (env : Surroundings)

def item : GuideEntry → Option Json
  | .guide program => some program
  | .configured channel => env.liveTvFallbackProgramItem channel
  | .persisted record => env.liveTvFallbackProgramItem (env.liveTvChannelRecordToJson record)

def passes (filters : LiveTvProgramFilters) (entry : GuideEntry) : Bool :=
  (entry.item env).any fun item => filters.isEmpty || env.liveTvProgramMatchesFilters item filters

def IsVisible (db : Database) (allowed : List String) : GuideEntry → Prop
  | .guide program =>
    (∃ programs, env.liveTvProgramItems db.config = .ok programs ∧ program ∈ programs) ∧
      (hasAllowedTuner allowed program = true ∨
        HasVisibleChannel allowed (env.liveTvChannelItems db.config) program)
  | .configured channel =>
    channel ∈ env.liveTvChannelItems db.config ∧ hasAllowedTuner allowed channel = true
  | .persisted record => record ∈ db.channels ∧ tunerIsAllowed allowed record.tunerId = true

end GuideEntry

/-! Lists of entries and of their programmes. -/

/-- The channels of the database that a query for the user's tuners selects. -/
def selectedRecords (db : Database) (tunerIds categoryIds : List String) :
    List LiveTvChannelRecord :=
  db.channels.filter (LiveTvChannelQuery.mk 0 none tunerIds categoryIds).selects

theorem liveTvChannelPage_first (db : Database) (tunerIds categoryIds : List String) (count : Nat) :
    db.liveTvChannelPage ⟨0, some (min (db.liveTvChannelCount ⟨0, none, tunerIds, categoryIds⟩)
      count), tunerIds, categoryIds⟩ = (selectedRecords db tunerIds categoryIds).take count := by
  simp only [Database.liveTvChannelPage, Database.liveTvChannelCount, List.drop_zero]
  rw [Nat.min_comm]
  exact List.take_eq_take_min.symm

variable {record : LiveTvChannelRecord}

namespace Surroundings

variable (env : Surroundings)

theorem filterLiveTvPrograms_filterMap_item (filters : LiveTvProgramFilters)
    (entries : List GuideEntry) :
    env.filterLiveTvPrograms (entries.filterMap (·.item env)) filters =
      (entries.filter (·.passes env filters)).filterMap (·.item env) := by
  induction entries with
  | nil =>
    simp only [filterLiveTvPrograms, List.filterMap_nil, List.filter_nil]
    split <;> rfl
  | cons entry rest ih =>
    simp only [filterLiveTvPrograms] at ih ⊢
    cases hitem : entry.item env with
    | none => simpa [GuideEntry.passes, hitem] using ih
    | some item =>
      cases hempty : filters.isEmpty with
      | true => simpa [GuideEntry.passes, hitem, hempty] using ih
      | false =>
        cases hmatches : env.liveTvProgramMatchesFilters item filters <;>
          simpa [GuideEntry.passes, hitem, hempty, hmatches] using ih

theorem length_filterMap_item_passes (filters : LiveTvProgramFilters)
    (entries : List GuideEntry) :
    ((entries.filter (·.passes env filters)).filterMap (·.item env)).length =
      (entries.filter (·.passes env filters)).length := by
  induction entries with
  | nil => rfl
  | cons entry rest ih =>
    cases hitem : entry.item env with
    | none => simpa [GuideEntry.passes, hitem] using ih
    | some item =>
      cases hpasses : entry.passes env filters <;> simpa [hitem, hpasses] using ih

theorem recordPrograms_eq (records : List LiveTvChannelRecord) :
    env.recordPrograms records = (records.map GuideEntry.persisted).filterMap (·.item env) := by
  have hrequested : isRequested [] = fun _ => true := by
    funext channel
    rfl
  rw [recordPrograms, liveTvFallbackProgramItems, hrequested, List.filter_true, List.filterMap_map,
    List.filterMap_map]
  rfl

/-! What an answer counts. -/

def persistedEntries (db : Database) (categoryIds : List String) (scope : LiveTvProgramScope) :
    List GuideEntry :=
  let records := selectedRecords db (scope.allowedTunerIds.getD []) categoryIds
  if scope.filters.hasCategoryFilters then
    ((records.take liveTvXtreamMaxImportLimit).map .persisted).filter
      (·.passes env scope.filters)
  else records.map .persisted

def entriesWithoutGuide (db : Database) (channelIds categoryIds : List String)
    (scope : LiveTvProgramScope) (requested : List LiveTvChannelRecord) : List GuideEntry :=
  if !requested.isEmpty then (requested.map .persisted).filter (·.passes env scope.filters)
  else if !(selectedRecords db (scope.allowedTunerIds.getD []) []).isEmpty then
    env.persistedEntries db categoryIds scope
  else (((env.liveTvChannelItems db.config).filter (isRequested channelIds)).map
    .configured).filter (·.passes env scope.filters)

def countedEntries (db : Database) (channelIds categoryIds : List String)
    (scope : LiveTvProgramScope) : Except Panic (List GuideEntry) :=
  if scope.series = .noBroadcasts then .ok []
  else do
    let guide ← env.guidePrograms db channelIds categoryIds scope
    if !guide.isEmpty then return (guide.map .guide).filter (·.passes env scope.filters)
    let requested ← requestedChannels db channelIds scope
    return env.entriesWithoutGuide db channelIds categoryIds scope requested

def Counts (result : QueryResult) (entries : List GuideEntry) : Prop :=
  result.totalRecordCount = entries.length ∧
    ∀ item ∈ result.items, ∃ entry ∈ entries, entry.item env = some item

theorem counts_pageOf (filters : LiveTvProgramFilters) (entries : List GuideEntry)
    (startIndex limit : Option Nat) :
    env.Counts (pageOf (env.filterLiveTvPrograms (entries.filterMap (·.item env)) filters)
      startIndex limit) (entries.filter (·.passes env filters)) := by
  rw [filterLiveTvPrograms_filterMap_item]
  refine ⟨length_filterMap_item_passes _ _ _, ?_⟩
  intro item hitem
  exact List.mem_filterMap.mp (List.mem_of_mem_drop (List.mem_of_mem_take hitem))

theorem counts_persistedResult (db : Database) (categoryIds : List String)
    (startIndex limit : Option Nat) (scope : LiveTvProgramScope) :
    env.Counts (env.persistedResult db categoryIds startIndex limit scope)
      (env.persistedEntries db categoryIds scope) := by
  simp only [persistedResult, persistedEntries]
  split
  · rw [liveTvChannelPage_first, recordPrograms_eq]
    exact counts_pageOf _ _ _ _ _
  · refine ⟨(List.length_map _).symm, ?_⟩
    intro item hitem
    rw [recordPrograms_eq] at hitem
    obtain ⟨entry, hentry, hsome⟩ := List.mem_filterMap.mp hitem
    refine ⟨entry, ?_, hsome⟩
    obtain ⟨record, hrecord, rfl⟩ := List.mem_map.mp hentry
    exact List.mem_map_of_mem (List.mem_of_mem_drop (List.mem_of_mem_take hrecord))

theorem filterMap_item_guide (programs : List Json) :
    (programs.map GuideEntry.guide).filterMap (·.item env) = programs := by
  rw [List.filterMap_map]
  exact List.filterMap_some

theorem counts_guide (scope : LiveTvProgramScope) (guide : List Json)
    (startIndex limit : Option Nat) :
    env.Counts (pageOf (env.filterLiveTvPrograms guide scope.filters) startIndex limit)
      ((guide.map .guide).filter (·.passes env scope.filters)) := by
  have hcounts := env.counts_pageOf scope.filters (guide.map .guide) startIndex limit
  rwa [filterMap_item_guide] at hcounts

theorem counts_configuredResult (db : Database) (channelIds : List String)
    (startIndex limit : Option Nat) (scope : LiveTvProgramScope) :
    env.Counts (env.configuredResult db channelIds startIndex limit scope)
      ((((env.liveTvChannelItems db.config).filter (isRequested channelIds)).map
        GuideEntry.configured).filter (·.passes env scope.filters)) := by
  have hconfigured : env.liveTvFallbackProgramItems (env.liveTvChannelItems db.config)
      channelIds = (((env.liveTvChannelItems db.config).filter
        (isRequested channelIds)).map GuideEntry.configured).filterMap (·.item env) := by
    rw [liveTvFallbackProgramItems, List.filterMap_map]
    rfl
  rw [configuredResult, hconfigured]
  exact counts_pageOf _ _ _ _ _

theorem exists_countedEntries {db : Database} {channelIds categoryIds : List String}
    {startIndex limit : Option Nat} {scope : LiveTvProgramScope} {result : QueryResult}
    (h : env.liveTvProgramResult db channelIds categoryIds startIndex limit scope = .ok result) :
    ∃ counted, env.countedEntries db channelIds categoryIds scope = .ok counted ∧
      env.Counts result counted := by
  rw [liveTvProgramResult] at h
  rw [countedEntries]
  split at h
  · rename_i hseries
    cases h
    rw [if_pos hseries]
    exact ⟨[], rfl, rfl, fun item hitem => absurd hitem List.not_mem_nil⟩
  rename_i hseries
  obtain ⟨guide, hguide, h⟩ := exists_of_bind_eq_ok h
  rw [if_neg hseries, hguide, ok_bind]
  have hcounts := env.counts_guide scope guide startIndex limit
  cases hempty : guide.isEmpty with
  | false =>
    refine ⟨_, rfl, ?_⟩
    cases hprograms : (env.filterLiveTvPrograms guide scope.filters).isEmpty with
    | true =>
      simp only [hempty, hprograms, Bool.not_false, Bool.and_true, if_true] at h
      cases h
      rw [List.isEmpty_iff] at hprograms
      rw [hprograms] at hcounts
      exact ⟨hcounts.1, fun item hitem => absurd hitem List.not_mem_nil⟩
    | false =>
      simp only [hempty, hprograms, Bool.not_false, Bool.and_false, Bool.false_eq_true, if_false,
        if_true] at h
      cases h
      exact hcounts
  | true =>
    have hprograms : (env.filterLiveTvPrograms guide scope.filters).isEmpty = true := by
      rw [List.isEmpty_iff.mp hempty, filterLiveTvPrograms]
      split <;> rfl
    simp only [hempty, hprograms, Bool.not_true, Bool.and_true, Bool.false_eq_true, if_false] at h
    obtain ⟨requested, hrequested, h⟩ := exists_of_bind_eq_ok h
    simp only [Bool.not_true, Bool.false_eq_true, if_false, hrequested, ok_bind]
    refine ⟨_, rfl, ?_⟩
    rw [entriesWithoutGuide]
    split
    · rename_i hsome
      rw [if_pos hsome] at h
      cases h
      rw [recordPrograms_eq]
      exact counts_pageOf _ _ _ _ _
    · rename_i hnone
      have hselected : 0 < db.liveTvChannelCount
          { LiveTvChannelQuery.all with tunerIds := scope.allowedTunerIds.getD [] } ↔
          (!(selectedRecords db (scope.allowedTunerIds.getD []) []).isEmpty) = true := by
        rw [Bool.not_eq_true', List.isEmpty_eq_false_iff, ← List.length_pos_iff]
        rfl
      rw [if_neg hnone] at h
      simp only [hselected] at h
      split at h
      · rename_i hcount
        cases h
        rw [if_pos hcount]
        exact counts_persistedResult _ _ _ _ _ _
      · rename_i hcount
        cases h
        rw [if_neg hcount]
        exact counts_configuredResult _ _ _ _ _ _

/-! Whose tuners the entries are of. -/

def InGuide (db : Database) (channelIds categoryIds : List String) (series : LiveTvSeriesScope)
    (allowed : List String) : Prop :=
  ∃ programs, env.liveTvProgramItems db.config = .ok programs ∧ ∃ program ∈ programs,
    matchesSeries series program = true ∧
    (hasAllowedTuner allowed program = true ∨
      HasVisibleChannel allowed (env.liveTvChannelItems db.config) program) ∧
    matchesChannels channelIds program = .ok true ∧
    matchesCategories db.categories categoryIds program = true

/-- One of the requested channels is in the database and the user may see it. -/
def RequestsVisible (db : Database) (channelIds allowed : List String) : Prop :=
  channelIds ≠ [] ∧ ∃ records, liveTvChannelRecordsByAnyIds db channelIds = .ok records ∧
    ∃ record ∈ records, tunerIsAllowed allowed record.tunerId = true

/-- The channels that stand in for the guide are of the user's tuners: those of the database that
the tuners and the categories select or, if the tuners select none, those of the configuration. -/
def FallbackIsVisible (db : Database) (channelIds categoryIds : List String)
    (filters : LiveTvProgramFilters) (allowed : List String) : Prop :=
  if (selectedRecords db allowed []).isEmpty then
    ∀ channel ∈ env.liveTvChannelItems db.config, isRequested channelIds channel = true →
      (GuideEntry.configured channel).passes env filters = true →
        hasAllowedTuner allowed channel = true
  else if filters.hasCategoryFilters then
    ∀ record ∈ (selectedRecords db allowed categoryIds).take liveTvXtreamMaxImportLimit,
      (GuideEntry.persisted record).passes env filters = true →
        tunerIsAllowed allowed record.tunerId = true
  else
    ∀ record ∈ selectedRecords db allowed categoryIds, tunerIsAllowed allowed record.tunerId = true

variable {env} {db : Database} {channelIds categoryIds : List String}
  {filters : LiveTvProgramFilters} {series : LiveTvSeriesScope} {allowed : List String}

theorem mem_guidePrograms {guide : List Json} {program : Json}
    (h : env.guidePrograms db channelIds categoryIds ⟨filters, some allowed, series⟩ = .ok guide) :
    program ∈ guide ↔ ∃ programs, env.liveTvProgramItems db.config = .ok programs ∧
      program ∈ programs ∧ matchesSeries series program = true ∧
        (hasAllowedTuner allowed program = true ∨
          HasVisibleChannel allowed (env.liveTvChannelItems db.config) program) ∧
        matchesChannels channelIds program = .ok true ∧
        matchesCategories db.categories categoryIds program = true := by
  obtain ⟨programs, hprograms, h⟩ := exists_of_bind_eq_ok h
  obtain ⟨kept, hkept, h⟩ := exists_of_bind_eq_ok h
  obtain ⟨requested, hrequested, h⟩ := exists_of_bind_eq_ok h
  cases h
  rw [List.mem_filter, mem_of_filterM hrequested, mem_retainAuthorizedLiveTvPrograms hkept,
    List.mem_filter, hprograms]
  simp only [Except.ok.injEq, exists_eq_left', and_assoc]

theorem isEmpty_guidePrograms_iff {guide : List Json}
    (h : env.guidePrograms db channelIds categoryIds ⟨filters, some allowed, series⟩ = .ok guide) :
    guide.isEmpty = false ↔ env.InGuide db channelIds categoryIds series allowed := by
  rw [List.isEmpty_eq_false_iff_exists_mem]
  simp only [mem_guidePrograms h]
  constructor
  · rintro ⟨program, programs, hprograms, hprogram, hfilters⟩
    exact ⟨programs, hprograms, program, hprogram, hfilters⟩
  · rintro ⟨programs, hprograms, program, hprogram, hfilters⟩
    exact ⟨program, programs, hprograms, hprogram, hfilters⟩

theorem isVisible_of_mem_guidePrograms {guide : List Json} {program : Json}
    (h : env.guidePrograms db channelIds categoryIds ⟨filters, some allowed, series⟩ = .ok guide)
    (hprogram : program ∈ guide) : (GuideEntry.guide program).IsVisible env db allowed := by
  obtain ⟨programs, hprograms, hprogram, -, hvisible, -⟩ := (mem_guidePrograms h).mp hprogram
  exact ⟨⟨programs, hprograms, hprogram⟩, hvisible⟩

theorem mem_requestedChannels {requested : List LiveTvChannelRecord}
    (h : requestedChannels db channelIds ⟨filters, some allowed, series⟩ = .ok requested) :
    record ∈ requested ↔ channelIds ≠ [] ∧
      ∃ records, liveTvChannelRecordsByAnyIds db channelIds = .ok records ∧ record ∈ records ∧
        tunerIsAllowed allowed record.tunerId = true := by
  rw [requestedChannels] at h
  split at h
  · rename_i hempty
    cases h
    simp [List.isEmpty_iff.mp hempty]
  · rename_i hne
    cases hrecords : liveTvChannelRecordsByAnyIds db channelIds with
    | error panic =>
      rw [hrecords] at h
      cases h
    | ok records =>
      rw [hrecords] at h
      cases h
      have hne : channelIds ≠ [] := fun hnil => hne (List.isEmpty_iff.mpr hnil)
      simp [hne]

theorem isEmpty_requestedChannels_iff {requested : List LiveTvChannelRecord}
    (h : requestedChannels db channelIds ⟨filters, some allowed, series⟩ = .ok requested) :
    requested.isEmpty = false ↔ RequestsVisible db channelIds allowed := by
  rw [List.isEmpty_eq_false_iff_exists_mem]
  simp only [mem_requestedChannels h]
  constructor
  · rintro ⟨record, hne, records, hrecords, hrecord⟩
    exact ⟨hne, records, hrecords, record, hrecord⟩
  · rintro ⟨hne, records, hrecords, record, hrecord⟩
    exact ⟨record, hne, records, hrecords, hrecord⟩

end Surroundings

/-! The channels that are found by their identifiers are in the database. -/

theorem lookup_insertIds {ids : List String} {index index' : HashMap String LiveTvChannelRecord}
    {found : LiveTvChannelRecord} {id : String}
    (h : ids.foldlM (fun index id => (return index.insert (← liveTvLookupId id) record :
      Except Panic (HashMap String LiveTvChannelRecord))) index = .ok index')
    (hfound : index'.lookup id = some found) : found = record ∨ index.lookup id = some found := by
  induction ids generalizing index with
  | nil =>
    cases h
    exact .inr hfound
  | cons first rest ih =>
    rw [List.foldlM_cons] at h
    obtain ⟨inserted, hinserted, h⟩ := exists_of_bind_eq_ok h
    obtain ⟨key, -, hinserted⟩ := exists_of_bind_eq_ok hinserted
    cases hinserted
    obtain hrecord | hinsert := ih h
    · exact .inl hrecord
    · obtain ⟨-, hrecord⟩ | ⟨-, hindex⟩ := HashMap.lookup_insert_eq_some.mp hinsert
      · exact .inl hrecord.symm
      · exact .inr hindex

theorem mem_of_lookup_lookupIndex {records : List LiveTvChannelRecord}
    {index : HashMap String LiveTvChannelRecord} {id : String}
    (h : lookupIndex records = .ok index) (hrecord : index.lookup id = some record) :
    record ∈ records := by
  have hstart : ∀ start index : HashMap String LiveTvChannelRecord,
      records.foldlM (fun index record =>
        [record.channelId, record.remoteId, liveTvChannelPublicId record.channelId].foldlM
          (fun index id => (return index.insert (← liveTvLookupId id) record :
            Except Panic (HashMap String LiveTvChannelRecord))) index) start = .ok index →
        index.lookup id = some record → record ∈ records ∨ start.lookup id = some record := by
    clear h hrecord
    induction records with
    | nil =>
      rintro start index ⟨⟩ hrecord
      exact .inr hrecord
    | cons first rest ih =>
      intro start index h hrecord
      rw [List.foldlM_cons] at h
      obtain ⟨inserted, hinserted, h⟩ := exists_of_bind_eq_ok h
      obtain hrest | hindex := ih _ _ h hrecord
      · exact .inl (List.mem_cons_of_mem _ hrest)
      · obtain rfl | hindex := lookup_insertIds hinserted hindex
        · exact .inl List.mem_cons_self
        · exact .inr hindex
  obtain hmem | hempty := hstart ∅ index h hrecord
  · exact hmem
  · cases hempty

theorem catalogue_subset (db : Database) : catalogue db ⊆ db.channels := by
  intro record hrecord
  exact (List.mem_filter.mp (List.mem_of_mem_drop (List.mem_of_mem_take hrecord))).1

theorem liveTvChannelRecordsByAnyIds_subset {db : Database} {channelIds : List String}
    {records : List LiveTvChannelRecord}
    (h : liveTvChannelRecordsByAnyIds db channelIds = .ok records) : records ⊆ db.channels := by
  intro record hrecord
  rw [liveTvChannelRecordsByAnyIds] at h
  split at h
  · cases h
    cases hrecord
  · obtain ⟨index, hindex, h⟩ := exists_of_bind_eq_ok h
    obtain ⟨ids, -, h⟩ := exists_of_bind_eq_ok h
    cases h
    obtain ⟨id, -, hlookup⟩ := List.mem_filterMap.mp hrecord
    exact catalogue_subset db (mem_of_lookup_lookupIndex hindex hlookup)

namespace Surroundings

variable {env : Surroundings} {db : Database} {channelIds categoryIds : List String}
  {filters : LiveTvProgramFilters} {series : LiveTvSeriesScope} {allowed : List String}

theorem isVisible_of_mem_requestedChannels {requested : List LiveTvChannelRecord}
    (h : requestedChannels db channelIds ⟨filters, some allowed, series⟩ = .ok requested)
    (hrecord : record ∈ requested) : (GuideEntry.persisted record).IsVisible env db allowed := by
  obtain ⟨-, records, hrecords, hmem, htuner⟩ := (mem_requestedChannels h).mp hrecord
  exact ⟨liveTvChannelRecordsByAnyIds_subset hrecords hmem, htuner⟩

theorem isVisible_persisted_iff {tunerIds : List String}
    (h : record ∈ selectedRecords db tunerIds categoryIds) :
    (GuideEntry.persisted record).IsVisible env db allowed ↔
      tunerIsAllowed allowed record.tunerId = true :=
  and_iff_right (List.mem_filter.mp h).1

theorem persistedEntries_visible_iff :
    (∀ entry ∈ env.persistedEntries db categoryIds ⟨filters, some allowed, series⟩,
      entry.IsVisible env db allowed) ↔
      if filters.hasCategoryFilters then
        ∀ record ∈ (selectedRecords db allowed categoryIds).take liveTvXtreamMaxImportLimit,
          (GuideEntry.persisted record).passes env filters = true →
            tunerIsAllowed allowed record.tunerId = true
      else
        ∀ record ∈ selectedRecords db allowed categoryIds,
          tunerIsAllowed allowed record.tunerId = true := by
  simp only [persistedEntries, Option.getD_some]
  split
  · simp only [List.mem_filter, List.mem_map, and_imp, forall_exists_index,
      forall_apply_eq_imp_iff₂]
    refine forall₃_congr fun record hrecord _ => ?_
    exact isVisible_persisted_iff (List.mem_of_mem_take hrecord)
  · simp only [List.mem_map, forall_exists_index, and_imp, forall_apply_eq_imp_iff₂]
    exact forall₂_congr fun record hrecord => isVisible_persisted_iff hrecord

theorem configuredEntries_visible_iff :
    (∀ entry ∈ (((env.liveTvChannelItems db.config).filter (isRequested channelIds)).map
      GuideEntry.configured).filter (·.passes env filters), entry.IsVisible env db allowed) ↔
      ∀ channel ∈ env.liveTvChannelItems db.config, isRequested channelIds channel = true →
        (GuideEntry.configured channel).passes env filters = true →
          hasAllowedTuner allowed channel = true := by
  constructor
  · intro h channel hchannel hrequest hpasses
    exact (h (.configured channel) (List.mem_filter.mpr ⟨List.mem_map_of_mem
      (List.mem_filter.mpr ⟨hchannel, hrequest⟩), hpasses⟩)).2
  · intro h entry hentry
    obtain ⟨hmem, hpasses⟩ := List.mem_filter.mp hentry
    obtain ⟨channel, hchannel, rfl⟩ := List.mem_map.mp hmem
    obtain ⟨hchannel, hrequest⟩ := List.mem_filter.mp hchannel
    exact ⟨hchannel, h channel hchannel hrequest hpasses⟩

theorem entriesWithoutGuide_visible_iff :
    (∀ entry ∈ env.entriesWithoutGuide db channelIds categoryIds ⟨filters, some allowed, series⟩ [],
      entry.IsVisible env db allowed) ↔
      env.FallbackIsVisible db channelIds categoryIds filters allowed := by
  simp only [entriesWithoutGuide, FallbackIsVisible, List.isEmpty_nil, Bool.not_true,
    Bool.false_eq_true, if_false, Option.getD_some]
  cases hselected : (selectedRecords db allowed []).isEmpty with
  | false =>
    simp only [Bool.not_false, if_true, Bool.false_eq_true, if_false]
    exact persistedEntries_visible_iff
  | true =>
    simp only [Bool.not_true, if_true, Bool.false_eq_true, if_false]
    exact configuredEntries_visible_iff

theorem countedEntries_visible_iff {counted : List GuideEntry}
    (h : env.countedEntries db channelIds categoryIds ⟨filters, some allowed, series⟩ =
      .ok counted) :
    (∀ entry ∈ counted, entry.IsVisible env db allowed) ↔
      series = .noBroadcasts ∨ env.InGuide db channelIds categoryIds series allowed ∨
        RequestsVisible db channelIds allowed ∨
          env.FallbackIsVisible db channelIds categoryIds filters allowed := by
  rw [countedEntries] at h
  split at h
  · rename_i hseries
    cases h
    exact iff_of_true (fun entry hentry => absurd hentry List.not_mem_nil) (.inl hseries)
  · rename_i hseries
    replace hseries : series ≠ .noBroadcasts := hseries
    obtain ⟨guide, hguide, h⟩ := exists_of_bind_eq_ok h
    have hin := isEmpty_guidePrograms_iff hguide
    cases hempty : guide.isEmpty with
    | false =>
      simp only [hempty, Bool.not_false, if_true] at h
      cases h
      refine iff_of_true ?_ (.inr (.inl (hin.mp hempty)))
      intro entry hentry
      obtain ⟨program, hprogram, rfl⟩ := List.mem_map.mp (List.mem_filter.mp hentry).1
      exact isVisible_of_mem_guidePrograms hguide hprogram
    | true =>
      simp only [hempty, Bool.not_true, Bool.false_eq_true, if_false] at h
      obtain ⟨requested, hrequested, h⟩ := exists_of_bind_eq_ok h
      cases h
      have hnone : ¬env.InGuide db channelIds categoryIds series allowed := by
        rw [← hin, hempty]
        exact Bool.noConfusion
      have hvisible := isEmpty_requestedChannels_iff hrequested
      cases hrequest : requested.isEmpty with
      | false =>
        refine iff_of_true ?_ (.inr (.inr (.inl (hvisible.mp hrequest))))
        intro entry hentry
        rw [entriesWithoutGuide, hrequest, Bool.not_false, if_pos rfl] at hentry
        obtain ⟨record, hrecord, rfl⟩ := List.mem_map.mp (List.mem_filter.mp hentry).1
        exact isVisible_of_mem_requestedChannels hrequested hrecord
      | true =>
        have hunseen : ¬RequestsVisible db channelIds allowed := by
          rw [← hvisible, hrequest]
          exact Bool.noConfusion
        rw [List.isEmpty_iff.mp hrequest, entriesWithoutGuide_visible_iff]
        simp only [hseries, hnone, hunseen, false_or]

def OnlyVisible (env : Surroundings) (db : Database) (allowed : List String) (result : QueryResult)
    (counted : List GuideEntry) : Prop :=
  (∀ item ∈ result.items, ∃ entry : GuideEntry,
    entry.IsVisible env db allowed ∧ entry.item env = some item) ∧
  ∀ entry ∈ counted, entry.IsVisible env db allowed

end Surroundings

/-! Answers over databases that the user cannot tell apart. -/

/-- The channels or the programmes of an entry of `TunerHosts` are of a tuner of the user. -/
def isOfUser (allowed : List String) (tuner : Json × Nat) : Bool :=
  ["tuner-", "TunerHosts-"].any fun start =>
    tunerIsAllowed allowed ((tuner.1.stringField "Id").getD (start ++ toString tuner.2))

structure SameForUser (allowed : List String) (db db' : Database) : Prop where
  configuration : ∀ field, field ≠ "TunerHosts" → db.config.get field = db'.config.get field
  tunerHosts : (Surroundings.elements db.config "TunerHosts").filter (isOfUser allowed) =
    (Surroundings.elements db'.config "TunerHosts").filter (isOfUser allowed)
  channels : db.channels.filter (tunerIsAllowed allowed ·.tunerId) =
    db'.channels.filter (tunerIsAllowed allowed ·.tunerId)
  categories : db.categories = db'.categories

def Database.addTuner (db : Database) (tuner : Json) : Database :=
  let tuners := ((db.config.get "TunerHosts").bind Json.asArray).getD []
  { db with
    configuration := some ((Json.object (db.config.asObject.getD [])).set "TunerHosts"
      (.array (tuners ++ [tuner]))) }

def strayTuner (tunerId : String) : Json := .object [
  ("Channels", .array [.object [("Id", .string "1")]]),
  ("Id", .string tunerId),
  ("Programs", .array [.object [("ChannelId", .string unreadableId)]])]

theorem elements_addTuner (db : Database) (tuner : Json) :
    ∃ index, Surroundings.elements (db.addTuner tuner).config "TunerHosts" =
      Surroundings.elements db.config "TunerHosts" ++ [(tuner, index)] := by
  have hfield : (db.addTuner tuner).config.get "TunerHosts" = some (.array
      (((db.config.get "TunerHosts").bind Json.asArray).getD [] ++ [tuner])) := by
    rw [Database.config, Database.addTuner, Option.getD_some]
    exact Json.get_set rfl _ _
  refine ⟨(((db.config.get "TunerHosts").bind Json.asArray).getD []).length, ?_⟩
  rw [Surroundings.elements, hfield, Surroundings.elements, Option.bind_some, Json.asArray,
    Option.getD_some, List.zipIdx_append]
  simp

theorem stringField_strayTuner {tunerId : String} (htrim : Json.trim tunerId = tunerId)
    (hne : tunerId ≠ "") : (strayTuner tunerId).stringField "Id" = some tunerId := by
  have hother : eqIgnoreAsciiCase "Channels" "Id" = false := by decide
  simp [strayTuner, Json.stringField, Json.fieldCaseInsensitive, Json.asObject, hother, htrim, hne]

theorem sameForUser_addTuner {db : Database} {allowed : List String} {tuner : Json}
    {tunerId : String} (hid : tuner.stringField "Id" = some tunerId)
    (hother : tunerIsAllowed allowed tunerId = false) :
    SameForUser allowed db (db.addTuner tuner) where
  configuration field hfield := by
    have hset : (db.addTuner tuner).config.get field =
        (Json.object (db.config.asObject.getD [])).get field := by
      rw [Database.config, Database.addTuner, Option.getD_some]
      exact Json.get_set_of_ne _ _ (Ne.symm hfield)
    rw [hset]
    cases hconfig : db.config <;> rfl
  tunerHosts := by
    obtain ⟨index, helements⟩ := elements_addTuner db tuner
    have hhidden : isOfUser allowed (tuner, index) = false := by
      simp [isOfUser, hid, hother]
    rw [helements, List.filter_append, List.filter_cons_of_neg (by simp [hhidden]), List.filter_nil,
      List.append_nil]
  channels := rfl
  categories := rfl

theorem findM?_eq_error {test : Json → Except Panic Bool} {panic : Panic} {channels : List Json}
    (h : ∀ channel ∈ channels, test channel = .ok false ∨ test channel = .error panic)
    (hstop : ∃ channel ∈ channels, test channel = .error panic) :
    channels.findM? test = .error panic := by
  induction channels with
  | nil =>
    obtain ⟨channel, hchannel, -⟩ := hstop
    cases hchannel
  | cons first rest ih =>
    obtain ⟨hfirst, hrest⟩ := List.forall_mem_cons.mp h
    rw [List.findM?]
    obtain hfalse | hpanic := hfirst
    · rw [hfalse, ok_bind]
      refine ih hrest ?_
      obtain ⟨channel, hchannel, hpanic⟩ := hstop
      obtain rfl | hchannel := List.mem_cons.mp hchannel
      · rw [hfalse] at hpanic
        cases hpanic
      · exact ⟨channel, hchannel, hpanic⟩
    · rw [hpanic]
      rfl

theorem jellyfinIdMatches_unreadableId (id : String) :
    jellyfinIdMatches id unreadableId = .error .charBoundary :=
  jellyfinIdMatches_of_not fun h => not_isSliceable_unreadableId h.2

theorem anyM_unreadableId (ids : List String) :
    ids.anyM (jellyfinIdMatches · unreadableId) =
      if ids.isEmpty then .ok false else .error .charBoundary := by
  cases ids with
  | nil => rfl
  | cons id ids =>
    rw [List.anyM, jellyfinIdMatches_unreadableId]
    rfl

namespace Surroundings

variable {env : Surroundings} {db : Database} {channelIds categoryIds : List String}
  {filters : LiveTvProgramFilters} {series : LiveTvSeriesScope} {allowed : List String}

theorem liveTvProgramItem_stray {sourceId : String} {channels : List Json} {index : Nat}
    (h : ∃ channel ∈ channels, channel.stringFields ["Id", "JellyrinChannelId"] ≠ []) :
    env.liveTvProgramItem sourceId channels (.object [("ChannelId", .string unreadableId)])
      index = .error .charBoundary := by
  have hid : (Json.object [("ChannelId", .string unreadableId)]).stringField "ChannelId" =
      some unreadableId := by decide
  have hsearch : channels.findM? (fun channel =>
      (channel.stringFields ["Id", "JellyrinChannelId"]).anyM
        (jellyfinIdMatches · unreadableId)) = .error .charBoundary := by
    refine findM?_eq_error (fun channel _ => ?_) ?_
    · rw [anyM_unreadableId]
      split
      · exact .inl rfl
      · exact .inr rfl
    · obtain ⟨channel, hchannel, hids⟩ := h
      refine ⟨channel, hchannel, ?_⟩
      rw [anyM_unreadableId, if_neg (by simpa using hids)]
  rw [liveTvProgramItem, itemBase]
  simp only [programItemOf, hid, Option.some_or, Option.getD_some, hsearch]
  rfl

theorem exists_liveTvChannelItem (tunerId tunerName : String) (index : Nat) :
    ∃ item, env.liveTvChannelItem tunerId tunerName (.object [("Id", .string "1")]) index =
      some item ∧ item.stringField "JellyrinChannelId" = some "1" := by
  refine ⟨_, rfl, ?_⟩
  simp only [apply_ite (fun item : Json => item.stringField "JellyrinChannelId"),
    env.stringField_setMediaSources _
      (show eqIgnoreAsciiCase "MediaSources" "JellyrinChannelId" = false by decide), ite_self]
  rw [stringField_applyLiveTvImageMetadata _ (by decide)]
  simp (disch := decide) only [Json.stringField_set]
  have hid : (Json.object [("Id", .string "1")]).stringField "Id" = some "1" := by decide
  rw [Json.stringField_set_self, hid]
  · have hone : Json.trim "1" = "1" := by decide
    rw [Option.some_or, Option.some_or, Option.getD_some, hone, if_neg (by decide)]
  · simp only [Json.isObject_set]
    rfl
  · repeat refine Json.HasSpelling.set ?_ _ (by decide)
    rintro fields ⟨⟩ entry hentry
    rw [List.mem_singleton.mp hentry]
    decide

theorem exists_channel_addTuner (db : Database) (tunerId : String) :
    ∃ channel ∈ env.liveTvChannelItems (db.addTuner (strayTuner tunerId)).config,
      channel.stringFields ["Id", "JellyrinChannelId"] ≠ [] := by
  obtain ⟨index, helements⟩ := elements_addTuner db (strayTuner tunerId)
  have hmem : (strayTuner tunerId, index) ∈
      elements (db.addTuner (strayTuner tunerId)).config "TunerHosts" := by
    rw [helements]
    exact List.mem_append_right _ List.mem_cons_self
  have hchannel : (Json.object [("Id", .string "1")], 0) ∈
      elements (strayTuner tunerId) "Channels" := List.mem_singleton.mpr rfl
  obtain ⟨item, hitem, hid⟩ := env.exists_liveTvChannelItem _ _ 0
  refine ⟨item, (List.mem_insertionSort _).mpr (List.mem_flatMap.mpr ⟨_, hmem,
    List.mem_filterMap.mpr ⟨_, hchannel, hitem⟩⟩), ?_⟩
  refine List.ne_nil_of_mem (a := "1") (List.mem_filterMap.mpr ⟨"JellyrinChannelId", ?_, hid⟩)
  exact List.mem_cons_of_mem _ List.mem_cons_self

theorem liveTvProgramItems_addTuner (db : Database) (tunerId : String) (programs : List Json) :
    env.liveTvProgramItems (db.addTuner (strayTuner tunerId)).config ≠ .ok programs := by
  intro h
  obtain ⟨listed, -, h⟩ := exists_of_bind_eq_ok h
  obtain ⟨broadcast, hbroadcast, -⟩ := exists_of_bind_eq_ok h
  obtain ⟨sources, hsources, -⟩ := exists_of_bind_eq_ok hbroadcast
  obtain ⟨index, helements⟩ := elements_addTuner db (strayTuner tunerId)
  have hmem : (strayTuner tunerId, index) ∈
      elements (db.addTuner (strayTuner tunerId)).config "TunerHosts" := by
    rw [helements]
    exact List.mem_append_right _ List.mem_cons_self
  obtain ⟨items, -, hitems⟩ := exists_mem_of_forall₂ (forall₂_of_mapM hsources) hmem
  have hprogram : (Json.object [("ChannelId", .string unreadableId)], 0) ∈
      elements (strayTuner tunerId) "Programs" := List.mem_singleton.mpr rfl
  obtain ⟨item, -, hitem⟩ := exists_mem_of_forall₂ (forall₂_of_mapM hitems) hprogram
  cases (liveTvProgramItem_stray (exists_channel_addTuner db tunerId)).symm.trans hitem

theorem answers_agree_iff {startIndex limit : Option Nat} {result : QueryResult}
    (h : env.liveTvProgramResult db channelIds categoryIds startIndex limit
      ⟨filters, some allowed, series⟩ = .ok result) :
    (∀ db', SameForUser allowed db db' →
      env.liveTvProgramResult db' channelIds categoryIds startIndex limit
        ⟨filters, some allowed, series⟩ = .ok result) ↔ series = .noBroadcasts := by
  constructor
  · intro hsame
    by_contra hseries
    have hid := stringField_strayTuner (trim_unusedName allowed) (unusedName_ne_empty allowed)
    have hanswer := hsame _ (sameForUser_addTuner hid (not_any_unusedName allowed))
    rw [liveTvProgramResult, if_neg hseries] at hanswer
    obtain ⟨guide, hguide, -⟩ := exists_of_bind_eq_ok hanswer
    obtain ⟨programs, hprograms, -⟩ := exists_of_bind_eq_ok hguide
    exact liveTvProgramItems_addTuner db (unusedName allowed) programs hprograms
  · rintro rfl db' -
    exact h

end Surroundings

/-! An empty list of tuners. -/

def unfiltered : LiveTvProgramFilters := ⟨none, none, none, none, none, none, none⟩

def otherChannel : LiveTvChannelRecord :=
  ⟨"channel", "other", "1", none, none, "Channel", "channel", none, "", none, "TV", .object []⟩

def answerFor (allowed : List String) (db : Database) : Except Panic QueryResult :=
  plainSurroundings.liveTvProgramResult db [] [] none none ⟨unfiltered, some allowed, .unscoped⟩

def homeAndOther (name : String) : Database where
  configuration := some (Json.ofFields [("TunerHosts", .array [
    Json.ofFields [("Id", .string "home"),
      ("Channels", .array [Json.ofFields [("Id", .string "5"), ("Name", .string "Home")]]),
      ("Programs", .array [Json.ofFields [("Id", .string "1"), ("ChannelId", .string "5")]])],
    Json.ofFields [("Id", .string "other"),
      ("Channels", .array [Json.ofFields [("Id", .string "5"), ("Name", .string name)]])]])])
  channels := []
  categories := []

theorem get_homeAndOther (name : String) {field : String} (h : field ≠ "TunerHosts") :
    (homeAndOther name).config.get field = none := by
  rw [homeAndOther, Database.config, Option.getD_some]
  exact Json.get_set_of_ne (.object []) _ (Ne.symm h)

end Jellyrin.LiveTv.Guide
