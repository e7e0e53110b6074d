import Jellyrin.Defs.Data.SortOn
import Jellyrin.Defs.LiveTv.ChannelItems

/-! Which lists of channels keep the tuners of others to themselves. -/

namespace Jellyrin.LiveTv.Guide

open Ascii Text

inductive LiveTvChannel where
  | persisted (record : LiveTvChannelRecord)
  | configured (item : Json)

namespace LiveTvChannel

def row (env : Surroundings) : LiveTvChannel → Json
  | persisted record => env.liveTvChannelRecordToJson record
  | configured item => item

def isOf (access : TunerAccess) : LiveTvChannel → Bool
  | persisted record => tunerIsAllowed access.tunerIds record.tunerId
  | configured item => hasAllowedTuner access.tunerIds item

end LiveTvChannel

def Database.liveTvChannels (env : Surroundings) (db : Database) : List LiveTvChannel :=
  db.channels.map .persisted ++ (env.liveTvChannelItems db.config).map .configured

def SameChannelsFor (env : Surroundings) (access : TunerAccess) (db db' : Database) : Prop :=
  (db.liveTvChannels env).filter (·.isOf access) = (db'.liveTvChannels env).filter (·.isOf access)

inductive ChannelRequest where
  | channelItems (query : ChannelsQuery) (channelId : String)
  | channelLatestItems (query : ChannelsQuery)
  | liveTvChannelItems (query : Items.ItemsQuery) (tunerId : Option String)

namespace ChannelRequest

/-- The handler of a Live TV view puts the tuners of the user into the query. -/
def answer (env : Surroundings) (sources : ChannelSources) (access : TunerAccess)
    (db : Database) : ChannelRequest → Except Api.ApiError QueryResult
  | channelItems query channelId => env.channelItems sources db query channelId
  | channelLatestItems query => .ok (env.channelLatestItems sources db query)
  | liveTvChannelItems query tunerId =>
    .ok (env.liveTvChannelItemsResult sources db (query.withTuners (some access.tunerIds)) tunerId)

/-- The request reads no channels without asking for the tuners of the user. -/
def isScoped : ChannelRequest → Bool
  | channelItems _ channelId => !isLiveTv channelId
  | channelLatestItems _ => false
  | liveTvChannelItems _ _ => true

end ChannelRequest

section Statement

variable (env : Surroundings) (sources : ChannelSources) (access : TunerAccess)

def ShowsAllowed (db : Database) (answer : QueryResult) : Prop :=
  ∀ item ∈ answer.items,
    (∃ channelId, item ∈ sources.providerContentItems channelId) ∨
      ∃ channel ∈ db.liveTvChannels env, channel.isOf access = true ∧
        (item = channel.row env ∨ item = setLiveTvChannelId (channel.row env))

/-- The answers tell nothing about channels of other tuners, as long as the databases are among
these. -/
def KeepsHidden (among : Database → Prop) (request : ChannelRequest) : Prop :=
  (∀ db, among db → ∀ answer, request.answer env sources access db = .ok answer →
    ShowsAllowed env sources access db answer) ∧
  ∀ db db', among db → among db' → SameChannelsFor env access db db' →
    request.answer env sources access db = request.answer env sources access db'

end Statement

/-! Requests that ask for the tuners of the user. -/

variable {record : LiveTvChannelRecord} {searchTerm : Option String}

section Scoped

variable {env : Surroundings} {sources : ChannelSources} {access : TunerAccess} {db db' : Database}

theorem mem_channels_iff : .persisted record ∈ db.liveTvChannels env ↔ record ∈ db.channels := by
  simp [Database.liveTvChannels]

theorem mem_configured_iff {item : Json} :
    .configured item ∈ db.liveTvChannels env ↔ item ∈ env.liveTvChannelItems db.config := by
  simp [Database.liveTvChannels]

theorem filter_liveTvChannels (db : Database) :
    (db.liveTvChannels env).filter (·.isOf access) =
      (db.channels.filter fun record => tunerIsAllowed access.tunerIds record.tunerId).map
          .persisted ++
        ((env.liveTvChannelItems db.config).filter (hasAllowedTuner access.tunerIds)).map
          .configured := by
  rw [Database.liveTvChannels, List.filter_append, List.filter_map, List.filter_map]
  rfl

theorem filter_channels_eq (h : SameChannelsFor env access db db') :
    db.channels.filter (fun record => tunerIsAllowed access.tunerIds record.tunerId) =
      db'.channels.filter fun record => tunerIsAllowed access.tunerIds record.tunerId := by
  rw [SameChannelsFor, filter_liveTvChannels, filter_liveTvChannels] at h
  have hrecords := congrArg (List.filterMap fun channel : LiveTvChannel =>
    match channel with
    | .persisted record => some record
    | .configured _ => none) h
  simpa [List.filterMap_append, List.filterMap_map, Function.comp_def] using hrecords

theorem filter_configured_eq (h : SameChannelsFor env access db db') :
    (env.liveTvChannelItems db.config).filter (hasAllowedTuner access.tunerIds) =
      (env.liveTvChannelItems db'.config).filter (hasAllowedTuner access.tunerIds) := by
  rw [SameChannelsFor, filter_liveTvChannels, filter_liveTvChannels] at h
  have hitems := congrArg (List.filterMap fun channel : LiveTvChannel =>
    match channel with
    | .persisted _ => none
    | .configured item => some item) h
  simpa [List.filterMap_append, List.filterMap_map, Function.comp_def] using hitems

theorem liveTvChannelPage_congr {p : LiveTvChannelRecord → Bool} {query : LiveTvChannelQuery}
    (h : db.channels.filter p = db'.channels.filter p)
    (hselects : ∀ record, query.selects record = true → p record = true)
    (searchTerm : Option String) :
    sources.liveTvChannelPage db query searchTerm =
      sources.liveTvChannelPage db' query searchTerm := by
  have hrows : ∀ db : Database,
      db.channels.filter query.selects = (db.channels.filter p).filter query.selects := by
    intro db
    rw [List.filter_filter]
    refine List.filter_congr fun record _ => ?_
    cases hrecord : query.selects record with
    | false => rfl
    | true => rw [hselects record hrecord, Bool.and_self]
  rw [ChannelSources.liveTvChannelPage, ChannelSources.liveTvChannelPage, hrows db, hrows db', h]

theorem mem_of_mem_liveTvChannelPage {query : LiveTvChannelQuery}
    (h : record ∈ (sources.liveTvChannelPage db query searchTerm).1) :
    record ∈ db.channels ∧ query.selects record = true := by
  rw [ChannelSources.liveTvChannelPage] at h
  have hrow : record ∈ (db.channels.filter query.selects).filter fun record =>
      (trimmedSearchTerm searchTerm).all (sources.nameMatches record.name) := by
    dsimp only at h
    split at h
    · exact List.mem_of_mem_drop (List.mem_of_mem_take h)
    · exact h
  exact List.mem_filter.mp (List.mem_of_mem_filter hrow)

theorem requestedTunerIds_spec {tunerIds : List String} {tunerId : Option String}
    (h : requestedTunerIds (some access.tunerIds) tunerId = some tunerIds) :
    tunerIds ≠ [] ∧ ∀ id ∈ tunerIds, id ∈ access.tunerIds := by
  cases tunerId with
  | none =>
    rw [requestedTunerIds] at h
    split at h
    · cases h
    · rename_i hempty
      cases h
      exact ⟨by simpa using hempty, fun _ hid => hid⟩
  | some requested =>
    rw [requestedTunerIds, Option.map_eq_some_iff] at h
    obtain ⟨id, hfind, rfl⟩ := h
    refine ⟨List.cons_ne_nil _ _, fun other hother => ?_⟩
    rw [List.mem_singleton.mp hother]
    exact List.mem_of_find?_eq_some hfind

theorem boundIds_of_access {tunerIds : List String} (h : ∀ id ∈ tunerIds, id ∈ access.tunerIds) :
    boundIds tunerIds = tunerIds := by
  have htrim : tunerIds.map Json.trim = tunerIds :=
    (List.map_congr_left fun id hid => (access.trimmed id (h id hid)).1).trans (List.map_id _)
  rw [boundIds, htrim, List.filter_eq_self]
  intro id hid
  simpa using (access.trimmed id (h id hid)).2

theorem tunerIsAllowed_of_selects {tunerIds : List String} {startIndex : Nat} {limit : Option Nat}
    {tunerId : Option String}
    (h : requestedTunerIds (some access.tunerIds) tunerId = some tunerIds)
    (hselects : LiveTvChannelQuery.selects ⟨startIndex, limit, tunerIds, []⟩ record = true) :
    tunerIsAllowed access.tunerIds record.tunerId = true := by
  obtain ⟨hne, hmem⟩ := requestedTunerIds_spec h
  rw [LiveTvChannelQuery.selects, Bool.and_eq_true] at hselects
  have hcontains := hselects.1
  rw [boundIds_of_access hmem, Bool.or_eq_true, List.isEmpty_iff, List.contains_iff_mem] at hcontains
  rw [tunerIsAllowed, List.any_eq_true]
  exact ⟨record.tunerId, hmem _ (hcontains.resolve_left hne), eqIgnoreAsciiCase_self _⟩

theorem liveTvChannelItemsResult_congr (h : SameChannelsFor env access db db')
    (query : Items.ItemsQuery) (tunerId : Option String) :
    env.liveTvChannelItemsResult sources db (query.withTuners (some access.tunerIds)) tunerId =
      env.liveTvChannelItemsResult sources db' (query.withTuners (some access.tunerIds)) tunerId := by
  have hconfigured : ∀ db : Database, (env.liveTvChannelItems db.config).filter (fun item =>
      liveTvItemIsVisibleToTuners item (some access.tunerIds)) =
        (env.liveTvChannelItems db.config).filter (hasAllowedTuner access.tunerIds) := fun _ => rfl
  simp only [Surroundings.liveTvChannelItemsResult, Items.ItemsQuery.withTuners_startIndex,
    Items.ItemsQuery.withTuners_limit, Items.ItemsQuery.withTuners_searchTerm,
    Items.ItemsQuery.withTuners_allowedPluginTunerIds, hconfigured, filter_configured_eq h,
    LiveTvChannelQuery.all]
  split
  · rfl
  · rename_i tunerIds htuners
    rw [liveTvChannelPage_congr (filter_channels_eq h) fun record hselects =>
      tunerIsAllowed_of_selects htuners hselects]

theorem mem_items_queryResultFrom {items : List Json} {startIndex : Nat} {limit : Option Nat}
    {item : Json} (h : item ∈ (queryResultFrom items startIndex limit).items) : item ∈ items := by
  cases limit with
  | none => exact List.mem_of_mem_drop h
  | some limit => exact List.mem_of_mem_drop (List.mem_of_mem_take h)

theorem mem_of_mem_filterChannelItemsBySearch {items : List Json} {item : Json}
    (h : item ∈ filterChannelItemsBySearch items searchTerm) : item ∈ items := by
  rw [filterChannelItemsBySearch] at h
  split at h
  · exact h
  · exact List.mem_of_mem_filter h

theorem showsAllowed_liveTvChannelItemsResult (query : Items.ItemsQuery) (tunerId : Option String) :
    ShowsAllowed env sources access db
      (env.liveTvChannelItemsResult sources db (query.withTuners (some access.tunerIds)) tunerId) := by
  intro item hitem
  rw [Surroundings.liveTvChannelItemsResult] at hitem
  right
  split at hitem
  · cases hitem
  · rename_i tunerIds htuners
    dsimp only at hitem
    split at hitem
    · obtain ⟨record, hrecord, rfl⟩ := List.mem_map.mp hitem
      obtain ⟨hmem, hselects⟩ := mem_of_mem_liveTvChannelPage hrecord
      exact ⟨.persisted record, mem_channels_iff.mpr hmem,
        tunerIsAllowed_of_selects htuners hselects, .inl rfl⟩
    · have hmem := mem_of_mem_filterChannelItemsBySearch (mem_items_queryResultFrom hitem)
      obtain ⟨hconfigured, hvisible⟩ := List.mem_filter.mp (List.mem_of_mem_filter hmem)
      exact ⟨.configured item, mem_configured_iff.mpr hconfigured, hvisible, .inl rfl⟩

theorem channelItems_eq_of_not_liveTv {query : ChannelsQuery} {channelId : String}
    (h : isLiveTv channelId = false) :
    env.channelItems sources db query channelId = env.channelItems sources db' query channelId := by
  simp only [Surroundings.channelItems, Surroundings.channelProviderAvailability,
    Surroundings.channelContentItems, h, Bool.false_and, Bool.false_eq_true, if_false,
    Option.all_some]

theorem showsAllowed_channelItems {query : ChannelsQuery} {channelId : String}
    {answer : QueryResult} (h : isLiveTv channelId = false)
    (hanswer : env.channelItems sources db query channelId = .ok answer) :
    ShowsAllowed env sources access db answer := by
  simp only [Surroundings.channelItems, Surroundings.channelContentItems, h, Bool.false_and,
    Bool.false_eq_true, if_false, Option.all_some, List.nil_append] at hanswer
  split at hanswer
  · cases hanswer
  · cases hanswer
    intro item hitem
    exact .inl ⟨some channelId,
      mem_of_mem_filterChannelItemsBySearch (mem_items_queryResultFrom hitem)⟩

theorem keepsHidden_of_isScoped {request : ChannelRequest} (h : request.isScoped = true) :
    KeepsHidden env sources access (fun _ => True) request := by
  cases request with
  | channelItems query channelId =>
    have hchannel : isLiveTv channelId = false := by simpa [ChannelRequest.isScoped] using h
    exact ⟨fun _ _ _ hanswer => showsAllowed_channelItems hchannel hanswer,
      fun _ _ _ _ _ => channelItems_eq_of_not_liveTv hchannel⟩
  | channelLatestItems query => cases h
  | liveTvChannelItems query tunerId =>
    refine ⟨fun _ _ _ hanswer => ?_, fun _ _ _ _ hsame =>
      congrArg Except.ok (liveTvChannelItemsResult_congr hsame query tunerId)⟩
    cases hanswer
    exact showsAllowed_liveTvChannelItemsResult query tunerId

end Scoped

/-! Databases without channels of other tuners. -/

section Open

variable {env : Surroundings} {sources : ChannelSources} {access : TunerAccess} {db db' : Database}

def AllAllowed (env : Surroundings) (access : TunerAccess) (db : Database) : Prop :=
  ∀ channel ∈ db.liveTvChannels env, channel.isOf access = true

theorem mem_liveTvContentItems {item : Json} (h : item ∈ env.liveTvContentItems sources db) :
    ∃ channel ∈ db.liveTvChannels env, item = setLiveTvChannelId (channel.row env) := by
  rw [Surroundings.liveTvContentItems] at h
  dsimp only at h
  split at h
  · obtain ⟨record, hrecord, rfl⟩ := List.mem_map.mp h
    exact ⟨.persisted record, mem_channels_iff.mpr (mem_of_mem_liveTvChannelPage hrecord).1, rfl⟩
  · obtain ⟨channel, hchannel, rfl⟩ := List.mem_map.mp h
    exact ⟨.configured channel, mem_configured_iff.mpr hchannel, rfl⟩

theorem mem_channelContentItems {channelId : Option String} {item : Json}
    (h : item ∈ env.channelContentItems sources db channelId) :
    item ∈ sources.providerContentItems channelId ∨
      ∃ channel ∈ db.liveTvChannels env, item = setLiveTvChannelId (channel.row env) := by
  rw [Surroundings.channelContentItems, List.mem_append] at h
  obtain h | h := h
  · split at h
    · exact .inr (mem_liveTvContentItems h)
    · cases h
  · exact .inl h

theorem showsAllowed_of_allAllowed (hall : AllAllowed env access db) {request : ChannelRequest}
    {answer : QueryResult} (hanswer : request.answer env sources access db = .ok answer) :
    ShowsAllowed env sources access db answer := by
  have hcontent : ∀ channelId, ∀ item ∈ env.channelContentItems sources db channelId,
      (∃ channelId, item ∈ sources.providerContentItems channelId) ∨
        ∃ channel ∈ db.liveTvChannels env, channel.isOf access = true ∧
          (item = channel.row env ∨ item = setLiveTvChannelId (channel.row env)) := by
    intro channelId item hitem
    obtain h | ⟨channel, hchannel, heq⟩ := mem_channelContentItems hitem
    · exact .inl ⟨channelId, h⟩
    · exact .inr ⟨channel, hchannel, hall channel hchannel, .inr heq⟩
  cases request with
  | channelItems query channelId =>
    simp only [ChannelRequest.answer, Surroundings.channelItems] at hanswer
    split at hanswer
    · cases hanswer
      intro item hitem
      obtain ⟨record, hrecord, rfl⟩ := List.mem_map.mp hitem
      have hmem : .persisted record ∈ db.liveTvChannels env :=
        mem_channels_iff.mpr (mem_of_mem_liveTvChannelPage hrecord).1
      exact .inr ⟨_, hmem, hall _ hmem, .inr rfl⟩
    · split at hanswer
      · cases hanswer
      · cases hanswer
        exact fun item hitem => hcontent _ item
          (mem_of_mem_filterChannelItemsBySearch (mem_items_queryResultFrom hitem))
  | channelLatestItems query =>
    cases hanswer
    intro item hitem
    have hmem := mem_items_queryResultFrom hitem
    rw [List.mem_insertionSort] at hmem
    exact hcontent _ item (mem_of_mem_filterChannelItemsBySearch hmem)
  | liveTvChannelItems query tunerId =>
    cases hanswer
    exact showsAllowed_liveTvChannelItemsResult query tunerId

theorem filter_channels_of_allAllowed (hall : AllAllowed env access db) :
    db.channels.filter (fun record => tunerIsAllowed access.tunerIds record.tunerId) =
      db.channels :=
  List.filter_eq_self.mpr fun record hrecord => hall (.persisted record) (mem_channels_iff.mpr hrecord)

theorem filter_configured_of_allAllowed (hall : AllAllowed env access db) :
    (env.liveTvChannelItems db.config).filter (hasAllowedTuner access.tunerIds) =
      env.liveTvChannelItems db.config :=
  List.filter_eq_self.mpr fun item hitem => hall (.configured item) (mem_configured_iff.mpr hitem)

theorem answer_eq_of_allAllowed (hall : AllAllowed env access db) (hall' : AllAllowed env access db')
    (h : SameChannelsFor env access db db') (request : ChannelRequest) :
    request.answer env sources access db = request.answer env sources access db' := by
  have hchannels : db.channels = db'.channels := by
    rw [← filter_channels_of_allAllowed hall, filter_channels_eq h,
      filter_channels_of_allAllowed hall']
  have hconfigured : env.liveTvChannelItems db.config = env.liveTvChannelItems db'.config := by
    rw [← filter_configured_of_allAllowed hall, filter_configured_eq h,
      filter_configured_of_allAllowed hall']
  have hpage : ∀ query searchTerm, sources.liveTvChannelPage db query searchTerm =
      sources.liveTvChannelPage db' query searchTerm := by
    intro query searchTerm
    rw [ChannelSources.liveTvChannelPage, ChannelSources.liveTvChannelPage, hchannels]
  have hcontent : ∀ channelId, env.channelContentItems sources db channelId =
      env.channelContentItems sources db' channelId := by
    intro channelId
    rw [Surroundings.channelContentItems, Surroundings.channelContentItems,
      Surroundings.liveTvContentItems, Surroundings.liveTvContentItems, hpage, hconfigured]
  cases request with
  | channelItems query channelId =>
    have havailable : env.channelProviderAvailability sources db channelId =
        env.channelProviderAvailability sources db' channelId := by
      rw [Surroundings.channelProviderAvailability, Surroundings.channelProviderAvailability,
        Database.liveTvChannelCount, Database.liveTvChannelCount, hchannels, hconfigured]
    rw [ChannelRequest.answer, ChannelRequest.answer, Surroundings.channelItems,
      Surroundings.channelItems, hpage, havailable, hcontent]
  | channelLatestItems query =>
    rw [ChannelRequest.answer, ChannelRequest.answer, Surroundings.channelLatestItems,
      Surroundings.channelLatestItems, hcontent]
  | liveTvChannelItems query tunerId =>
    exact congrArg Except.ok (liveTvChannelItemsResult_congr h query tunerId)

end Open

/-! Channels of other tuners that a request finds. -/

def channelNamed (tunerId name : String) (index : Nat) : LiveTvChannelRecord where
  channelId := toString index
  tunerId := tunerId
  remoteId := ""
  categoryId := none
  categoryName := none
  name := name
  sortName := name
  number := none
  streamUrl := "http://tuner/"
  logoUrl := none
  channelType := "TV"
  metadata := .null

def channelsNamed (tunerId name : String) (count : Nat) : Database where
  configuration := some (.object [])
  channels := (List.range count).map (channelNamed tunerId name)
  categories := []

section Hidden

variable {env : Surroundings} {sources : ChannelSources} {access : TunerAccess}

theorem name_liveTvChannelRecordToJson (hmetadata : record.metadata = .null)
    (hcategory : record.categoryName = none) (hlogo : record.logoUrl = none)
    (hstream : Json.trim record.streamUrl ≠ "") :
    (env.liveTvChannelRecordToJson record).stringField "Name" =
      if Json.trim record.name = "" then none else some (Json.trim record.name) := by
  have hflags : ∀ item : Json, (applyLiveTvCategoryFlags item).stringField "Name" =
      item.stringField "Name" := by
    intro item
    simp (disch := decide) only [applyLiveTvCategoryFlags, Json.stringField_set]
  simp only [Surroundings.liveTvChannelRecordToJson, hmetadata, hcategory, hlogo, hstream, if_false,
    apply_ite (fun item : Json => item.stringField "Name"),
    env.stringField_setMediaSources _ (show eqIgnoreAsciiCase "MediaSources" "Name" = false by decide),
    ite_self]
  rw [stringField_applyLiveTvImageMetadata _ (by decide), hflags]
  simp (disch := decide) only [Json.stringField_set]
  refine Json.stringField_set_self ?_ ?_
  · simp only [Json.isObject_set]
    rfl
  · repeat refine Json.HasSpelling.set ?_ _ (by decide)
    rintro fields ⟨⟩ entry ⟨⟩

theorem name_channelNamed (tunerId name : String) (index : Nat) :
    (env.liveTvChannelRecordToJson (channelNamed tunerId name index)).stringField "Name" =
      if Json.trim name = "" then none else some (Json.trim name) := by
  have hstream : Json.trim "http://tuner/" ≠ "" := by decide
  exact name_liveTvChannelRecordToJson rfl rfl rfl hstream

variable {tunerId name : String} {count : Nat}

theorem liveTvChannelItems_channelsNamed :
    env.liveTvChannelItems (channelsNamed tunerId name count).config = [] := rfl

theorem sameChannelsFor_channelsNamed (h : tunerIsAllowed access.tunerIds tunerId = false)
    (name : String) (count count' : Nat) :
    SameChannelsFor env access (channelsNamed tunerId name count)
      (channelsNamed tunerId name count') := by
  have hnone : ∀ count, ((channelsNamed tunerId name count).liveTvChannels env).filter
      (·.isOf access) = [] := by
    intro count
    rw [Database.liveTvChannels, liveTvChannelItems_channelsNamed, List.map_nil, List.append_nil,
      List.filter_eq_nil_iff]
    intro channel hchannel
    obtain ⟨record, hrecord, rfl⟩ := List.mem_map.mp hchannel
    obtain ⟨index, -, rfl⟩ := List.mem_map.mp hrecord
    exact Bool.eq_false_iff.mp h
  rw [SameChannelsFor, hnone, hnone]

theorem liveTvChannelPage_channelsNamed {startIndex : Nat} {limit : Option Nat}
    (h : (trimmedSearchTerm searchTerm).all (sources.nameMatches name) = true) :
    sources.liveTvChannelPage (channelsNamed tunerId name count) ⟨startIndex, limit, [], []⟩
        searchTerm =
      ((match limit with
        | some limit => ((channelsNamed tunerId name count).channels.drop startIndex).take limit
        | none => (channelsNamed tunerId name count).channels), count) := by
  have hselects : (channelsNamed tunerId name count).channels.filter
      (LiveTvChannelQuery.selects ⟨startIndex, limit, [], []⟩) =
        (channelsNamed tunerId name count).channels :=
    List.filter_eq_self.mpr fun _ _ => rfl
  have hmatches : (channelsNamed tunerId name count).channels.filter (fun record =>
      (trimmedSearchTerm searchTerm).all (sources.nameMatches record.name)) =
        (channelsNamed tunerId name count).channels := by
    rw [List.filter_eq_self]
    intro record hrecord
    obtain ⟨index, -, rfl⟩ := List.mem_map.mp hrecord
    exact h
  have hlength : (channelsNamed tunerId name count).channels.length = count := by
    simp [channelsNamed]
  cases limit with
  | none => simp only [ChannelSources.liveTvChannelPage, hselects, hmatches, hlength]
  | some limit => simp only [ChannelSources.liveTvChannelPage, hselects, hmatches, hlength]

theorem total_channelItems_channelsNamed {query : ChannelsQuery} {channelId : String}
    (hchannel : isLiveTv channelId = true) (hcount : 0 < count)
    (hname : (trimmedSearchTerm query.searchTerm).all (sources.nameMatches name) = true) :
    (env.channelItems sources (channelsNamed tunerId name count) query channelId).toOption.map
      (·.totalRecordCount) = some count := by
  simp only [Surroundings.channelItems, LiveTvChannelQuery.all,
    liveTvChannelPage_channelsNamed hname, hchannel, Bool.true_and, decide_eq_true_iff, hcount,
    if_true]
  rfl

theorem filterChannelItemsBySearch_append (items items' : List Json) (searchTerm : Option String) :
    filterChannelItemsBySearch (items ++ items') searchTerm =
      filterChannelItemsBySearch items searchTerm ++
        filterChannelItemsBySearch items' searchTerm := by
  simp only [filterChannelItemsBySearch]
  split
  · rfl
  · exact List.filter_append ..

theorem itemMatchesSearch_of_name {item : Json} {searchTerm : String}
    (h : item.stringField "Name" = some searchTerm) : itemMatchesSearch searchTerm item = true := by
  rw [itemMatchesSearch, List.any_eq_true]
  refine ⟨searchTerm, ?_, contains_self _⟩
  rw [Json.stringFields, List.mem_filterMap]
  exact ⟨"Name", List.mem_cons_self, h⟩

theorem liveTvContentItems_channelsNamed (hpos : 0 < count) (hcount : count ≤ 100) :
    env.liveTvContentItems sources (channelsNamed tunerId name count) =
      (channelsNamed tunerId name count).channels.map fun record =>
        setLiveTvChannelId (env.liveTvChannelRecordToJson record) := by
  have htake : (channelsNamed tunerId name count).channels.take 100 =
      (channelsNamed tunerId name count).channels :=
    List.take_of_length_le (by simpa [channelsNamed] using hcount)
  rw [Surroundings.liveTvContentItems]
  have hsearch : (trimmedSearchTerm none).all (sources.nameMatches name) = true := rfl
  simp only [LiveTvChannelQuery.all, liveTvChannelPage_channelsNamed hsearch, if_pos hpos,
    List.drop_zero, htake]

theorem filterChannelItemsBySearch_channelsNamed
    (hname : ∀ term, trimmedSearchTerm searchTerm = some term → name = term) :
    filterChannelItemsBySearch ((channelsNamed tunerId name count).channels.map fun record =>
        setLiveTvChannelId (env.liveTvChannelRecordToJson record)) searchTerm =
      (channelsNamed tunerId name count).channels.map fun record =>
        setLiveTvChannelId (env.liveTvChannelRecordToJson record) := by
  rw [filterChannelItemsBySearch]
  split
  · rfl
  · rename_i term hterm
    obtain ⟨hmap, hne⟩ := Option.filter_eq_some_iff.mp hterm
    obtain ⟨text, -, rfl⟩ := Option.map_eq_some_iff.mp hmap
    rw [List.filter_eq_self]
    intro item hitem
    obtain ⟨record, hrecord, rfl⟩ := List.mem_map.mp hitem
    obtain ⟨index, -, rfl⟩ := List.mem_map.mp hrecord
    refine itemMatchesSearch_of_name ?_
    rw [setLiveTvChannelId, Json.stringField_set _ _ (by decide),
      name_channelNamed, hname _ hterm, Json.trim_trim]
    exact if_neg (by simpa using hne)

theorem total_channelLatestItems_channelsNamed {query : ChannelsQuery} (hpos : 0 < count)
    (hcount : count ≤ 100)
    (hname : ∀ term, trimmedSearchTerm query.searchTerm = some term → name = term) :
    (env.channelLatestItems sources (channelsNamed tunerId name count) query).totalRecordCount =
      count + (filterChannelItemsBySearch (sources.providerContentItems none)
        query.searchTerm).length := by
  rw [Surroundings.channelLatestItems, queryResultFrom, List.length_insertionSort,
    Surroundings.channelContentItems, Option.all_none, if_pos rfl,
    liveTvContentItems_channelsNamed hpos hcount, filterChannelItemsBySearch_append,
    filterChannelItemsBySearch_channelsNamed hname, List.length_append, List.length_map]
  simp [channelsNamed]

theorem not_keepsHidden_of_not_isScoped {request : ChannelRequest} (h : request.isScoped = false)
    (hnames : ∀ term, ∃ name, sources.nameMatches name term = true) :
    ¬ KeepsHidden env sources access (fun _ => True) request := by
  intro hkeeps
  obtain ⟨tunerId, htuner⟩ : ∃ tunerId, tunerIsAllowed access.tunerIds tunerId = false :=
    ⟨_, not_any_unusedName access.tunerIds⟩
  have hsame : ∀ name, request.answer env sources access (channelsNamed tunerId name 1) =
      request.answer env sources access (channelsNamed tunerId name 2) :=
    fun name => hkeeps.2 _ _ trivial trivial (sameChannelsFor_channelsNamed htuner name 1 2)
  cases request with
  | channelItems query channelId =>
    have hchannel : isLiveTv channelId = true := by simpa [ChannelRequest.isScoped] using h
    obtain ⟨name, hname⟩ : ∃ name,
        (trimmedSearchTerm query.searchTerm).all (sources.nameMatches name) = true := by
      cases trimmedSearchTerm query.searchTerm with
      | none => exact ⟨"", rfl⟩
      | some term => exact hnames term
    have htotal := congrArg (fun answer : Except Api.ApiError QueryResult =>
      answer.toOption.map (·.totalRecordCount)) (hsame name)
    simp only [ChannelRequest.answer,
      total_channelItems_channelsNamed hchannel Nat.one_pos hname,
      total_channelItems_channelsNamed hchannel Nat.two_pos hname] at htotal
    exact absurd htotal (by decide)
  | channelLatestItems query =>
    obtain ⟨name, hname⟩ : ∃ name, ∀ term,
        trimmedSearchTerm query.searchTerm = some term → name = term :=
      ⟨(trimmedSearchTerm query.searchTerm).getD "", fun term hterm => by rw [hterm]; rfl⟩
    have htotal := congrArg QueryResult.totalRecordCount (Except.ok.inj (hsame name))
    rw [total_channelLatestItems_channelsNamed Nat.one_pos (by decide) hname,
      total_channelLatestItems_channelsNamed Nat.two_pos (by decide) hname] at htotal
    omega
  | liveTvChannelItems query tunerId => cases h

end Hidden

/-- The lists of channels keep the tuners of others to themselves just when they ask for those of
the user, or there are no others. -/
theorem channels_of_other_tuners_stay_hidden_iff (env : Surroundings) {sources : ChannelSources}
    (access : TunerAccess) (request : ChannelRequest)
    (hnames : ∀ term, ∃ name, sources.nameMatches name term = true) :
    (KeepsHidden env sources access (fun _ => True) request ↔ request.isScoped = true) ∧
      KeepsHidden env sources access (AllAllowed env access) request := by
  refine ⟨⟨fun hkeeps => ?_, keepsHidden_of_isScoped⟩,
    fun _ hall _ hanswer => showsAllowed_of_allAllowed hall hanswer,
    fun _ _ hall hall' hsame => answer_eq_of_allAllowed hall hall' hsame request⟩
  by_contra hscoped
  exact not_keepsHidden_of_not_isScoped (Bool.eq_false_iff.mpr hscoped) hnames hkeeps

def quietServer : Surroundings where
  serverId := "server"
  now := 0
  parseRfc3339 := fun _ => none
  formatTimeForJson := fun _ => ""
  liveTvChannelMediaSource := fun _ => none

def liveTvOnly : ChannelSources where
  channelsConfiguration := none
  pluginChannelProviderSnapshots := []
  channelContentItemJson := fun item _ _ => item
  nameMatches := fun name term => contains (toAsciiLowercase name) (toAsciiLowercase term)

def accessToA : TunerAccess where
  tunerIds := ["a"]
  trimmed := by decide

theorem channels_of_b_stay_hidden_in_views :
    KeepsHidden quietServer liveTvOnly accessToA (fun _ => True) (.liveTvChannelItems {} none) :=
  (channels_of_other_tuners_stay_hidden_iff quietServer accessToA (.liveTvChannelItems {} none)
    fun term => ⟨term, contains_self _⟩).1.mpr rfl

def tunersAAndB : Json :=
  .object [("TunerHosts", .array [.object [("Id", .string "a")], .object [("Id", .string "b")]])]

theorem channels_of_b_are_counted_for_a :
    authorizedLiveTvTunerIds tunersAAndB (fun _ => true)
        (fun tuner => tuner.stringField "Id" == some "a") = some accessToA ∧
      SameChannelsFor quietServer accessToA (channelsNamed "b" "News" 0)
        (channelsNamed "b" "News" 1) ∧
      quietServer.channelItems liveTvOnly (channelsNamed "b" "News" 0) ⟨none, none, none⟩ "livetv" ≠
        quietServer.channelItems liveTvOnly (channelsNamed "b" "News" 1) ⟨none, none, none⟩
          "livetv" := by
  refine ⟨rfl, sameChannelsFor_channelsNamed (by decide) "News" 0 1, fun heq => ?_⟩
  have htotal := congrArg (fun answer => answer.toOption.map (·.totalRecordCount)) heq
  revert htotal
  decide

end Jellyrin.LiveTv.Guide
