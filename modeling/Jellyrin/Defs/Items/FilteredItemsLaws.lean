import Jellyrin.Defs.Items.FilteredItems

/-! What the filters in memory come to. -/

namespace Jellyrin.Items

open Api Ascii ClientIds Text Metadata

theorem bind_toOption_of_ok {α β : Type} {f : α → Except Panic (Except ApiError β)}
    {value : Option α} {result : Option β} (h : traverseOption f value = .ok result) :
    (value.bind fun a => (handled (f a)).toOption) = result := by
  cases value with
  | none =>
    cases h
    rfl
  | some a =>
    rw [traverseOption] at h
    rw [Option.bind_some]
    cases hf : handled (f a) with
    | error error =>
      rw [hf] at h
      cases h
    | ok b =>
      rw [hf] at h
      cases h
      rfl

/-! Selectors. -/

structure IsNormalized (value : String) : Prop where
  whole : ',' ∉ value.toList
  trimmed : Json.trim value = value
  nonempty : value ≠ ""
  lowered : toAsciiLowercase value = value

theorem comma_notMem_toAsciiLowercase {value : String} (h : ',' ∉ value.toList) :
    ',' ∉ (toAsciiLowercase value).toList := by
  intro hcomma
  rw [toAsciiLowercase, String.toList_ofList] at hcomma
  obtain ⟨c, hc, hlower⟩ := List.mem_map.mp hcomma
  have hself : c.toLower = c := by
    refine toLower_eq_self fun hupper => ?_
    have hge : 65 ≤ c.toNat := hupper.1
    have hcode := toNat_toLower hupper
    rw [hlower] at hcode
    have hcomma : ','.toNat = 44 := rfl
    omega
  rw [← hself, hlower] at hc
  exact h hc

theorem isNormalized_of_mem_csvValues {values : List String} {value : String}
    (h : value ∈ (csvValuesLowercase values).getD []) : IsNormalized value := by
  have hmem : value ∈ (((values.flatMap (split ',')).map Json.trim).filter (· ≠ "")).map
      toAsciiLowercase := by
    rw [csvValuesLowercase] at h
    split at h
    · cases h
    · exact h
  obtain ⟨trimmed, htrimmed, rfl⟩ := List.mem_map.mp hmem
  obtain ⟨htrimmed, hne⟩ := List.mem_filter.mp htrimmed
  obtain ⟨part, hpart, rfl⟩ := List.mem_map.mp htrimmed
  obtain ⟨whole, -, hpart⟩ := List.mem_flatMap.mp hpart
  refine ⟨?_, ?_, ?_, toAsciiLowercase_idem _⟩
  · exact comma_notMem_toAsciiLowercase fun hc =>
      notMem_of_mem_split hpart (Json.mem_of_mem_trim hc)
  · rw [Json.trim_toAsciiLowercase, Json.trim_trim]
  · intro hempty
    have hlist := congrArg String.toList hempty
    simp only [toAsciiLowercase, String.toList_ofList, String.toList_empty, List.map_eq_nil_iff]
      at hlist
    exact absurd (String.toList_eq_nil_iff.mp hlist) (by simpa using hne)

theorem csvValuesLowercase_of_isNormalized {values : List String}
    (h : ∀ value ∈ values, IsNormalized value) :
    csvValuesLowercase values = presentValues values := by
  have hsplit : values.flatMap (split ',') = values := by
    rw [List.flatMap_congr fun value hvalue => split_of_notMem (h value hvalue).whole]
    exact List.flatMap_singleton' values
  have htrim : values.map Json.trim = values :=
    List.map_congr_left (fun value hvalue => (h value hvalue).trimmed) |>.trans (List.map_id _)
  have hfilter : values.filter (fun value => decide (value ≠ "")) = values :=
    List.filter_eq_self.mpr fun value hvalue => decide_eq_true (h value hvalue).nonempty
  have hlower : values.map toAsciiLowercase = values :=
    List.map_congr_left (fun value hvalue => (h value hvalue).lowered) |>.trans (List.map_id _)
  rw [csvValuesLowercase, hsplit, htrim, hfilter, hlower]
  rfl

theorem mem_sortDedup {values : List String} {value : String} (h : value ∈ sortDedup values) :
    value ∈ values :=
  (List.mem_insertionSort _).mp ((List.destutter_sublist _ _).mem h)

@[simp] theorem csvValuesLowercase_normalizedSelectors (values : List String) :
    csvValuesLowercase (normalizedSelectors values) = presentValues (normalizedSelectors values) :=
  csvValuesLowercase_of_isNormalized fun _ h => isNormalized_of_mem_csvValues (mem_sortDedup h)

theorem normalizedCatalogFilterValues_ok {values : List String} {field : String}
    {selectors : List String}
    (h : normalizedCatalogFilterValues values field = .ok selectors) :
    selectors = normalizedSelectors values := by
  rw [normalizedCatalogFilterValues] at h
  split at h
  · cases h
  · cases h
    rfl

/-! Metadata that are not read change nothing. -/

section Metadata

variable {fmt : ItemFormats} {store : ItemStore} {query : ItemsQuery} {selectors : ItemSelectors}
  {item : MediaItem}

theorem hasTrailer_of_not_read (h : metadataIsRead query selectors = false) :
    flagOrToken query.hasTrailer (csvValuesLowercase query.filters) (tokenIfPresent "hastrailer") =
      none := by
  simp only [metadataIsRead, Bool.or_eq_false_iff, Option.isSome_eq_false_iff,
    Option.isNone_iff_eq_none] at h
  cases hfilters : csvValuesLowercase query.filters with
  | none => simp [flagOrToken, h]
  | some filters =>
    simp only [hfilters, Option.any_some, List.contains_eq_mem, decide_eq_false_iff_not] at h
    simp [flagOrToken, tokenIfPresent, h]

theorem meetsFieldFilters_metadataRead :
    meetsFieldFilters fmt query (metadataRead store query selectors) item =
      meetsFieldFilters fmt query store.metadata item := by
  cases h : metadataIsRead query selectors with
  | true => rw [metadataRead, if_pos h]
  | false =>
    have htrailer := hasTrailer_of_not_read h
    simp only [metadataIsRead, Bool.or_eq_false_iff, Option.isSome_eq_false_iff,
      Option.isNone_iff_eq_none] at h
    simp only [meetsFieldFilters, htrailer]
    simp [flagIs, h]

theorem meetsSearchFilter_metadataRead :
    meetsSearchFilter fmt query (metadataRead store query selectors) item =
      meetsSearchFilter fmt query store.metadata item := by
  cases h : metadataIsRead query selectors with
  | true => rw [metadataRead, if_pos h]
  | false =>
    simp only [metadataIsRead, Bool.or_eq_false_iff, Option.isSome_eq_false_iff,
      Option.isNone_iff_eq_none] at h
    simp [meetsSearchFilter, h]

theorem meetsValueFilters_metadataRead :
    meetsValueFilters fmt query (metadataRead store query selectors) selectors item =
      meetsValueFilters fmt query store.metadata selectors item := by
  cases h : metadataIsRead query selectors with
  | true => rw [metadataRead, if_pos h]
  | false =>
    simp only [metadataIsRead, Bool.or_eq_false_iff, Option.isSome_eq_false_iff,
      Option.isNone_iff_eq_none] at h
    simp [meetsValueFilters, h]

theorem meetsRangeFilters_metadataRead :
    meetsRangeFilters fmt query (metadataRead store query selectors) item =
      meetsRangeFilters fmt query store.metadata item := by
  cases h : metadataIsRead query selectors with
  | true => rw [metadataRead, if_pos h]
  | false =>
    simp only [metadataIsRead, Bool.or_eq_false_iff, Option.isSome_eq_false_iff,
      Option.isNone_iff_eq_none] at h
    have hmeets : ∀ metadata, meetsRangeFilters fmt query metadata item = true := by
      intro metadata
      rw [meetsRangeFilters]
      cases metadata item.id with
      | none => rfl
      | some value => simp [ItemFormats.ratingsMatch, h]
    rw [hmeets, hmeets]

theorem meetsPremiereFilter_metadataRead :
    meetsPremiereFilter fmt query (metadataRead store query selectors) item =
      meetsPremiereFilter fmt query store.metadata item := by
  cases h : metadataIsRead query selectors with
  | true => rw [metadataRead, if_pos h]
  | false =>
    simp only [metadataIsRead, Bool.or_eq_false_iff, Option.isSome_eq_false_iff,
      Option.isNone_iff_eq_none] at h
    simp [meetsPremiereFilter, h]

end Metadata

/-! The items of a request. -/

def itemSelectors (query : ItemsQuery) : ItemSelectors where
  personIds := presentValues (normalizedSelectors query.personIds)
  genreIds := presentValues (normalizedSelectors query.genreIds)
  studioIds := presentValues (normalizedSelectors query.studioIds)
  tags := presentValues (normalizedSelectors query.tags)

def meetsPlainFilters (fmt : ItemFormats) (store : ItemStore) (query : ItemsQuery)
    (item : MediaItem) : Bool :=
  isVisibleTo query.allowedPluginTunerIds store.metadata item &&
    meetsFieldFilters fmt query store.metadata item &&
    meetsValueFilters fmt query store.metadata (itemSelectors query) item &&
    meetsPremiereFilter fmt query store.metadata item &&
    nameMatches query.nameStartsWith query.nameStartsWithOrGreater query.nameLessThan item

def meetsRequest (fmt : ItemFormats) (store : ItemStore) (query : ItemsQuery)
    (userId : Option Uuid) (parentIds ids : Option (List Uuid)) (item : MediaItem) : Bool :=
  parentIds.all (·.contains item.virtualFolderId) && ids.all (·.contains item.id) &&
    meetsSearchFilter fmt query store.metadata item &&
    meetsRangeFilters fmt query store.metadata item &&
    (meetsPlainFilters fmt store query item && meetsPlaybackFilters store query userId item)

theorem meetsFilters_eq (fmt : ItemFormats) (store : ItemStore) (query : ItemsQuery)
    (userId : Option Uuid) (parentIds ids : Option (List Uuid)) (item : MediaItem) :
    (meetsFilters fmt query (metadataRead store query (itemSelectors query)) store parentIds ids
        (itemSelectors query) item && meetsPlaybackFilters store query userId item) =
      meetsRequest fmt store query userId parentIds ids item := by
  rw [meetsFilters, meetsFieldFilters_metadataRead, meetsSearchFilter_metadataRead,
    meetsValueFilters_metadataRead, meetsRangeFilters_metadataRead,
    meetsPremiereFilter_metadataRead, meetsRequest, meetsPlainFilters]
  ac_rfl

def readFilters (query : ItemsQuery) :
    Except Failure (Option Uuid × Option (List Uuid) × ItemSelectors) := do
  let parentId ← traverseOption parseJellyfinUuid query.parentId
  let ids ← traverseOption parseUuidList query.ids
  let personIds ← normalizedCatalogFilterValues query.personIds "PersonIds"
  let genreIds ← normalizedCatalogFilterValues query.genreIds "GenreIds"
  let studioIds ← normalizedCatalogFilterValues query.studioIds "StudioIds"
  let tags ← normalizedCatalogFilterValues query.tags "Tags"
  return (parentId, ids, ⟨presentValues personIds, presentValues genreIds,
    presentValues studioIds, presentValues tags⟩)

theorem filteredMediaItems_of_error {fmt : ItemFormats} {store : ItemStore}
    {items : List MediaItem} {query : ItemsQuery} {userId : Option Uuid} {error : Failure}
    (h : readFilters query = .error error) :
    filteredMediaItems fmt store items query userId = .error error := by
  have hread : filteredMediaItems fmt store items query userId =
      readFilters query >>= fun (parentId, ids, selectors) =>
        .ok (sortBy (compareFiltered fmt query (metadataRead store query selectors))
          (items.filter fun item =>
            meetsFilters fmt query (metadataRead store query selectors) store
              (parentId.map (parentFolderIds fmt store.folders)) ids selectors item &&
                meetsPlaybackFilters store query userId item)) := by
    simp only [filteredMediaItems, readFilters, bind_assoc, pure_bind]
    rfl
  rw [hread, h]
  rfl

theorem filteredMediaItems_eq {query : ItemsQuery} {parentId : Option Uuid}
    {ids : Option (List Uuid)} (fmt : ItemFormats) (store : ItemStore) (items : List MediaItem)
    (userId : Option Uuid)
    (hparent : traverseOption parseJellyfinUuid query.parentId = .ok parentId)
    (hids : traverseOption parseUuidList query.ids = .ok ids)
    (hpersons : normalizedCatalogFilterValues query.personIds "PersonIds" =
      .ok (normalizedSelectors query.personIds))
    (hgenres : normalizedCatalogFilterValues query.genreIds "GenreIds" =
      .ok (normalizedSelectors query.genreIds))
    (hstudios : normalizedCatalogFilterValues query.studioIds "StudioIds" =
      .ok (normalizedSelectors query.studioIds))
    (htags : normalizedCatalogFilterValues query.tags "Tags" =
      .ok (normalizedSelectors query.tags)) :
    filteredMediaItems fmt store items query userId =
      .ok (sortBy (compareFiltered fmt query (metadataRead store query (itemSelectors query)))
        (items.filter (meetsRequest fmt store query userId
          (parentId.map (parentFolderIds fmt store.folders)) ids))) := by
  have hfilter := List.filter_congr (l := items) fun item _ =>
    meetsFilters_eq fmt store query userId (parentId.map (parentFolderIds fmt store.folders)) ids
      item
  rw [filteredMediaItems, hparent, hids, hpersons, hgenres, hstudios, htags, ← hfilter]
  rfl

theorem filteredMediaItems_of_ok {fmt : ItemFormats} {store : ItemStore} {items : List MediaItem}
    {query : ItemsQuery} {userId : Option Uuid}
    {read : Option Uuid × Option (List Uuid) × ItemSelectors} (h : readFilters query = .ok read) :
    filteredMediaItems fmt store items query userId =
      .ok (sortBy (compareFiltered fmt query (metadataRead store query (itemSelectors query)))
        (items.filter (meetsRequest fmt store query userId
          (read.1.map (parentFolderIds fmt store.folders)) read.2.1))) := by
  obtain ⟨parentId, hparent, h⟩ := exists_of_bind_eq_ok h
  obtain ⟨ids, hids, h⟩ := exists_of_bind_eq_ok h
  obtain ⟨personIds, hpersons, h⟩ := exists_of_bind_eq_ok h
  obtain ⟨genreIds, hgenres, h⟩ := exists_of_bind_eq_ok h
  obtain ⟨studioIds, hstudios, h⟩ := exists_of_bind_eq_ok h
  obtain ⟨tags, htags, h⟩ := exists_of_bind_eq_ok h
  cases normalizedCatalogFilterValues_ok hpersons
  cases normalizedCatalogFilterValues_ok hgenres
  cases normalizedCatalogFilterValues_ok hstudios
  cases normalizedCatalogFilterValues_ok htags
  cases h
  exact filteredMediaItems_eq fmt store items userId hparent hids hpersons hgenres hstudios htags

end Jellyrin.Items
