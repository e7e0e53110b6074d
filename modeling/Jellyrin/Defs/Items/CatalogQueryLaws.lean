import Jellyrin.Defs.Items.FilteredItemsLaws

/-! The rows of the repository and the rows of the filters in memory. -/

namespace Jellyrin.Items

open Api Ascii ClientIds Text Metadata

/-! The gate. -/

structure PassesGate (fmt : ItemFormats) (query : ItemsQuery) (userId : Option Uuid)
    (q : MediaItemCatalogQuery) (limit : Nat) (ids : Option (List Uuid)) : Prop where
  genres : normalizedCatalogFilterValues query.genreIds "GenreIds" =
    .ok (normalizedSelectors query.genreIds)
  persons : normalizedCatalogFilterValues query.personIds "PersonIds" =
    .ok (normalizedSelectors query.personIds)
  studios : normalizedCatalogFilterValues query.studioIds "StudioIds" =
    .ok (normalizedSelectors query.studioIds)
  tags : normalizedCatalogFilterValues query.tags "Tags" = .ok (normalizedSelectors query.tags)
  limited : query.limit = some limit
  plain : isCatalogQuery query (normalizedSelectors query.personIds) = true
  identified : traverseOption parseUuidList query.ids = .ok ids
  built : q = catalogQueryOf fmt query userId limit ids (normalizedSelectors query.genreIds)
    (normalizedSelectors query.personIds) (normalizedSelectors query.studioIds)
    (normalizedSelectors query.tags)

theorem passesGate {fmt : ItemFormats} {query : ItemsQuery} {userId : Option Uuid}
    {q : MediaItemCatalogQuery} (h : mediaCatalogQueryForItems fmt query userId = .ok (some q)) :
    ∃ limit ids, PassesGate fmt query userId q limit ids := by
  rw [mediaCatalogQueryForItems] at h
  obtain ⟨genreIds, hgenres, h⟩ := exists_of_bind_eq_ok h
  obtain ⟨personIds, hpersons, h⟩ := exists_of_bind_eq_ok h
  obtain ⟨studioIds, hstudios, h⟩ := exists_of_bind_eq_ok h
  obtain ⟨tags, htags, h⟩ := exists_of_bind_eq_ok h
  cases normalizedCatalogFilterValues_ok hgenres
  cases normalizedCatalogFilterValues_ok hpersons
  cases normalizedCatalogFilterValues_ok hstudios
  cases normalizedCatalogFilterValues_ok htags
  cases hlimit : query.limit with
  | none =>
    rw [hlimit] at h
    cases h
  | some limit =>
    rw [hlimit] at h
    change (if _ then _ else _) = _ at h
    split at h
    · rename_i hplain
      obtain ⟨ids, hids, h⟩ := exists_of_bind_eq_ok h
      cases h
      exact ⟨limit, ids, hgenres, hpersons, hstudios, htags, hlimit, hplain, hids, rfl⟩
    · cases h

theorem PassesGate.parentId {fmt : ItemFormats} {query : ItemsQuery} {userId : Option Uuid}
    {q : MediaItemCatalogQuery} {limit : Nat} {ids : Option (List Uuid)}
    (h : PassesGate fmt query userId q limit ids) : query.parentId = none := by
  have hplain := h.plain
  simp only [isCatalogQuery, Bool.and_eq_true, Option.isNone_iff_eq_none] at hplain
  simp [hplain]

/-! The selection. -/

def requestedIds (query : ItemsQuery) : Option (List Uuid) :=
  query.ids.bind fun ids => (handled (parseUuidList ids)).toOption

def nameHasTerm (query : ItemsQuery) (item : MediaItem) : Bool :=
  (normalizedPrefix query.searchTerm).all (contains (toAsciiLowercase item.name))

def ratingsAreKnown (store : ItemStore) (query : ItemsQuery) (item : MediaItem) : Bool :=
  (query.minCommunityRating.isNone && query.maxCommunityRating.isNone &&
    query.minCriticRating.isNone && query.maxCriticRating.isNone) || (store.metadata item.id).isSome

theorem meetsSearchFilter_of_name {fmt : ItemFormats} {query : ItemsQuery}
    {metadata : Uuid → Option Json} {item : MediaItem} (h : nameHasTerm query item = true) :
    meetsSearchFilter fmt query metadata item = true := by
  rw [meetsSearchFilter]
  rw [nameHasTerm] at h
  cases hterm : normalizedPrefix query.searchTerm with
  | none => rfl
  | some term =>
    rw [hterm] at h
    rw [Option.all_some] at h ⊢
    rw [h, Bool.true_or]

section Selection

variable (fmt : ItemFormats) (store : ItemStore) (query : ItemsQuery) (userId : Option Uuid)
  (limit : Nat) (ids : Option (List Uuid)) (item : MediaItem)

def requestRecord : MediaItemCatalogQuery :=
  catalogQueryOf fmt query userId limit ids (normalizedSelectors query.genreIds)
    (normalizedSelectors query.personIds) (normalizedSelectors query.studioIds)
    (normalizedSelectors query.tags)

theorem tokenFlag_eq (flag : Option Bool) (token : String) :
    tokenFlag flag (catalogFilters query) token =
      flagOrToken flag (csvValuesLowercase query.filters) (tokenIfPresent token) := by
  rw [tokenFlag, flagOrToken, catalogFilters]
  cases csvValuesLowercase query.filters with
  | none => rfl
  | some filters => rfl

theorem or_filterValue_eq (flag : Option Bool) (value : List String → Option Bool)
    (h : value [] = none) :
    flag.or (value (catalogFilters query)) =
      flagOrToken flag (csvValuesLowercase query.filters) value := by
  rw [flagOrToken, catalogFilters]
  cases csvValuesLowercase query.filters with
  | none => rw [Option.getD_none, h]; rfl
  | some filters => rfl

theorem flagIs_false (flag : Option Bool) : flagIs flag false = flag.all (!·) := by
  cases flag with
  | none => rfl
  | some value => cases value <;> rfl

theorem csvValuesLowercase_nil : csvValuesLowercase [] = none := rfl

theorem lower_mediaItemVideoType :
    toAsciiLowercase (mediaItemVideoType item) = mediaItemVideoType item := by
  rw [mediaItemVideoType]
  split
  · decide
  · decide

theorem selectsFields_requestRecord :
    (requestRecord fmt query userId limit ids).selectsFields fmt store item =
      meetsFieldFilters fmt query store.metadata item := by
  simp only [MediaItemCatalogQuery.selectsFields, meetsFieldFilters, requestRecord, catalogQueryOf,
    tokenFlag_eq, or_filterValue_eq query _ folderFilterValue rfl, flagIs_false, anyOf, noneOf,
    lower_mediaItemVideoType, MediaItemCatalogQuery.selectsProvider, csvValuesLowercase_nil,
    Option.all_none, Bool.and_true]

theorem selectsValues_requestRecord :
    (requestRecord fmt query userId limit ids).selectsValues fmt store item =
      meetsValueFilters fmt query store.metadata (itemSelectors query) item := by
  simp only [MediaItemCatalogQuery.selectsValues, MediaItemCatalogQuery.selectsEntity,
    MediaItemCatalogQuery.selectsValue, requestRecord, catalogQueryOf,
    csvValuesLowercase_normalizedSelectors]
  rfl

theorem inBounds_premiere :
    inBounds (query.minPremiereDate.bind fmt.parseItemQueryDate)
        (query.maxPremiereDate.bind fmt.parseItemQueryDate)
        ((store.metadata item.id).bind fmt.metadataItemFilterPremiereDate) =
      meetsPremiereFilter fmt query store.metadata item := by
  rw [meetsPremiereFilter, inBounds]
  cases query.minPremiereDate.bind fmt.parseItemQueryDate <;>
    cases query.maxPremiereDate.bind fmt.parseItemQueryDate <;>
    cases (store.metadata item.id).bind fmt.metadataItemFilterPremiereDate <;> rfl

theorem catalogFavorite_cases :
    (catalogFavorite query.isFavorite (catalogFilters query) = none ∧ favoriteFilter query = none) ∨
      (∃ expected,
        catalogFavorite query.isFavorite (catalogFilters query) = some (.favorite expected) ∧
          favoriteFilter query = some (expected, .favoriteOnly)) ∨
      (catalogFavorite query.isFavorite (catalogFilters query) = some .favoriteOrLiked ∧
        favoriteFilter query = some (true, .favoriteOrLikes)) := by
  rw [favoriteFilter, catalogFilters]
  cases query.isFavorite with
  | some expected => exact .inr (.inl ⟨expected, rfl, rfl⟩)
  | none =>
    cases csvValuesLowercase query.filters with
    | none => exact .inl ⟨rfl, rfl⟩
    | some filters =>
      simp only [catalogFavorite, Option.getD_some, Option.bind_some]
      cases favoriteFilterValue filters with
      | none => exact .inl ⟨rfl, rfl⟩
      | some mode =>
        cases mode with
        | favoriteOnly => exact .inr (.inl ⟨true, rfl, rfl⟩)
        | favoriteOrLikes => exact .inr (.inr ⟨rfl, rfl⟩)

theorem selectsPlayback_requestRecord :
    (requestRecord fmt query userId limit ids).selectsPlayback store item =
      meetsPlaybackFilters store query userId item := by
  have hresumable : resumableFilterValue (catalogFilters query) =
      (csvValuesLowercase query.filters).any resumableFilterValue := by
    rw [catalogFilters]
    cases csvValuesLowercase query.filters with
    | none => rfl
    | some filters => rfl
  simp only [MediaItemCatalogQuery.selectsPlayback, meetsPlaybackFilters, requestRecord,
    catalogQueryOf, or_filterValue_eq query _ playedFilterValue rfl, hresumable]
  obtain ⟨hcatalog, hfavorite⟩ | ⟨expected, hcatalog, hfavorite⟩ | ⟨hcatalog, hfavorite⟩ :=
    catalogFavorite_cases query
  · rw [hcatalog, hfavorite]
    cases userId <;> rfl
  · rw [hcatalog, hfavorite]
    cases userId <;> rfl
  · rw [hcatalog, hfavorite]
    cases userId with
    | none => rfl
    | some userId => simp

theorem selectsSearched_requestRecord :
    (requestRecord fmt query userId limit ids).selectsSearched fmt store item =
      nameHasTerm query item := by
  simp only [MediaItemCatalogQuery.selectsSearched, nameHasTerm, requestRecord, catalogQueryOf,
    Bool.or_false]

theorem selectsRated_requestRecord :
    (requestRecord fmt query userId limit ids).selectsRated fmt store item =
      (ratingsAreKnown store query item && meetsRangeFilters fmt query store.metadata item) := by
  simp only [MediaItemCatalogQuery.selectsRated, ratingsAreKnown, meetsRangeFilters, requestRecord,
    catalogQueryOf, hasMetadata]
  cases store.metadata item.id with
  | none => simp
  | some metadata =>
    simp only [Option.any_some, Option.isSome_some, Bool.or_true, Bool.true_and, Option.all_some]
    cases hnone : (query.minCommunityRating.isNone && query.maxCommunityRating.isNone &&
        query.minCriticRating.isNone && query.maxCriticRating.isNone) with
    | false => rfl
    | true =>
      simp only [Bool.and_eq_true, Option.isNone_iff_eq_none] at hnone
      simp [ItemFormats.ratingsMatch, hnone]

theorem selectsOther_requestRecord :
    (requestRecord fmt query userId limit ids).selectsOther fmt store item =
      (meetsPlainFilters fmt store query item && meetsPlaybackFilters store query userId item) := by
  rw [MediaItemCatalogQuery.selectsOther, selectsFields_requestRecord,
    selectsValues_requestRecord, selectsPlayback_requestRecord, meetsPlainFilters,
    ← inBounds_premiere]
  simp only [requestRecord, catalogQueryOf, List.isEmpty_nil, Bool.true_or, Bool.and_true]

theorem selectsId_requestRecord :
    (requestRecord fmt query userId limit ids).selectsId item =
      ((ids.getD []).isEmpty || ids.all (·.contains item.id)) := by
  cases ids with
  | none => rfl
  | some ids => rfl

def meetsOtherFilters : Bool :=
  meetsRangeFilters fmt query store.metadata item &&
    (meetsPlainFilters fmt store query item && meetsPlaybackFilters store query userId item)

theorem selects_requestRecord :
    (requestRecord fmt query userId limit ids).selects fmt store item =
      (((ids.getD []).isEmpty || ids.all (·.contains item.id)) && nameHasTerm query item &&
        ratingsAreKnown store query item && meetsOtherFilters fmt store query userId item) := by
  rw [MediaItemCatalogQuery.selects, selectsId_requestRecord, selectsSearched_requestRecord,
    selectsRated_requestRecord, selectsOther_requestRecord, meetsOtherFilters]
  ac_rfl

theorem meetsRequest_eq :
    meetsRequest fmt store query userId none ids item =
      (ids.all (·.contains item.id) && meetsSearchFilter fmt query store.metadata item &&
        meetsOtherFilters fmt store query userId item) := by
  rw [meetsRequest, meetsOtherFilters, Option.all_none, Bool.true_and]
  ac_rfl

end Selection

/-! The order. -/

instance (fmt : ItemFormats) (query : ItemsQuery) (metadata : Uuid → Option Json) :
    Std.TransCmp (compareFiltered fmt query metadata) := by
  rw [compareFiltered]
  split <;> infer_instance

instance (fmt : ItemFormats) (store : ItemStore) (userId : Option Uuid)
    (field : MediaItemCatalogSortField) : Std.TransCmp (compareField fmt store userId field) := by
  cases field with
  | sortName => exact inferInstanceAs (Std.TransCmp compareNames)
  | dateCreated => exact inferInstanceAs (Std.TransCmp (compareOn MediaItem.createdAt))
  | dateLastMediaAdded => exact inferInstanceAs (Std.TransCmp (compareOn MediaItem.updatedAt))
  | premiereDate => exact transCmp_comp (compareNullsLast compare) _
  | communityRating => exact transCmp_comp (compareNullsLast fmt.compareF64) _
  | datePlayed => exact transCmp_comp (compareNullsLast compare) _

instance (fmt : ItemFormats) (store : ItemStore) (userId : Option Uuid)
    (sort : List (MediaItemCatalogSortField × SortDirection)) :
    Std.TransCmp (compareBySort fmt store userId sort) := by
  refine transCmp_compareChain (fun cmp hcmp => ?_) inferInstance
  obtain ⟨key, -, rfl⟩ := List.mem_map.mp hcmp
  infer_instance

def SortField.catalog : SortField → MediaItemCatalogSortField
  | sortName => .sortName
  | dateCreated => .dateCreated
  | dateLastMediaAdded => .dateLastMediaAdded

theorem compareField_catalog (fmt : ItemFormats) (store : ItemStore) (userId : Option Uuid)
    (field : SortField) : compareField fmt store userId field.catalog = field.compare := by
  cases field <;> rfl

theorem catalogSortField_cases (word : String) :
    catalogSortField word = (sortField word).map SortField.catalog ∨
      ∃ field, catalogSortField word = some field ∧ ∀ plain : SortField, plain.catalog ≠ field := by
  rw [catalogSortField]
  split
  · rename_i hword
    exact .inl (by rw [sortField, hword]; rfl)
  · rename_i hword
    exact .inl (by rw [sortField, hword]; rfl)
  · rename_i hword
    exact .inl (by rw [sortField, hword]; rfl)
  · rename_i hword
    exact .inl (by rw [sortField, hword]; rfl)
  · exact .inr ⟨_, rfl, fun plain => by cases plain <;> decide⟩
  · exact .inr ⟨_, rfl, fun plain => by cases plain <;> decide⟩
  · exact .inr ⟨_, rfl, fun plain => by cases plain <;> decide⟩
  · rename_i hsortName hname hcreated hadded _ _ _
    refine .inl ?_
    rw [sortField]
    split
    · exact absurd ‹_› hsortName
    · exact absurd ‹_› hname
    · exact absurd ‹_› hcreated
    · exact absurd ‹_› hadded
    · rfl

theorem catalogSortFields_eq {query : ItemsQuery}
    (h : ∀ field ∈ catalogSortFields query, ∃ plain : SortField, field = plain.catalog) :
    catalogSortFields query = (sortFields query.sortBy).map SortField.catalog := by
  rw [catalogSortFields] at h ⊢
  rw [sortFields]
  generalize split ',' (query.sortBy.getD "SortName") = words at h ⊢
  have hwords : ∀ word ∈ words, catalogSortField word = (sortField word).map SortField.catalog := by
    intro word hword
    obtain heq | ⟨field, hfield, hplain⟩ := catalogSortField_cases word
    · exact heq
    · have hmem : field ∈ words.filterMap catalogSortField :=
        List.mem_filterMap.mpr ⟨word, hword, hfield⟩
      have hne : (words.filterMap catalogSortField).isEmpty = false :=
        List.isEmpty_eq_false_iff.mpr (List.ne_nil_of_mem hmem)
      obtain ⟨plain, hplain'⟩ := h field (by simpa [hne] using List.mem_filterMap.mp hmem)
      exact absurd hplain'.symm (hplain plain)
  rw [List.filterMap_congr hwords, ← List.map_filterMap, List.isEmpty_map]
  split <;> rfl

theorem order_compareChain {α : Type} (direction : SortDirection)
    (cmps : List (α → α → Ordering)) (last : α → α → Ordering) :
    compareChain (cmps.map direction.order) (direction.order last) =
      direction.order (compareChain cmps last) := by
  funext a b
  cases direction with
  | ascending =>
    rw [compareChain, List.map_map]
    rfl
  | descending =>
    rw [compareChain, List.map_map]
    rfl

def SortsPlainly (query : ItemsQuery) : Prop :=
  queryShouldSortEpisodePersonResultsByIndex query = false ∧
    ∀ key ∈ catalogSort query, ∃ plain : SortField,
      key = (plain.catalog, sortDirection (query.sortOrder.getD ""))

theorem catalogSort_eq {query : ItemsQuery} (h : SortsPlainly query) :
    catalogSort query = (sortFields query.sortBy).map fun field =>
      (field.catalog, sortDirection (query.sortOrder.getD "")) := by
  have hfields : (catalogSort query).map Prod.fst = catalogSortFields query := by
    rw [catalogSort, List.map_map]
    exact List.zipIdx_map_fst _ _
  have hplain : catalogSortFields query = (sortFields query.sortBy).map SortField.catalog := by
    refine catalogSortFields_eq fun field hfield => ?_
    rw [← hfields] at hfield
    obtain ⟨key, hkey, rfl⟩ := List.mem_map.mp hfield
    obtain ⟨plain, rfl⟩ := h.2 key hkey
    exact ⟨plain, rfl⟩
  have hkeys : catalogSort query = ((catalogSort query).map Prod.fst).map fun field =>
      (field, sortDirection (query.sortOrder.getD "")) := by
    rw [List.map_map]
    refine (List.map_id _).symm.trans (List.map_congr_left fun key hkey => ?_)
    obtain ⟨plain, rfl⟩ := h.2 key hkey
    rfl
  rw [hkeys, hfields, hplain, List.map_map]
  rfl

theorem sortFields_ne_nil (sortBy : Option String) : sortFields sortBy ≠ [] := by
  rw [sortFields]
  split
  · exact List.cons_ne_nil _ _
  · rename_i h
    exact fun hnil => h (List.isEmpty_iff.mpr hnil)

theorem compareBySort_catalogSort {fmt : ItemFormats} {store : ItemStore} {query : ItemsQuery}
    {userId : Option Uuid} {metadata : Uuid → Option Json} (h : SortsPlainly query) :
    compareBySort fmt store userId (catalogSort query) = compareFiltered fmt query metadata := by
  have hne : (catalogSort query).isEmpty = false := by
    rw [catalogSort_eq h, List.isEmpty_map, List.isEmpty_eq_false_iff]
    exact sortFields_ne_nil _
  have hlast : ((catalogSort query).getLast?.map Prod.snd).getD .ascending =
      sortDirection (query.sortOrder.getD "") := by
    rw [List.getLast?_eq_some_getLast (List.isEmpty_eq_false_iff.mp hne), Option.map_some,
      Option.getD_some]
    obtain ⟨plain, hlast⟩ := h.2 _ (List.getLast_mem (List.isEmpty_eq_false_iff.mp hne))
    rw [hlast]
  rw [compareBySort, hne, compareFiltered, h.1]
  simp only [Bool.false_eq_true, if_false]
  rw [hlast, catalogSort_eq h, compareMediaItems, ← order_compareChain, List.map_map, List.map_map]
  congr 1
  exact List.map_congr_left fun field _ => congrArg _ (compareField_catalog fmt store userId field)

/-! The rows. -/

structure FoundAlike (fmt : ItemFormats) (store : ItemStore) (query : ItemsQuery)
    (item : MediaItem) : Prop where
  /-- The term is found in the name, not in metadata only. -/
  searched : (requestedIds query).all (·.contains item.id) = true →
    meetsSearchFilter fmt query store.metadata item = true → nameHasTerm query item = true
  /-- Ratings are asked of items with metadata. -/
  rated : (requestedIds query).all (·.contains item.id) = true →
    meetsSearchFilter fmt query store.metadata item = true →
    ratingsAreKnown store query item = true
  /-- A list of identifiers with none in it does not hide what would have been found. -/
  identified : requestedIds query = some [] → nameHasTerm query item = true →
    ratingsAreKnown store query item = false

theorem foundAlike_iff {fmt : ItemFormats} {store : ItemStore} {query : ItemsQuery}
    {item : MediaItem} :
    FoundAlike fmt store query item ↔
      ((requestedIds query).all (·.contains item.id) &&
          meetsSearchFilter fmt query store.metadata item) =
        ((((requestedIds query).getD []).isEmpty || (requestedIds query).all (·.contains item.id)) &&
          nameHasTerm query item && ratingsAreKnown store query item) := by
  have hsearch : nameHasTerm query item = true →
      meetsSearchFilter fmt query store.metadata item = true := meetsSearchFilter_of_name
  have hfields : FoundAlike fmt store query item ↔
      ((requestedIds query).all (·.contains item.id) = true →
        meetsSearchFilter fmt query store.metadata item = true →
          nameHasTerm query item = true ∧ ratingsAreKnown store query item = true) ∧
      (requestedIds query = some [] → nameHasTerm query item = true →
        ratingsAreKnown store query item = false) := by
    constructor
    · intro h
      exact ⟨fun hid hterm => ⟨h.searched hid hterm, h.rated hid hterm⟩, h.identified⟩
    · rintro ⟨hboth, hidentified⟩
      exact ⟨fun hid hterm => (hboth hid hterm).1, fun hid hterm => (hboth hid hterm).2, hidentified⟩
  rw [hfields]
  generalize requestedIds query = ids
  generalize meetsSearchFilter fmt query store.metadata item = found at hsearch ⊢
  generalize nameHasTerm query item = inName at hsearch ⊢
  generalize ratingsAreKnown store query item = known
  match ids with
  | some [] => cases inName <;> cases known <;> simp
  | none =>
    cases inName with
    | false => cases found <;> simp
    | true =>
      rw [hsearch rfl]
      cases known <;> simp
  | some (first :: rest) =>
    simp only [Option.getD_some, List.isEmpty_cons, Bool.false_or, Option.all_some]
    cases (first :: rest).contains item.id with
    | false => simp
    | true =>
      cases inName with
      | false => cases found <;> simp
      | true =>
        rw [hsearch rfl]
        cases known <;> simp

/-- The requests and items that the repository answers as the filters in memory do. -/
structure GateKeepsRows (fmt : ItemFormats) (store : ItemStore) (items : List MediaItem)
    (query : ItemsQuery) (userId : Option Uuid) : Prop where
  found : ∀ item ∈ items, meetsOtherFilters fmt store query userId item = true →
    FoundAlike fmt store query item
  ordered : ∀ a b, [a, b].Sublist
      (items.filter (meetsRequest fmt store query userId none (requestedIds query))) →
    (compareFiltered fmt query (metadataRead store query (itemSelectors query)) a b).isLE =
      (compareBySort fmt store userId (catalogSort query) a b).isLE

theorem foundAlike_of_plain {fmt : ItemFormats} {store : ItemStore} {query : ItemsQuery}
    {item : MediaItem} (hterm : normalizedPrefix query.searchTerm = none)
    (hratings : query.minCommunityRating = none ∧ query.maxCommunityRating = none ∧
      query.minCriticRating = none ∧ query.maxCriticRating = none)
    (hids : requestedIds query ≠ some []) : FoundAlike fmt store query item where
  searched _ _ := by rw [nameHasTerm, hterm]; rfl
  rated _ _ := by simp [ratingsAreKnown, hratings]
  identified hnone := absurd hnone hids

theorem and_right_inj_iff {a b c : Bool} : (a && c) = (b && c) ↔ (c = true → a = b) := by
  cases c <;> simp

theorem meetsRequest_eq_selects_iff {fmt : ItemFormats} {store : ItemStore} {query : ItemsQuery}
    {userId : Option Uuid} {limit : Nat} {item : MediaItem} :
    meetsRequest fmt store query userId none (requestedIds query) item =
        (requestRecord fmt query userId limit (requestedIds query)).selects fmt store item ↔
      (meetsOtherFilters fmt store query userId item = true → FoundAlike fmt store query item) := by
  rw [meetsRequest_eq, selects_requestRecord, and_right_inj_iff, foundAlike_iff]

theorem gate_keeps_rows_iff {fmt : ItemFormats} {store : ItemStore} {items : List MediaItem}
    {query : ItemsQuery} {userId : Option Uuid} {q : MediaItemCatalogQuery}
    (h : mediaCatalogQueryForItems fmt query userId = .ok (some q)) :
    filteredMediaItems fmt store items query userId = .ok (q.rows fmt store items) ↔
      GateKeepsRows fmt store items query userId := by
  obtain ⟨limit, ids, hgate⟩ := passesGate h
  have hids : requestedIds query = ids := bind_toOption_of_ok hgate.identified
  subst hids
  have hparent : traverseOption parseJellyfinUuid query.parentId = .ok none := by
    rw [hgate.parentId]
    rfl
  have hrows : q.rows fmt store items = sortBy (compareBySort fmt store userId (catalogSort query))
      (items.filter
        ((requestRecord fmt query userId limit (requestedIds query)).selects fmt store)) := by
    rw [hgate.built]
    rfl
  rw [filteredMediaItems_eq fmt store items userId hparent hgate.identified hgate.persons
    hgate.genres hgate.studios hgate.tags, hrows, Except.ok.injEq, Option.map_none, eq_comm,
    sortBy_filter_eq_iff]
  constructor
  · rintro ⟨hsame, horder⟩
    refine ⟨fun item hitem => ?_, fun a b hab => (horder a b hab).symm⟩
    exact meetsRequest_eq_selects_iff.mp (hsame item hitem).symm
  · rintro ⟨hfound, horder⟩
    refine ⟨fun item hitem => ?_, fun a b hab => (horder a b hab).symm⟩
    exact (meetsRequest_eq_selects_iff.mpr (hfound item hitem)).symm

def overviewStore (overview : String) : ItemStore where
  folders := []
  metadata _ := some (.object [("Overview", .string overview)])
  playback _ _ := none

def tenNamed (searchTerm : Option String) : ItemsQuery := { limit := some 10, searchTerm }

def tenNamedRecord (searchTerm : Option String) : MediaItemCatalogQuery :=
  requestRecord plainFormats (tenNamed searchTerm) none 10 none

theorem gate_tenNamed (searchTerm : Option String) :
    mediaCatalogQueryForItems plainFormats (tenNamed searchTerm) none =
      .ok (some (tenNamedRecord searchTerm)) := by
  have hplain : isCatalogQuery (tenNamed searchTerm) [] = true :=
    (rfl : _ = isCatalogQuery (tenNamed none) []).trans (by decide)
  have hselectors : ∀ field, normalizedCatalogFilterValues [] field = .ok [] := fun _ => rfl
  simp only [mediaCatalogQueryForItems, hselectors, tenNamed]
  change (if isCatalogQuery (tenNamed searchTerm) [] = true then _ else _) = _
  rw [if_pos hplain]
  rfl

theorem gate_keeps_rows_of_two_items :
    filteredMediaItems plainFormats (overviewStore "a river")
        [itemNamed 1 "Dune", itemNamed 2 "Alien"] (tenNamed none) none =
      .ok ((tenNamedRecord none).rows plainFormats (overviewStore "a river")
        [itemNamed 1 "Dune", itemNamed 2 "Alien"]) := by
  have hplain : SortsPlainly (tenNamed none) := by
    refine ⟨rfl, fun key hkey => ?_⟩
    have hsort : catalogSort (tenNamed none) = [(.sortName, .ascending)] := by decide
    rw [hsort, List.mem_singleton] at hkey
    exact ⟨.sortName, by rw [hkey]; decide⟩
  have hids : requestedIds (tenNamed none) ≠ some [] := by decide
  refine (gate_keeps_rows_iff (gate_tenNamed none)).mpr ⟨fun item _ _ => ?_, fun a b _ => ?_⟩
  · exact foundAlike_of_plain rfl ⟨rfl, rfl, rfl, rfl⟩ hids
  · rw [compareBySort_catalogSort hplain]

theorem gate_hides_overviews :
    ∃ query q store item,
      mediaCatalogQueryForItems plainFormats query none = .ok (some q) ∧
        filteredMediaItems plainFormats store [item] query none = .ok [item] ∧
        q.rows plainFormats store [item] = [] :=
  ⟨tenNamed (some "river"), tenNamedRecord (some "river"), overviewStore "a river",
    itemNamed 1 "Dune", gate_tenNamed _, by decide, by decide⟩

end Jellyrin.Items
