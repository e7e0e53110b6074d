import Jellyrin.Defs.Data.FirstRows
import Jellyrin.Defs.Items.CatalogQueryLaws

/-! The latest items of a user, from the repository and from the filters in memory. -/

namespace Jellyrin.Items

open Api Ascii ClientIds Text

/-! Configurations. -/

def defaultUserConfiguration : Json :=
  .object [("LatestItemsExcludes", .array []), ("HidePlayedInLatest", .bool true)]

structure LatestUserConfiguration where
  excludedFolderIds : List Uuid
  hidePlayed : Bool

def latestItemsExcludedFolderIds (folders : List VirtualFolder) (configuration : Json) :
    List Uuid :=
  let excludes := ((((configuration.get "LatestItemsExcludes").bind Json.asArray).getD []).filterMap
    Json.asStr).map (fun value => toAsciiLowercase (Json.trim value)) |>.filter (· ≠ "")
  if excludes.isEmpty then []
  else
    (folders.filter fun folder =>
      excludes.contains (toAsciiLowercase folder.id.simple) ||
        excludes.contains (toAsciiLowercase folder.name) ||
        excludes.contains (toAsciiLowercase (folder.collectionType.getD ""))).map (·.id)

/-- Played items are hidden, unless the request asks for these or the others itself. -/
def latestUserConfiguration (store : CatalogStore) (query : ItemsQuery) (userId : Option Uuid) :
    LatestUserConfiguration :=
  match userId with
  | none => ⟨[], false⟩
  | some userId =>
    let configuration := (store.userConfiguration userId).getD defaultUserConfiguration
    { excludedFolderIds := latestItemsExcludedFolderIds store.folders configuration
      hidePlayed :=
        ((configuration.get "HidePlayedInLatest").bind Json.asBool).getD true &&
          query.isPlayed.isNone && (playedFilterValue (catalogFilters query)).isNone }

def latestItemsLimit (query : ItemsQuery) : Nat := min (query.limit.getD 20) 100

def ItemsQuery.scopedForLatest (query : ItemsQuery) : ItemsQuery :=
  { query with
    parentId := none
    limit := some (latestItemsLimit query)
    startIndex := none
    sortBy := none
    sortOrder := none }

/-! From the repository. -/

inductive LatestScope where
  | unknown
  | nothing
  | within (folderIds : List Uuid)

def LatestScope.ofIds (folderIds : List Uuid) : LatestScope :=
  if folderIds.isEmpty then .nothing else .within folderIds

def latestScope (fmt : ItemFormats) (folders : List VirtualFolder) (excluded : List Uuid)
    (parentId : Option Uuid) : LatestScope :=
  match parentId with
  | some parentId =>
    match folders.find? fun folder => folder.id == parentId with
    | none => .unknown
    | some parent =>
      .ofIds ((parent.id :: (childVirtualFolders fmt parent folders).map (·.id)).filter
        (!excluded.contains ·))
  | none =>
    -- No folders stand for all of them.
    if excluded.isEmpty then .within []
    else .ofIds ((folders.map (·.id)).filter (!excluded.contains ·))

def MediaItemCatalogQuery.forLatest (q : MediaItemCatalogQuery) (folderIds : List Uuid)
    (limit : Nat) (hidePlayed : Bool) : MediaItemCatalogQuery :=
  { q with
    virtualFolderIds := folderIds
    startIndex := 0
    limit
    includeTotalRecordCount := false
    sort := [(.dateLastMediaAdded, .descending), (.sortName, .descending)]
    isPlayed := if hidePlayed then some false else q.isPlayed }

def exactLatestItemsPage (fmt : ItemFormats) (store : CatalogStore) (query : ItemsQuery)
    (userId : Option Uuid) : Except Failure (Option (List MediaItem)) := do
  match ← mediaCatalogQueryForItems fmt query.scopedForLatest userId with
  | none => return none
  | some q =>
    let configuration := latestUserConfiguration store query userId
    let parentId ← traverseOption parseJellyfinUuid query.parentId
    match latestScope fmt store.folders configuration.excludedFolderIds parentId with
    | .unknown => return none
    | .nothing => return some []
    | .within folderIds =>
      let q := q.forLatest folderIds (latestItemsLimit query) configuration.hidePlayed
      if q.isPlayed.isSome && q.userId.isNone then return none
      else return some ((q.rows fmt store.toItemStore store.items).take q.limit)

/-! In memory. -/

def isShownInLatest (store : CatalogStore) (query : ItemsQuery) (userId : Uuid)
    (item : MediaItem) : Bool :=
  let configuration := latestUserConfiguration store query (some userId)
  !configuration.excludedFolderIds.contains item.virtualFolderId &&
    !(configuration.hidePlayed && (store.playback userId item.id).any (·.played))

def applyLatestUserConfiguration (store : CatalogStore) (items : List MediaItem)
    (query : ItemsQuery) (userId : Option Uuid) : List MediaItem :=
  match userId with
  | none => items
  | some userId => items.filter (isShownInLatest store query userId)

def compareLatest : MediaItem → MediaItem → Ordering :=
  SortDirection.descending.order (compareMediaItems [.dateLastMediaAdded, .sortName])

def latestItemsInMemory (fmt : ItemFormats) (store : CatalogStore) (query : ItemsQuery)
    (userId : Option Uuid) : Except Failure (List MediaItem) := do
  let items ← filteredMediaItems fmt store.toItemStore store.items query userId
  let items := applyLatestUserConfiguration store items query userId
  return (sortBy compareLatest items).take (latestItemsLimit query)

end Jellyrin.Items

/-! The latest items of the repository and those of the filters in memory. -/

namespace Jellyrin.Items

open Api Ascii ClientIds Text

/-! The order. -/

instance : Std.TransCmp compareLatest :=
  inferInstanceAs (Std.TransCmp (SortDirection.descending.order _))

theorem compareBySort_latest (fmt : ItemFormats) (store : ItemStore) (userId : Option Uuid) :
    compareBySort fmt store userId
      [(.dateLastMediaAdded, .descending), (.sortName, .descending)] = compareLatest := by
  rw [compareLatest, compareMediaItems, ← order_compareChain]
  rfl

theorem id_eq_of_compareLatest {a b : MediaItem} (h : compareLatest a b = .eq) : a.id = b.id := by
  rw [compareLatest, SortDirection.order, compareMediaItems, List.map_cons, List.map_cons,
    List.map_nil, compareChain_cons, compareChain_cons] at h
  have hids : compare b.id a.id = .eq := (compareLex_eq_eq.mp (compareLex_eq_eq.mp h).2).2
  exact (Std.LawfulEqCmp.eq_of_compare hids).symm

theorem CatalogStore.eq_of_compareLatest (store : CatalogStore) :
    ∀ a ∈ store.items, ∀ b ∈ store.items, compareLatest a b = .eq → a = b := by
  intro a ha b hb h
  exact List.inj_on_of_nodup_map store.distinct ha hb (id_eq_of_compareLatest h)

/-! The folders. -/

section Folders

variable {fmt : ItemFormats} {store : CatalogStore} {excluded : List Uuid} {parentId : Option Uuid}
  {item : MediaItem}

def isInScope (fmt : ItemFormats) (store : CatalogStore) (excluded : List Uuid)
    (parentId : Option Uuid) (item : MediaItem) : Bool :=
  (parentId.map (parentFolderIds fmt store.folders)).all (·.contains item.virtualFolderId) &&
    !excluded.contains item.virtualFolderId

def LatestScope.contains : LatestScope → Uuid → Bool
  | unknown, _ => false
  | nothing, _ => false
  | within folderIds, folderId => folderIds.isEmpty || folderIds.contains folderId

theorem LatestScope.contains_ofIds (folderIds : List Uuid) (folderId : Uuid) :
    (LatestScope.ofIds folderIds).contains folderId = folderIds.contains folderId := by
  rw [ofIds]
  cases folderIds with
  | nil => rfl
  | cons first rest => rfl

theorem contains_filter_not (ids excluded : List Uuid) (id : Uuid) :
    (ids.filter (!excluded.contains ·)).contains id =
      (ids.contains id && !excluded.contains id) := by
  rw [Bool.eq_iff_iff]
  simp

theorem latestScope_contains (hitem : item ∈ store.items)
    (hknown : latestScope fmt store.folders excluded parentId ≠ .unknown) :
    (latestScope fmt store.folders excluded parentId).contains item.virtualFolderId =
      isInScope fmt store excluded parentId item := by
  cases parentId with
  | some parentId =>
    rw [latestScope] at hknown ⊢
    rw [isInScope, Option.map_some, Option.all_some, parentFolderIds]
    cases hparent : store.folders.find? fun folder => folder.id == parentId with
    | none =>
      rw [hparent] at hknown
      exact absurd rfl hknown
    | some parent =>
      have hid : parent.id = parentId := by simpa using List.find?_some hparent
      rw [LatestScope.contains_ofIds, contains_filter_not, hid]
  | none =>
    rw [latestScope, isInScope, Option.map_none, Option.all_none, Bool.true_and]
    cases hexcluded : excluded.isEmpty with
    | true =>
      rw [List.isEmpty_iff.mp hexcluded]
      rfl
    | false =>
      have hfolder : (store.folders.map (·.id)).contains item.virtualFolderId = true :=
        List.contains_iff_mem.mpr (store.inFolders item hitem)
      rw [if_neg (by simp), LatestScope.contains_ofIds, contains_filter_not, hfolder, Bool.true_and]

end Folders

/-! The states of a user. -/

def isPlayedBy (store : ItemStore) (userId : Option Uuid) (item : MediaItem) : Bool :=
  userId.any fun userId => (store.playback userId item.id).any (·.played)

theorem selectsPlayback_unplayed (store : ItemStore) (item : MediaItem)
    {q : MediaItemCatalogQuery} {userId : Uuid} (hplayed : q.isPlayed = none)
    (huser : q.userId = some userId) :
    ({ q with isPlayed := some false } : MediaItemCatalogQuery).selectsPlayback store item =
      (!isPlayedBy store q.userId item && q.selectsPlayback store item) := by
  rw [MediaItemCatalogQuery.selectsPlayback, MediaItemCatalogQuery.selectsPlayback, isPlayedBy,
    hplayed, huser]
  simp only [Option.isSome_some, Bool.true_or, if_true, Option.any_some, Option.isSome_none,
    Bool.false_or, flagIs, Option.all_some, Option.all_none, Bool.true_and]
  cases (store.playback userId item.id).any (·.played) with
  | true => rfl
  | false =>
    split
    · rfl
    · rename_i hnone
      simp only [Bool.or_eq_true, not_or, Bool.not_eq_true, Option.isSome_eq_false_iff,
        Option.isNone_iff_eq_none] at hnone
      simp [hnone]

theorem of_hidePlayed {store : CatalogStore} {query : ItemsQuery} {userId : Option Uuid}
    (h : (latestUserConfiguration store query userId).hidePlayed = true) :
    userId.isSome = true ∧ query.isPlayed.or (playedFilterValue (catalogFilters query)) = none := by
  cases userId with
  | none => cases h
  | some userId =>
    simp only [latestUserConfiguration, Bool.and_eq_true, Option.isNone_iff_eq_none] at h
    exact ⟨rfl, by rw [h.1.2, h.2]; rfl⟩

theorem applyLatestUserConfiguration_eq (store : CatalogStore) (items : List MediaItem)
    (query : ItemsQuery) (userId : Option Uuid) :
    applyLatestUserConfiguration store items query userId = items.filter fun item =>
      !(latestUserConfiguration store query userId).excludedFolderIds.contains
          item.virtualFolderId &&
        !((latestUserConfiguration store query userId).hidePlayed &&
          isPlayedBy store.toItemStore userId item) := by
  cases userId with
  | none => exact (List.filter_eq_self.mpr fun _ _ => rfl).symm
  | some userId => rfl

/-! The rows. -/

section Rows

variable (fmt : ItemFormats) (store : CatalogStore) (query : ItemsQuery) (userId : Option Uuid)
  (parentId : Option Uuid)

/-- The filters of a request but for identifiers and the search term, and the configuration of
the user. -/
def meetsLatestFilters (item : MediaItem) : Bool :=
  let configuration := latestUserConfiguration store query userId
  isInScope fmt store configuration.excludedFolderIds parentId item &&
    !(configuration.hidePlayed && isPlayedBy store.toItemStore userId item) &&
    meetsOtherFilters fmt store.toItemStore query userId item

def requestedParent : Option Uuid :=
  query.parentId.bind fun parentId => (handled (parseJellyfinUuid parentId)).toOption

theorem selectsPlayback_forLatest (limit : Nat) (ids : Option (List Uuid))
    (folderIds : List Uuid) (item : MediaItem) :
    ((requestRecord fmt query.scopedForLatest userId limit ids).forLatest folderIds
        (latestItemsLimit query) (latestUserConfiguration store query userId).hidePlayed).selectsPlayback
        store.toItemStore item =
      (!((latestUserConfiguration store query userId).hidePlayed &&
          isPlayedBy store.toItemStore userId item) &&
        meetsPlaybackFilters store.toItemStore query userId item) := by
  have hstates := selectsPlayback_requestRecord fmt store.toItemStore query.scopedForLatest userId
    limit ids item
  cases hhide : (latestUserConfiguration store query userId).hidePlayed with
  | false => exact hstates
  | true =>
    obtain ⟨huser, hplayed⟩ := of_hidePlayed hhide
    obtain ⟨userId, rfl⟩ := Option.isSome_iff_exists.mp huser
    have hunplayed := selectsPlayback_unplayed store.toItemStore item
      (q := requestRecord fmt query.scopedForLatest (some userId) limit ids) hplayed rfl
    rw [hstates] at hunplayed
    exact hunplayed

theorem selects_forLatest (limit : Nat) (ids : Option (List Uuid)) {folderIds : List Uuid}
    {item : MediaItem}
    (hfolder : (LatestScope.within folderIds).contains item.virtualFolderId =
      isInScope fmt store (latestUserConfiguration store query userId).excludedFolderIds parentId
        item) :
    ((requestRecord fmt query.scopedForLatest userId limit ids).forLatest folderIds
        (latestItemsLimit query) (latestUserConfiguration store query userId).hidePlayed).selects
        fmt store.toItemStore item =
      (((ids.getD []).isEmpty || ids.all (·.contains item.id)) && nameHasTerm query item &&
        ratingsAreKnown store.toItemStore query item &&
        meetsLatestFilters fmt store query userId parentId item) := by
  have hplayback := selectsPlayback_forLatest fmt store query userId limit ids folderIds item
  generalize hq : (requestRecord fmt query.scopedForLatest userId limit ids).forLatest folderIds
    (latestItemsLimit query) (latestUserConfiguration store query userId).hidePlayed = q
  rw [hq] at hplayback
  -- The record differs from that of the request in its folders and played states only.
  have hid : q.selectsId item = ((ids.getD []).isEmpty || ids.all (·.contains item.id)) := by
    rw [← hq]
    exact selectsId_requestRecord fmt query.scopedForLatest userId limit ids item
  have hterm : q.selectsSearched fmt store.toItemStore item = nameHasTerm query item := by
    rw [← hq]
    exact selectsSearched_requestRecord fmt store.toItemStore query.scopedForLatest userId limit ids
      item
  have hrated : q.selectsRated fmt store.toItemStore item =
      (ratingsAreKnown store.toItemStore query item &&
        meetsRangeFilters fmt query store.metadata item) := by
    rw [← hq]
    exact selectsRated_requestRecord fmt store.toItemStore query.scopedForLatest userId limit ids
      item
  have hfields : q.selectsFields fmt store.toItemStore item =
      meetsFieldFilters fmt query store.metadata item := by
    rw [← hq]
    exact selectsFields_requestRecord fmt store.toItemStore query.scopedForLatest userId limit ids
      item
  have hvalues : q.selectsValues fmt store.toItemStore item =
      meetsValueFilters fmt query store.metadata (itemSelectors query) item := by
    rw [← hq]
    exact selectsValues_requestRecord fmt store.toItemStore query.scopedForLatest userId limit ids
      item
  have hpremiere : inBounds q.minPremiereDate q.maxPremiereDate
      ((store.metadata item.id).bind fmt.metadataItemFilterPremiereDate) =
        meetsPremiereFilter fmt query store.metadata item := by
    rw [← hq]
    exact inBounds_premiere fmt store.toItemStore query item
  have hscope : (q.virtualFolderIds.isEmpty || q.virtualFolderIds.contains item.virtualFolderId) =
      isInScope fmt store (latestUserConfiguration store query userId).excludedFolderIds parentId
        item := by
    rw [← hq]
    exact hfolder
  have hvisible : isVisibleTo q.allowedPluginTunerIds store.metadata item =
      isVisibleTo query.allowedPluginTunerIds store.metadata item := by
    rw [← hq]
    rfl
  have hname : nameMatches q.nameStartsWith q.nameStartsWithOrGreater q.nameLessThan item =
      nameMatches query.nameStartsWith query.nameStartsWithOrGreater query.nameLessThan item := by
    rw [← hq]
    rfl
  rw [MediaItemCatalogQuery.selects, MediaItemCatalogQuery.selectsOther, hid, hterm, hrated,
    hvisible, hscope, hfields, hvalues, hpremiere, hname, hplayback, meetsLatestFilters,
    meetsOtherFilters, meetsPlainFilters]
  ac_rfl

theorem exactLatestItemsPage_ok {fmt : ItemFormats} {store : CatalogStore} {query : ItemsQuery}
    {userId : Option Uuid} {page : List MediaItem}
    (h : exactLatestItemsPage fmt store query userId = .ok (some page)) :
    ∃ q limit ids parentId, PassesGate fmt query.scopedForLatest userId q limit ids ∧
      traverseOption parseJellyfinUuid query.parentId = .ok parentId ∧
      page = (sortBy compareLatest (store.items.filter fun item =>
        ((ids.getD []).isEmpty || ids.all (·.contains item.id)) && nameHasTerm query item &&
          ratingsAreKnown store.toItemStore query item &&
          meetsLatestFilters fmt store query userId parentId item)).take (latestItemsLimit query) := by
  rw [exactLatestItemsPage] at h
  obtain ⟨q, hq, h⟩ := exists_of_bind_eq_ok h
  cases q with
  | none => cases h
  | some q =>
    obtain ⟨parentId, hparent, h⟩ := exists_of_bind_eq_ok h
    obtain ⟨limit, ids, hgate⟩ := passesGate hq
    refine ⟨q, limit, ids, parentId, hgate, hparent, ?_⟩
    have hscope : ∀ item ∈ store.items, latestScope fmt store.folders
        (latestUserConfiguration store query userId).excludedFolderIds parentId ≠ .unknown →
        (latestScope fmt store.folders (latestUserConfiguration store query
            userId).excludedFolderIds parentId).contains item.virtualFolderId =
          isInScope fmt store (latestUserConfiguration store query userId).excludedFolderIds
            parentId item := fun _ => latestScope_contains
    cases hcase : latestScope fmt store.folders
        (latestUserConfiguration store query userId).excludedFolderIds parentId with
    | unknown =>
      rw [hcase] at h
      cases h
    | nothing =>
      rw [hcase] at h hscope
      cases h
      rw [List.filter_eq_nil_iff.mpr]
      · simp [sortBy]
      · intro item hitem
        have hnone := hscope item hitem (by simp)
        simp [meetsLatestFilters, ← hnone, LatestScope.contains]
    | within folderIds =>
      rw [hcase] at h hscope
      change (if _ then _ else _) = _ at h
      split at h
      · cases h
      · cases h
        have hselects := List.filter_congr fun item hitem =>
          selects_forLatest fmt store query userId parentId limit ids
            (hscope item hitem (by simp))
        rw [← hselects, ← compareBySort_latest fmt store.toItemStore userId, hgate.built]
        rfl

theorem latestItemsInMemory_eq {fmt : ItemFormats} {store : CatalogStore} {query : ItemsQuery}
    {userId : Option Uuid} {q : MediaItemCatalogQuery} {limit : Nat} {ids : Option (List Uuid)}
    {parentId : Option Uuid} (hgate : PassesGate fmt query.scopedForLatest userId q limit ids)
    (hparent : traverseOption parseJellyfinUuid query.parentId = .ok parentId) :
    latestItemsInMemory fmt store query userId =
      .ok ((sortBy compareLatest (store.items.filter fun item =>
        ids.all (·.contains item.id) && meetsSearchFilter fmt query store.metadata item &&
          meetsLatestFilters fmt store query userId parentId item)).take
            (latestItemsLimit query)) := by
  have hfiltered := filteredMediaItems_eq fmt store.toItemStore store.items userId hparent
    hgate.identified hgate.persons hgate.genres hgate.studios hgate.tags
  rw [latestItemsInMemory, hfiltered]
  change Except.ok ((sortBy compareLatest _).take _) = _
  rw [applyLatestUserConfiguration_eq]
  congr 2
  rw [sortBy_eq_of_perm ((sortBy_perm _ _).filter _), List.filter_filter]
  · congr 1
    refine List.filter_congr fun item _ => ?_
    rw [meetsRequest, meetsLatestFilters, isInScope, meetsOtherFilters]
    ac_rfl
  · intro a ha b hb
    have ha := List.mem_of_mem_filter (mem_sortBy.mp (List.mem_of_mem_filter ha))
    have hb := List.mem_of_mem_filter (mem_sortBy.mp (List.mem_of_mem_filter hb))
    exact store.eq_of_compareLatest a ha b hb

end Rows

/-! The page. -/

def isFoundByBoth (fmt : ItemFormats) (store : CatalogStore) (query : ItemsQuery)
    (userId : Option Uuid) (item : MediaItem) : Bool :=
  (requestedIds query).all (·.contains item.id) && nameHasTerm query item &&
    ratingsAreKnown store.toItemStore query item &&
    meetsLatestFilters fmt store query userId (requestedParent query) item

/-- An item that one side finds and the other does not comes after a whole page of items that both
find. -/
def LatestKeepsPage (fmt : ItemFormats) (store : CatalogStore) (query : ItemsQuery)
    (userId : Option Uuid) : Prop :=
  ∀ item ∈ store.items, meetsLatestFilters fmt store query userId (requestedParent query) item =
      true →
    FoundAlike fmt store.toItemStore query item ∨
      latestItemsLimit query ≤ store.items.countP fun other =>
        isFoundByBoth fmt store query userId other && compareLatest other item == .lt

theorem isFoundByBoth_eq (fmt : ItemFormats) (store : CatalogStore) (query : ItemsQuery)
    (userId : Option Uuid) (item : MediaItem) :
    isFoundByBoth fmt store query userId item =
      (((requestedIds query).all (·.contains item.id) &&
          meetsSearchFilter fmt query store.metadata item &&
          meetsLatestFilters fmt store query userId (requestedParent query) item) &&
        ((((requestedIds query).getD []).isEmpty ||
            (requestedIds query).all (·.contains item.id)) && nameHasTerm query item &&
          ratingsAreKnown store.toItemStore query item &&
          meetsLatestFilters fmt store query userId (requestedParent query) item)) := by
  have hsearch : nameHasTerm query item = true →
      meetsSearchFilter fmt query store.metadata item = true := meetsSearchFilter_of_name
  rw [isFoundByBoth]
  cases hname : nameHasTerm query item with
  | false => simp
  | true =>
    rw [hsearch hname]
    cases (requestedIds query).all (·.contains item.id) <;> simp

theorem latest_page_is_exact_iff {fmt : ItemFormats} {store : CatalogStore} {query : ItemsQuery}
    {userId : Option Uuid} {page : List MediaItem}
    (h : exactLatestItemsPage fmt store query userId = .ok (some page)) :
    latestItemsInMemory fmt store query userId = .ok page ↔
      LatestKeepsPage fmt store query userId := by
  obtain ⟨q, limit, ids, parentId, hgate, hparent, rfl⟩ := exactLatestItemsPage_ok h
  rw [latestItemsInMemory_eq hgate hparent, Except.ok.injEq,
    take_sortBy_filter_eq_iff store.eq_of_compareLatest (List.Nodup.of_map _ store.distinct)]
  have hids : requestedIds query = ids := bind_toOption_of_ok hgate.identified
  have hparent : requestedParent query = parentId := bind_toOption_of_ok hparent
  subst hids hparent
  refine forall₂_congr fun item _ => ?_
  simp only [← isFoundByBoth_eq, ne_eq, and_right_inj_iff, ← foundAlike_iff, Classical.not_imp,
    and_imp, or_iff_not_imp_left]

def latestStore : CatalogStore where
  toItemStore := { overviewStore "a river" with
    folders := [{ id := 0, name := "Movies", collectionType := some "movies", locations := [] }] }
  items := [itemNamed 1 "Dune", itemNamed 2 "Alien"]
  userConfiguration _ := none
  distinct := by decide
  inFolders := by decide

theorem latest_page_of_two_items :
    latestItemsInMemory plainFormats latestStore {} (some 5) =
      .ok [itemNamed 1 "Dune", itemNamed 2 "Alien"] := by
  have hpage : exactLatestItemsPage plainFormats latestStore {} (some 5) =
      .ok (some [itemNamed 1 "Dune", itemNamed 2 "Alien"]) := by decide
  refine (latest_page_is_exact_iff hpage).mpr fun item _ _ => .inl ?_
  exact foundAlike_of_plain rfl ⟨rfl, rfl, rfl, rfl⟩ (by decide)

theorem latest_page_misses_overviews :
    ∃ query : ItemsQuery,
      exactLatestItemsPage plainFormats latestStore query (some 5) = .ok (some []) ∧
        latestItemsInMemory plainFormats latestStore query (some 5) =
          .ok [itemNamed 1 "Dune", itemNamed 2 "Alien"] :=
  ⟨{ searchTerm := some "river" }, by decide, by decide⟩

end Jellyrin.Items
