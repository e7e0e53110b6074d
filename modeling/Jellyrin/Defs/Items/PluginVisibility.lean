import Jellyrin.Defs.Items.FilteredItemsLaws
import Jellyrin.Defs.Items.ListingRequests

/-! Items of plugins whose tuner a user may not use. -/

namespace Jellyrin.Items

open Api Ascii ClientIds Text Metadata

/-! What the filters look at. -/

def ItemStore.uniform (folders : List VirtualFolder) (metadata : Json)
    (playback : Uuid → Option PlaybackState) : ItemStore :=
  ⟨folders, fun _ => some metadata, fun userId _ => playback userId⟩

structure AgreeAt (store store' : ItemStore) (item : MediaItem) : Prop where
  metadata : store.metadata item.id = store'.metadata item.id
  playback : ∀ userId, store.playback userId item.id = store'.playback userId item.id

section Congr

variable {fmt : ItemFormats} {store store' : ItemStore} {query : ItemsQuery}
  {userId : Option Uuid} {parentIds ids : Option (List Uuid)} {q : MediaItemCatalogQuery}
  {item left right : MediaItem}

theorem meetsRequest_congr (h : AgreeAt store store' item) :
    meetsRequest fmt store query userId parentIds ids item =
      meetsRequest fmt store' query userId parentIds ids item := by
  simp only [meetsRequest, meetsSearchFilter, meetsRangeFilters, meetsPlainFilters, isVisibleTo,
    meetsFieldFilters, meetsValueFilters, meetsPremiereFilter, meetsPlaybackFilters, hasMetadata,
    h.metadata, h.playback]

theorem selects_congr (h : AgreeAt store store' item) :
    q.selects fmt store item = q.selects fmt store' item := by
  simp only [MediaItemCatalogQuery.selects, MediaItemCatalogQuery.selectsSearched,
    MediaItemCatalogQuery.selectsRated, MediaItemCatalogQuery.selectsOther,
    MediaItemCatalogQuery.selectsFields, MediaItemCatalogQuery.selectsValues,
    MediaItemCatalogQuery.selectsEntity, MediaItemCatalogQuery.selectsValue,
    MediaItemCatalogQuery.selectsProvider, MediaItemCatalogQuery.selectsPlayback, isVisibleTo,
    hasMetadata, h.metadata, h.playback]

theorem compareFiltered_congr {selectors : ItemSelectors} (hleft : AgreeAt store store' left)
    (hright : AgreeAt store store' right) :
    compareFiltered fmt query (metadataRead store query selectors) left right =
      compareFiltered fmt query (metadataRead store' query selectors) left right := by
  rw [compareFiltered, compareFiltered]
  split
  · rw [metadataRead, metadataRead]
    split
    · simp only [ItemFormats.compareTvEpisodesWithMetadata, compareChain, List.map_cons,
        List.map_nil, compareOn, hleft.metadata, hright.metadata]
    · rfl
  · rfl

theorem compareRows_congr (hleft : AgreeAt store store' left)
    (hright : AgreeAt store store' right) :
    q.compareRows fmt store left right = q.compareRows fmt store' left right := by
  have hfield : ∀ field, compareField fmt store q.userId field left right =
        compareField fmt store' q.userId field left right ∧
      compareField fmt store q.userId field right left =
        compareField fmt store' q.userId field right left := by
    intro field
    cases field <;> simp only [compareField, hleft.metadata, hright.metadata, hleft.playback,
      hright.playback, and_self]
  have hkey : ∀ key : MediaItemCatalogSortField × SortDirection,
      key.2.order (compareField fmt store q.userId key.1) left right =
        key.2.order (compareField fmt store' q.userId key.1) left right := by
    rintro ⟨field, direction⟩
    cases direction with
    | ascending => exact (hfield field).1
    | descending => exact (hfield field).2
  simp only [MediaItemCatalogQuery.compareRows, compareBySort, compareChain, List.map_map,
    Function.comp_def, hkey]

end Congr

/-! Items under another identifier. -/

section Renamed

variable (fmt : ItemFormats) (item : MediaItem) (id : Uuid)

@[simp] theorem effectiveMediaItemType_id :
    effectiveMediaItemType { item with id } = effectiveMediaItemType item := rfl

@[simp] theorem mediaItemLocationType_id :
    mediaItemLocationType { item with id } = mediaItemLocationType item := rfl

@[simp] theorem mediaItemContainer_id :
    mediaItemContainer { item with id } = mediaItemContainer item := rfl

@[simp] theorem mediaItemVideoType_id :
    mediaItemVideoType { item with id } = mediaItemVideoType item := rfl

@[simp] theorem isPluginVodVirtualItem_id :
    isPluginVodVirtualItem { item with id } = isPluginVodVirtualItem item := rfl

@[simp] theorem streamsOfType_id (streamType : String) :
    fmt.streamsOfType { item with id } streamType = fmt.streamsOfType item streamType := by
  rw [ItemFormats.streamsOfType, fmt.mediaItemStreams_id, ItemFormats.streamsOfType]

@[simp] theorem mediaItemHasStreamLanguage_id (streamType : String) :
    fmt.mediaItemHasStreamLanguage { item with id } streamType =
      fmt.mediaItemHasStreamLanguage item streamType := by
  funext languages
  rw [ItemFormats.mediaItemHasStreamLanguage, ItemFormats.mediaItemStreamLanguages,
    streamsOfType_id, ItemFormats.mediaItemHasStreamLanguage, ItemFormats.mediaItemStreamLanguages]

@[simp] theorem mediaItemHasStreamType_id (streamType : String) :
    fmt.mediaItemHasStreamType { item with id } streamType =
      fmt.mediaItemHasStreamType item streamType := by
  rw [ItemFormats.mediaItemHasStreamType, streamsOfType_id, ItemFormats.mediaItemHasStreamType]

@[simp] theorem dimensionsMatch_id (isHd is4k : Option Bool)
    (minWidth maxWidth minHeight maxHeight : Option Int) :
    dimensionsMatch isHd is4k minWidth maxWidth minHeight maxHeight { item with id } =
      dimensionsMatch isHd is4k minWidth maxWidth minHeight maxHeight item := rfl

@[simp] theorem nameMatches_id (startsWith startsWithOrGreater lessThan : Option String) :
    nameMatches startsWith startsWithOrGreater lessThan { item with id } =
      nameMatches startsWith startsWithOrGreater lessThan item := rfl

variable {fmt item id} {query : ItemsQuery} {q : MediaItemCatalogQuery} {store : ItemStore}

theorem meetsPlainFilters_id (h : store.metadata item.id = store.metadata id) :
    meetsPlainFilters fmt store query { item with id } = meetsPlainFilters fmt store query item := by
  simp [meetsPlainFilters, meetsFieldFilters, isVisibleTo, meetsValueFilters, meetsPremiereFilter,
    hasMetadata, h]

theorem selectsOther_id (hmetadata : store.metadata item.id = store.metadata id)
    (hplayback : ∀ userId, store.playback userId item.id = store.playback userId id) :
    q.selectsOther fmt store { item with id } = q.selectsOther fmt store item := by
  simp [MediaItemCatalogQuery.selectsOther, MediaItemCatalogQuery.selectsFields,
    MediaItemCatalogQuery.selectsValues, MediaItemCatalogQuery.selectsEntity,
    MediaItemCatalogQuery.selectsValue, MediaItemCatalogQuery.selectsProvider,
    MediaItemCatalogQuery.selectsPlayback, isVisibleTo, hasMetadata, hmetadata, hplayback]

end Renamed

/-! Requests. -/

def isHidden (allowed : List String) (metadata : Uuid → Option Json) (item : MediaItem) : Bool :=
  isPluginVodVirtualItem item && hasMetadata metadata item fun metadata =>
    (metadata.stringField "TunerId").any fun tunerId =>
      !allowed.any (eqIgnoreAsciiCase · tunerId)

structure DiffersInHidden (allowed : List String) (store store' : CatalogStore) : Prop where
  folders : store.folders = store'.folders
  items : store.items.filter (!isHidden allowed store.metadata ·) =
    store'.items.filter (!isHidden allowed store'.metadata ·)
  agree : ∀ item ∈ store.items.filter (!isHidden allowed store.metadata ·),
    AgreeAt store.toItemStore store'.toItemStore item

inductive ListingRequest where
  | items (query : ItemsQuery) (userId : Option Uuid)
  | suggestions (query : ItemsQuery) (userId : Uuid)
  | seriesEpisodes (query : ItemsQuery) (seriesId : String) (userId : Uuid)

namespace ListingRequest

variable (fmt : ItemFormats) (views : SpecialViews) (allowed : List String)

def respond (store : CatalogStore) : ListingRequest → Except Failure ItemsPage
  | items query userId =>
    (filteredItemsForQuery fmt views (some allowed) store query userId).map
      (queryPage store.toItemStore userId query)
  | suggestions query userId => suggestionsResult fmt store (query.withTuners none) userId
  | seriesEpisodes query seriesId userId =>
    seriesEpisodesResult fmt store (query.withTuners none) seriesId userId

def KeepsHidden (request : ListingRequest) : Prop :=
  ∀ store store', DiffersInHidden allowed store store' →
    request.respond fmt views allowed store = request.respond fmt views allowed store'

end ListingRequest

/-! Hidden items. -/

theorem not_isHidden_of_isVisibleTo {allowed : List String} {metadata : Uuid → Option Json}
    {item : MediaItem} (h : isVisibleTo (some allowed) metadata item = true) :
    isHidden allowed metadata item = false := by
  rw [isVisibleTo, Option.all_some] at h
  rw [isHidden]
  cases hplugin : isPluginVodVirtualItem item with
  | false => rfl
  | true =>
    rw [hplugin, Bool.not_true, Bool.false_or, hasMetadata] at h
    rw [Bool.true_and, hasMetadata]
    cases hmetadata : metadata item.id with
    | none => rfl
    | some value =>
      rw [hmetadata, Option.any_some] at h
      rw [Option.any_some]
      cases htuner : value.stringField "TunerId" with
      | none => rfl
      | some tunerId =>
        rw [htuner, Option.any_some] at h
        rw [Option.any_some, h, Bool.not_true]

section Hidden

variable {allowed : List String} {store store' : CatalogStore}

theorem DiffersInHidden.symm (h : DiffersInHidden allowed store store') :
    DiffersInHidden allowed store' store where
  folders := h.folders.symm
  items := h.items.symm
  agree item hitem := by
    rw [← h.items] at hitem
    exact ⟨(h.agree item hitem).metadata.symm, fun userId => ((h.agree item hitem).playback userId).symm⟩

theorem DiffersInHidden.rows_eq (h : DiffersInHidden allowed store store')
    {p p' : MediaItem → Bool} {cmp cmp' : MediaItem → MediaItem → Ordering}
    (hp : ∀ item ∈ store.items, p item = true → isHidden allowed store.metadata item = false)
    (hp' : ∀ item ∈ store'.items, p' item = true → isHidden allowed store'.metadata item = false)
    (hsame : ∀ item, AgreeAt store.toItemStore store'.toItemStore item → p item = p' item)
    (hcmp : ∀ left right, AgreeAt store.toItemStore store'.toItemStore left →
      AgreeAt store.toItemStore store'.toItemStore right → cmp left right = cmp' left right) :
    sortBy cmp (store.items.filter p) = sortBy cmp' (store'.items.filter p') := by
  refine sortBy_filter_eq_of_visible h.items ?_ ?_ ?_ ?_
  · exact fun item hitem hsel => by rw [hp item hitem hsel]; rfl
  · exact fun item hitem hsel => by rw [hp' item hitem hsel]; rfl
  · exact fun item hitem => hsame item (h.agree item hitem)
  · exact fun left hleft right hright => hcmp left right (h.agree left hleft) (h.agree right hright)

theorem DiffersInHidden.entries_eq (h : DiffersInHidden allowed store store')
    {items : List MediaItem} {userId : Option Uuid}
    (hitems : ∀ item ∈ items, item ∈ store.items ∧ isHidden allowed store.metadata item = false) :
    items.map (store.entry userId) = items.map (store'.entry userId) := by
  refine List.map_congr_left fun item hitem => ?_
  have hagree := h.agree item (List.mem_filter.mpr ⟨(hitems item hitem).1, by
    rw [(hitems item hitem).2]; rfl⟩)
  rw [ItemStore.entry, ItemStore.entry, hagree.metadata]
  cases userId with
  | none => rfl
  | some userId => rw [Option.bind_some, Option.bind_some, hagree.playback]

end Hidden

/-! Listings. -/

structure Listing where
  selects : ItemStore → MediaItem → Bool
  compare : ItemStore → MediaItem → MediaItem → Ordering
  asksFor : Uuid → Bool
  counted : Bool
  startIndex : Nat
  limit : Option Nat

namespace Listing

def rows (listing : Listing) (store : CatalogStore) : List MediaItem :=
  sortBy (listing.compare store.toItemStore)
    (store.items.filter (listing.selects store.toItemStore))

def cut {α : Type} (listing : Listing) (rows : List α) : List α :=
  match listing.limit with
  | some limit => slice listing.startIndex limit rows
  | none => rows.drop listing.startIndex

def page (listing : Listing) (store : CatalogStore) (userId : Option Uuid) : ItemsPage where
  totalRecordCount := if listing.counted then (listing.rows store).length else 0
  startIndex := listing.startIndex
  items := (listing.cut (listing.rows store)).map (store.entry userId)

structure IsLocal (listing : Listing) : Prop where
  selects : ∀ store store' item, AgreeAt store store' item →
    listing.selects store item = listing.selects store' item
  compare : ∀ store store' left right, AgreeAt store store' left → AgreeAt store store' right →
    listing.compare store left right = listing.compare store' left right

structure OnlyAsksForIds (listing : Listing) : Prop where
  asked : ∀ store item, listing.selects store item = true → listing.asksFor item.id = true
  renamed : ∀ folders metadata playback item id, listing.asksFor id = true →
    listing.selects (.uniform folders metadata playback) item = true →
      listing.selects (.uniform folders metadata playback) { item with id } = true

def SelectsHidden (listing : Listing) (allowed : List String) (store : CatalogStore) : Prop :=
  ∃ item ∈ store.items, isHidden allowed store.metadata item = true ∧
    listing.selects store.toItemStore item = true

/-- An item of a tuner that the user may not use meets the filters. -/
def AcceptsHidden (listing : Listing) (allowed : List String) (folders : List VirtualFolder) :
    Prop :=
  ∃ item metadata playback, item.virtualFolderId ∈ folders.map (·.id) ∧
    isHidden allowed (fun _ => some metadata) item = true ∧
    listing.selects (.uniform folders metadata playback) item = true

/-- The items are counted, or more of them may be asked for than come before the page. -/
def HasRoom (listing : Listing) : Prop :=
  listing.counted = true ∨ listing.limit ≠ some 0 ∧
    ∃ ids : List Uuid, ids.Nodup ∧ (∀ id ∈ ids, listing.asksFor id = true) ∧
      listing.startIndex < ids.length

variable {listing : Listing} {allowed : List String} {store store' : CatalogStore}
  {userId : Option Uuid}

theorem mem_cut {α : Type} {rows : List α} {a : α} (h : a ∈ listing.cut rows) : a ∈ rows := by
  rw [cut] at h
  split at h
  · exact List.mem_of_mem_drop (List.mem_of_mem_take h)
  · exact List.mem_of_mem_drop h

theorem not_isHidden_of_selects (h : ¬listing.SelectsHidden allowed store) (item : MediaItem)
    (hitem : item ∈ store.items) (hselects : listing.selects store.toItemStore item = true) :
    isHidden allowed store.metadata item = false := by
  cases hhidden : isHidden allowed store.metadata item with
  | false => rfl
  | true => exact absurd ⟨item, hitem, hhidden, hselects⟩ h

theorem rows_eq (hlocal : listing.IsLocal) (h : DiffersInHidden allowed store store')
    (hnone : ¬listing.SelectsHidden allowed store)
    (hnone' : ¬listing.SelectsHidden allowed store') :
    listing.rows store = listing.rows store' :=
  h.rows_eq (not_isHidden_of_selects hnone) (not_isHidden_of_selects hnone')
    (fun item => hlocal.selects _ _ item) (fun left right => hlocal.compare _ _ left right)

theorem page_eq (hlocal : listing.IsLocal) (h : DiffersInHidden allowed store store')
    (hnone : ¬listing.SelectsHidden allowed store)
    (hnone' : ¬listing.SelectsHidden allowed store') :
    listing.page store userId = listing.page store' userId := by
  have hrows := rows_eq hlocal h hnone hnone'
  have hentries : (listing.cut (listing.rows store)).map (store.entry userId) =
      (listing.cut (listing.rows store)).map (store'.entry userId) := by
    refine h.entries_eq fun item hitem => ?_
    obtain ⟨hitem, hselects⟩ := List.mem_filter.mp (mem_sortBy.mp (mem_cut hitem))
    exact ⟨hitem, not_isHidden_of_selects hnone item hitem hselects⟩
  rw [page, page, hentries, hrows]

theorem length_rows (listing : Listing) (store : CatalogStore) :
    (listing.rows store).length =
      (store.items.filter (listing.selects store.toItemStore)).length :=
  (sortBy_perm _ _).length_eq

theorem acceptsHidden_of_selectsHidden (hlocal : listing.IsLocal)
    (h : listing.SelectsHidden allowed store) : listing.AcceptsHidden allowed store.folders := by
  obtain ⟨item, hitem, hhidden, hselects⟩ := h
  obtain ⟨hplugin, htuner⟩ := Bool.and_eq_true_iff.mp hhidden
  rw [hasMetadata] at htuner
  obtain ⟨metadata, hmetadata, htuner⟩ := (Option.any_eq_true ..).mp htuner
  refine ⟨item, metadata, (store.playback · item.id), store.inFolders item hitem, ?_, ?_⟩
  · rw [isHidden, hplugin, Bool.true_and, hasMetadata]
    exact htuner
  · rw [hlocal.selects store.toItemStore
      (.uniform store.folders metadata (store.playback · item.id)) item
      ⟨hmetadata, fun _ => rfl⟩] at hselects
    exact hselects

theorem page_of_not_hasRoom (hids : listing.OnlyAsksForIds) (h : ¬listing.HasRoom) :
    listing.page store userId = ⟨0, listing.startIndex, []⟩ := by
  rw [HasRoom, not_or, Bool.not_eq_true] at h
  have hdistinct : ((listing.rows store).map (·.id)).Nodup := by
    rw [rows, ((sortBy_perm _ _).map _).nodup_iff]
    exact (List.filter_sublist.map _).nodup store.distinct
  have hasked : ∀ id ∈ (listing.rows store).map (·.id), listing.asksFor id = true := by
    intro id hid
    obtain ⟨item, hitem, rfl⟩ := List.mem_map.mp hid
    exact hids.asked _ item (List.mem_filter.mp (mem_sortBy.mp hitem)).2
  have hcut : listing.cut (listing.rows store) = [] := by
    by_cases hlimit : listing.limit = some 0
    · rw [cut, hlimit]
      exact List.take_zero
    · have hlength : ¬listing.startIndex < (listing.rows store).length := by
        rw [← List.length_map (·.id)]
        exact fun hlength => h.2 ⟨hlimit, _, hdistinct, hasked, hlength⟩
      rw [cut]
      split
      · rw [slice, List.drop_eq_nil_of_le (Nat.not_lt.mp hlength), List.take_nil]
      · exact List.drop_eq_nil_of_le (Nat.not_lt.mp hlength)
  rw [page, h.1, hcut]
  rfl

end Listing

/-! `/Items`. -/

def sourceSelects (fmt : ItemFormats) (views : SpecialViews) (folders : List VirtualFolder)
    (query : ItemsQuery) : Except Panic (MediaItem → Bool) :=
  match query.parentId with
  | none => .ok fun _ => true
  | some parentId =>
    if views.isTunerView parentId then .ok fun _ => false
    else
      match views.specialUserViewCollectionType parentId with
      | some collectionType => .ok fun item => item.collectionType = some collectionType
      | none => (readUuid parentId).map fun
        | some parentId => fun item =>
          (parentFolderIds fmt folders parentId).contains item.virtualFolderId
        | none => fun _ => true

theorem mediaItemsSourceForQuery_eq (fmt : ItemFormats) (views : SpecialViews)
    (store : CatalogStore) (query : ItemsQuery) :
    mediaItemsSourceForQuery fmt views store query =
      (sourceSelects fmt views store.folders query).map (store.items.filter ·) := by
  rw [mediaItemsSourceForQuery, sourceSelects]
  cases query.parentId with
  | none => exact congrArg Except.ok (List.filter_true _).symm
  | some parentId =>
    dsimp only
    split
    · exact congrArg Except.ok (List.filter_false _).symm
    · cases views.specialUserViewCollectionType parentId with
      | some collectionType => rfl
      | none =>
        rw [readUuid_eq]
        cases decide (IsSliceable parentId) with
        | false => rfl
        | true =>
          cases Uuid.parseStr parentId with
          | none => exact congrArg Except.ok (List.filter_true _).symm
          | some id => rfl

theorem filteredItemsForQuery_eq (fmt : ItemFormats) (views : SpecialViews)
    (allowed : Option (List String)) (store : CatalogStore) (query : ItemsQuery)
    (userId : Option Uuid) :
    filteredItemsForQuery fmt views allowed store query userId =
      (sourceSelects fmt views store.folders (query.withTuners allowed)).mapError .panicked >>=
        fun among => filteredMediaItems fmt store.toItemStore (store.items.filter among)
          (query.withTuners allowed) userId := by
  rw [filteredItemsForQuery, mediaItemsSourceForQuery_eq]
  cases sourceSelects fmt views store.folders (query.withTuners allowed) <;> rfl

theorem meetsRequest_isVisibleTo {fmt : ItemFormats} {store : ItemStore} {query : ItemsQuery}
    {userId : Option Uuid} {parentIds ids : Option (List Uuid)} {item : MediaItem}
    (h : meetsRequest fmt store query userId parentIds ids item = true) :
    isVisibleTo query.allowedPluginTunerIds store.metadata item = true := by
  simp only [meetsRequest, meetsPlainFilters, Bool.and_eq_true] at h
  exact h.2.1.1.1.1.1

def filteredListing (fmt : ItemFormats) (folders : List VirtualFolder) (query : ItemsQuery)
    (userId : Option Uuid) (parentId : Option Uuid) (ids : Option (List Uuid))
    (among : MediaItem → Bool) : Listing where
  selects store item :=
    meetsRequest fmt store query userId (parentId.map (parentFolderIds fmt folders)) ids item &&
      among item
  compare store := compareFiltered fmt query (metadataRead store query (itemSelectors query))
  asksFor id := ids.all (·.contains id)
  counted := true
  startIndex := query.startIndex.getD 0
  limit := query.limit

variable {folders : List VirtualFolder}

theorem filteredListing_isLocal {fmt : ItemFormats} {query : ItemsQuery}
    {userId parentId : Option Uuid} {ids : Option (List Uuid)} {among : MediaItem → Bool} :
    (filteredListing fmt folders query userId parentId ids among).IsLocal where
  selects store store' item h := by simp only [filteredListing, meetsRequest_congr h]
  compare store store' left right hleft hright := compareFiltered_congr hleft hright

theorem filteredListing_onlyAsksForIds {fmt : ItemFormats} {query : ItemsQuery}
    {userId parentId : Option Uuid} {ids : Option (List Uuid)} :
    (filteredListing fmt folders query userId parentId ids fun _ => true).OnlyAsksForIds where
  asked store item h := by
    simp only [filteredListing, meetsRequest, Bool.and_eq_true] at h
    exact h.1.1.1.1.2
  renamed folders metadata playback item id hasked h := by
    simp only [filteredListing, meetsRequest, Bool.and_eq_true] at h ⊢
    obtain ⟨⟨⟨⟨⟨hparent, -⟩, hsearch⟩, hrange⟩, hplain, hplayback⟩, -⟩ := h
    rw [← @meetsPlainFilters_id fmt item id query _ rfl] at hplain
    exact ⟨⟨⟨⟨⟨hparent, hasked⟩, hsearch⟩, hrange⟩, hplain, hplayback⟩, trivial⟩

theorem queryPage_filteredMediaItems {query : ItemsQuery} (fmt : ItemFormats)
    (store : CatalogStore) (userId : Option Uuid) (among : MediaItem → Bool)
    {read : Option Uuid × Option (List Uuid) × ItemSelectors} (h : readFilters query = .ok read) :
    (filteredMediaItems fmt store.toItemStore (store.items.filter among) query userId).map
        (queryPage store.toItemStore userId query) =
      .ok ((filteredListing fmt store.folders query userId read.1 read.2.1 among).page store
        userId) := by
  rw [filteredMediaItems_of_ok h, List.filter_filter]
  rfl

theorem queryPage_withTuners (store : ItemStore) (userId : Option Uuid) (query : ItemsQuery)
    (allowed : Option (List String)) :
    queryPage store userId (query.withTuners allowed) = queryPage store userId query := rfl

theorem items_keepsHidden (fmt : ItemFormats) (views : SpecialViews) (allowed : List String)
    (query : ItemsQuery) (userId : Option Uuid) :
    (ListingRequest.items query userId).KeepsHidden fmt views allowed := by
  intro store store' h
  rw [ListingRequest.respond, ListingRequest.respond, filteredItemsForQuery_eq,
    filteredItemsForQuery_eq, ← h.folders, ← queryPage_withTuners _ userId query (some allowed),
    ← queryPage_withTuners _ userId query (some allowed)]
  cases hsource : sourceSelects fmt views store.folders (query.withTuners (some allowed)) with
  | error panic =>
    have herror : ∀ f : (MediaItem → Bool) → Except Failure (List MediaItem),
        (Except.error panic).mapError Failure.panicked >>= f = .error (.panicked panic) :=
      fun _ => rfl
    rw [herror, herror, Except.map, Except.map]
  | ok among =>
    rw [Except.mapError, ok_bind, ok_bind]
    cases hread : readFilters (query.withTuners (some allowed)) with
    | error error =>
      rw [filteredMediaItems_of_error hread, filteredMediaItems_of_error hread]
      rfl
    | ok read =>
      have hnone : ∀ store' : CatalogStore, ¬(filteredListing fmt store.folders
          (query.withTuners (some allowed)) userId read.1 read.2.1 among).SelectsHidden allowed
            store' := by
        rintro store' ⟨item, -, hhidden, hselects⟩
        have hvisible := meetsRequest_isVisibleTo (Bool.and_eq_true_iff.mp hselects).1
        rw [not_isHidden_of_isVisibleTo hvisible] at hhidden
        cases hhidden
      have hpage := fun store : CatalogStore =>
        queryPage_filteredMediaItems fmt store userId among hread
      rw [hpage store, hpage store', ← h.folders,
        Listing.page_eq filteredListing_isLocal h (hnone store) (hnone store')]

/-! Suggestions. -/

def MediaItemCatalogQuery.listing (fmt : ItemFormats) (q : MediaItemCatalogQuery) : Listing where
  selects := q.selects fmt
  compare := q.compareRows fmt
  asksFor id := q.ids.isEmpty || q.ids.contains id
  counted := q.includeTotalRecordCount
  startIndex := q.startIndex
  limit := some (min q.limit mediaItemCatalogMaxPageSize)

theorem MediaItemCatalogQuery.listing_isLocal {fmt : ItemFormats} {q : MediaItemCatalogQuery} :
    (q.listing fmt).IsLocal where
  selects _ _ _ h := selects_congr h
  compare _ _ _ _ hleft hright := compareRows_congr hleft hright

theorem MediaItemCatalogQuery.listing_onlyAsksForIds {fmt : ItemFormats}
    {q : MediaItemCatalogQuery} : (q.listing fmt).OnlyAsksForIds where
  asked store item h := by
    simp only [listing, selects, Bool.and_eq_true] at h
    exact h.1.1.1
  renamed folders metadata playback item id hasked h := by
    simp only [listing, selects, Bool.and_eq_true] at h ⊢
    obtain ⟨⟨⟨-, hsearched⟩, hrated⟩, hother⟩ := h
    refine ⟨⟨⟨hasked, hsearched⟩, hrated⟩, ?_⟩
    rw [← @selectsOther_id fmt item id q _ rfl fun _ => rfl] at hother
    exact hother

/-- The repository answers the requests that it is asked for, the filters in memory the others. -/
def suggestionListing (fmt : ItemFormats) (folders : List VirtualFolder) (query : ItemsQuery)
    (userId : Uuid) : Except Failure Listing := do
  match ← resolvedMediaCatalogQueryForItems fmt folders query (some userId) with
  | some q => return q.listing fmt
  | none =>
    let read ← readFilters query
    return filteredListing fmt folders query (some userId) read.1 read.2.1 fun _ => true

theorem suggestionListing_laws {fmt : ItemFormats} {query : ItemsQuery} {userId : Uuid}
    {listing : Listing} (h : suggestionListing fmt folders query userId = .ok listing) :
    listing.IsLocal ∧ listing.OnlyAsksForIds := by
  obtain ⟨q, -, h⟩ := exists_of_bind_eq_ok h
  cases q with
  | some q =>
    cases h
    exact ⟨MediaItemCatalogQuery.listing_isLocal, MediaItemCatalogQuery.listing_onlyAsksForIds⟩
  | none =>
    obtain ⟨read, -, h⟩ := exists_of_bind_eq_ok h
    cases h
    exact ⟨filteredListing_isLocal, filteredListing_onlyAsksForIds⟩

theorem suggestionsResult_eq (fmt : ItemFormats) (store : CatalogStore) (query : ItemsQuery)
    (userId : Uuid) :
    suggestionsResult fmt store query userId =
      (suggestionListing fmt store.folders query.forSuggestions userId).map
        (·.page store (some userId)) := by
  rw [suggestionsResult, suggestionListing]
  simp only [mediaCatalogItemsResult, bind_assoc]
  cases hq : resolvedMediaCatalogQueryForItems fmt store.folders query.forSuggestions
      (some userId) with
  | error error => rfl
  | ok q =>
    cases q with
    | some q => rfl
    | none =>
      change (filteredMediaItems fmt store.toItemStore store.items query.forSuggestions
        (some userId) >>= fun items => .ok (queryPage store.toItemStore (some userId)
          query.forSuggestions items)) = (readFilters query.forSuggestions >>= _).map _
      cases hread : readFilters query.forSuggestions with
      | error error => rw [filteredMediaItems_of_error hread]; rfl
      | ok read =>
        have hpage := queryPage_filteredMediaItems fmt store (some userId) (fun _ => true) hread
        rw [List.filter_true] at hpage
        exact hpage

/-- The request is in order over some folders, an item of a tuner that the user may not use meets
its filters, and it is counted or has room on the page. -/
def SuggestsHidden (fmt : ItemFormats) (allowed : List String) (query : ItemsQuery)
    (userId : Uuid) : Prop :=
  ∃ folders listing, suggestionListing fmt folders query.forSuggestions userId = .ok listing ∧
    listing.AcceptsHidden allowed folders ∧ listing.HasRoom

theorem suggestions_keepsHidden (fmt : ItemFormats) (views : SpecialViews) (allowed : List String)
    (query : ItemsQuery) (userId : Uuid)
    (hnone : ¬SuggestsHidden fmt allowed (query.withTuners none) userId) :
    (ListingRequest.suggestions query userId).KeepsHidden fmt views allowed := by
  intro store store' h
  rw [ListingRequest.respond, ListingRequest.respond, suggestionsResult_eq, suggestionsResult_eq,
    ← h.folders]
  cases hlisting : suggestionListing fmt store.folders (query.withTuners none).forSuggestions
      userId with
  | error error => rfl
  | ok listing =>
    obtain ⟨hlocal, hids⟩ := suggestionListing_laws hlisting
    rw [Except.map, Except.map]
    by_cases hroom : listing.HasRoom
    · have haccepts : ¬listing.AcceptsHidden allowed store.folders := fun haccepts =>
        hnone ⟨store.folders, listing, hlisting, haccepts, hroom⟩
      have hselects : ¬listing.SelectsHidden allowed store := fun hselects =>
        haccepts (Listing.acceptsHidden_of_selectsHidden hlocal hselects)
      have hselects' : ¬listing.SelectsHidden allowed store' := fun hselects' =>
        haccepts (h.folders ▸ Listing.acceptsHidden_of_selectsHidden hlocal hselects')
      rw [Listing.page_eq hlocal h hselects hselects']
    · rw [Listing.page_of_not_hasRoom hids hroom, Listing.page_of_not_hasRoom hids hroom]

def CatalogStore.restrict (store : CatalogStore) (items : List MediaItem)
    (hitems : ∀ item ∈ items, item ∈ store.items) (hdistinct : (items.map (·.id)).Nodup) :
    CatalogStore :=
  { store with
    items
    distinct := hdistinct
    inFolders := fun item hitem => store.inFolders item (hitems item hitem) }

theorem Listing.length_cut {α : Type} (listing : Listing) (rows : List α) :
    (listing.cut rows).length = match listing.limit with
      | some limit => min limit (rows.length - listing.startIndex)
      | none => rows.length - listing.startIndex := by
  rw [cut]
  split
  · exact length_slice rows _ _
  · exact List.length_drop

def copies (item : MediaItem) (ids : List Uuid) : List MediaItem :=
  ids.map fun id => { item with id }

def copiesStore (folders : List VirtualFolder) (metadata : Json)
    (playback : Uuid → Option PlaybackState) (item : MediaItem)
    (hfolder : item.virtualFolderId ∈ folders.map (·.id)) (ids : List Uuid) (hids : ids.Nodup) :
    CatalogStore where
  toItemStore := .uniform folders metadata playback
  items := copies item ids
  userConfiguration _ := none
  distinct := by
    rw [copies, List.map_map]
    exact (List.map_id ids).symm ▸ hids
  inFolders copy hcopy := by
    obtain ⟨id, -, rfl⟩ := List.mem_map.mp hcopy
    exact hfolder

theorem Listing.exists_page_ne {listing : Listing} {allowed : List String} (userId : Option Uuid)
    (hids : listing.OnlyAsksForIds) (haccepts : listing.AcceptsHidden allowed folders)
    (hroom : listing.HasRoom) :
    ∃ more fewer : CatalogStore, more.folders = folders ∧ DiffersInHidden allowed more fewer ∧
      listing.page more userId ≠ listing.page fewer userId := by
  obtain ⟨item, metadata, playback, hfolder, hhidden, hselects⟩ := haccepts
  -- One identifier more than the page passes over, or one where the items are counted.
  obtain ⟨id, others, hdistinct, hasked, hlength⟩ : ∃ id others, (id :: others).Nodup ∧
      (∀ other ∈ id :: others, listing.asksFor other = true) ∧
        (listing.counted = true ∨
          listing.limit ≠ some 0 ∧ others.length = listing.startIndex) := by
    obtain hcounted | ⟨hlimit, ids, hdistinct, hasked, hlength⟩ := hroom
    · refine ⟨item.id, [], List.nodup_singleton _, ?_, .inl hcounted⟩
      rw [List.forall_mem_singleton]
      exact hids.asked _ item hselects
    · cases htake : ids.take (listing.startIndex + 1) with
      | nil =>
        have hlengths := congrArg List.length htake
        rw [List.length_take, List.length_nil] at hlengths
        omega
      | cons id others =>
        have hlengths := congrArg List.length htake
        rw [List.length_take, List.length_cons] at hlengths
        refine ⟨id, others, htake ▸ hdistinct.sublist (List.take_sublist _ _), ?_,
          .inr ⟨hlimit, by omega⟩⟩
        rw [← htake]
        exact fun other hother => hasked other (List.mem_of_mem_take hother)
  have hselected : ∀ ids : List Uuid, (∀ id ∈ ids, listing.asksFor id = true) →
      ∀ copy ∈ copies item ids,
        listing.selects (.uniform folders metadata playback) copy = true := by
    intro ids hasked copy hcopy
    obtain ⟨id, hid, rfl⟩ := List.mem_map.mp hcopy
    exact hids.renamed folders metadata playback item id (hasked id hid) hselects
  have hrows : ∀ (ids : List Uuid) (hdistinct : ids.Nodup),
      (∀ id ∈ ids, listing.asksFor id = true) → (listing.rows (copiesStore folders metadata playback
        item hfolder ids hdistinct)).length = ids.length := by
    intro ids hdistinct hasked
    rw [length_rows]
    refine (congrArg _ (List.filter_eq_self.mpr (hselected ids hasked))).trans ?_
    exact List.length_map _
  obtain ⟨more, hmore⟩ : ∃ more, more =
      copiesStore folders metadata playback item hfolder (id :: others) hdistinct := ⟨_, rfl⟩
  obtain ⟨fewer, hfewer⟩ : ∃ fewer, fewer =
      copiesStore folders metadata playback item hfolder others hdistinct.of_cons := ⟨_, rfl⟩
  have hlength_fewer : (listing.rows fewer).length = others.length := by
    rw [hfewer]
    exact hrows others _ fun other hother => hasked other (List.mem_cons_of_mem _ hother)
  have hlength_more : (listing.rows more).length = others.length + 1 := by
    rw [hmore]
    exact hrows (id :: others) _ hasked
  refine ⟨more, fewer, by rw [hmore]; rfl, ⟨by rw [hmore, hfewer]; rfl, ?_, ?_⟩, fun hpage => ?_⟩
  · rw [hmore, hfewer]
    refine List.filter_cons_of_neg ?_
    have hcopy : isHidden allowed (fun _ => some metadata) { item with id } = true := hhidden
    change ¬(!isHidden allowed (fun _ => some metadata) { item with id }) = true
    rw [hcopy]
    exact Bool.false_ne_true
  · rw [hmore, hfewer]
    exact fun _ _ => ⟨rfl, fun _ => rfl⟩
  · obtain hcounted | ⟨hlimit, hstart⟩ := hlength
    · have htotal := congrArg ItemsPage.totalRecordCount hpage
      simp only [page, hcounted, if_true, hlength_fewer, hlength_more] at htotal
      omega
    · have hitems := congrArg (fun page => page.items.length) hpage
      simp only [page, List.length_map, length_cut, hlength_fewer, hlength_more, hstart] at hitems
      cases hcase : listing.limit with
      | none => simp [hcase] at hitems
      | some limit =>
        rw [hcase] at hlimit
        simp only [hcase] at hitems
        have hpos : limit ≠ 0 := fun hzero => hlimit (by rw [hzero])
        omega

theorem suggestions_keepsHidden_iff (fmt : ItemFormats) (views : SpecialViews)
    (allowed : List String) (query : ItemsQuery) (userId : Uuid) :
    (ListingRequest.suggestions query userId).KeepsHidden fmt views allowed ↔
      ¬SuggestsHidden fmt allowed (query.withTuners none) userId := by
  refine ⟨?_, suggestions_keepsHidden fmt views allowed query userId⟩
  rintro hkeeps ⟨folders, listing, hlisting, haccepts, hroom⟩
  obtain ⟨more, fewer, hfolders, hdiffers, hne⟩ :=
    Listing.exists_page_ne (some userId) (suggestionListing_laws hlisting).2 haccepts hroom
  have hsame := hkeeps more fewer hdiffers
  rw [ListingRequest.respond, ListingRequest.respond, suggestionsResult_eq, suggestionsResult_eq,
    ← hdiffers.folders, hfolders, hlisting] at hsame
  exact hne (Except.ok.inj hsame)

/-! Episodes of a series. -/

section Series

variable {fmt : ItemFormats} {store : CatalogStore} {query : ItemsQuery} {seriesId : String}
  {userId : Uuid}

theorem seriesEpisodesResult_of_panic (h : readFilters query = .error (.panicked .charBoundary)) :
    seriesEpisodesResult fmt store query seriesId userId = .error (.panicked .charBoundary) := by
  rw [seriesEpisodesResult]
  cases tvEpisodeCatalogSnapshotScopedToSeries fmt store seriesId with
  | error panic => rfl
  | ok snapshot =>
    change filteredMediaItems fmt store.toItemStore snapshot.1 query _ >>= _ = _
    rw [filteredMediaItems_of_error h]
    rfl

theorem tvEpisodeCatalogSnapshotScopedToSeries_of_not (h : ¬IsSliceable seriesId) :
    tvEpisodeCatalogSnapshotScopedToSeries fmt store seriesId = .error .charBoundary := by
  rw [tvEpisodeCatalogSnapshotScopedToSeries, tvEpisodeCatalogSnapshotForSeries, readUuid_of_not h]
  rfl

theorem seriesEpisodesResult_of_not (h : ¬IsSliceable seriesId) :
    seriesEpisodesResult fmt store query seriesId userId = .error (.panicked .charBoundary) := by
  rw [seriesEpisodesResult, tvEpisodeCatalogSnapshotScopedToSeries_of_not h]
  rfl

theorem tvEpisodeCatalogSnapshotScopedToSeries_of_no_id (hread : IsSliceable seriesId)
    (h : Uuid.parseStr seriesId = none) :
    tvEpisodeCatalogSnapshotScopedToSeries fmt store seriesId =
      .ok (tvSeriesLookupCandidatesWithoutCanonicalSeriesId fmt store, seriesId) := by
  have hid : readUuid seriesId = .ok none := by rw [readUuid_of_isSliceable hread, h]
  rw [tvEpisodeCatalogSnapshotScopedToSeries, tvEpisodeCatalogSnapshotForSeries, anchoredSnapshot,
    anchoredSeriesId, tvEpisodeCatalogSnapshotForSeason, hid]
  rfl

theorem seriesEpisodesResult_of_no_id {error : Failure} (hid : IsSliceable seriesId)
    (h : Uuid.parseStr seriesId = none) (hread : readFilters query = .error error) :
    seriesEpisodesResult fmt store query seriesId userId = .error error := by
  rw [seriesEpisodesResult, tvEpisodeCatalogSnapshotScopedToSeries_of_no_id hid h]
  change filteredMediaItems fmt store.toItemStore _ query _ >>= _ = _
  rw [filteredMediaItems_of_error hread]
  rfl

theorem seriesEpisodesResult_of_no_items (hitems : store.items = []) (hid : IsSliceable seriesId) :
    seriesEpisodesResult fmt store query seriesId userId =
      readFilters query >>= fun _ => .error (.notFound "Series not found") := by
  have hnone : ∀ id : Option Uuid, (id.bind fun _ => none : Option (List MediaItem)) = none :=
    fun id => Option.bind_fun_none id
  have hseries : tvEpisodeCatalogSnapshotForSeries fmt store seriesId = .ok none := by
    simp only [tvEpisodeCatalogSnapshotForSeries, readUuid_of_isSliceable hid,
      tvSeriesLookupCandidatesForSeries, hitems, List.filter_nil, presentItems, List.isEmpty_nil,
      if_true, hnone, Except.map]
  have hseason : tvEpisodeCatalogSnapshotForSeason fmt store seriesId = .ok none := by
    simp only [tvEpisodeCatalogSnapshotForSeason, readUuid_of_isSliceable hid,
      tvSeriesLookupCandidatesForSeason, hitems, List.filter_nil, presentItems, List.isEmpty_nil,
      if_true, hnone, Except.map]
  have hanchor : (Uuid.parseStr seriesId).bind (itemWithMetadata store) = none := by
    rw [Option.bind_eq_none_iff]
    intro id _
    rw [itemWithMetadata, hitems]
    rfl
  have hanchored : anchoredSnapshot fmt store seriesId = .ok none := by
    rw [anchoredSnapshot, anchoredSeriesId, readUuid_of_isSliceable hid, ok_bind, hanchor]
    rfl
  have hcandidates : tvSeriesLookupCandidatesWithoutCanonicalSeriesId fmt store = [] := by
    rw [tvSeriesLookupCandidatesWithoutCanonicalSeriesId, hitems, List.filter_nil]
  have hsnapshot : tvEpisodeCatalogSnapshotScopedToSeries fmt store seriesId =
      .ok ([], seriesId) := by
    rw [tvEpisodeCatalogSnapshotScopedToSeries, hseries, hanchored, hseason, hcandidates]
    rfl
  have hname : seriesNameForId fmt store seriesId = .ok none := by
    rw [seriesNameForId, hseries, hcandidates]
    rfl
  rw [seriesEpisodesResult, hsnapshot]
  change filteredMediaItems fmt store.toItemStore [] query _ >>= _ = _
  cases hread : readFilters query with
  | error error =>
    rw [filteredMediaItems_of_error hread]
    rfl
  | ok read =>
    rw [filteredMediaItems_of_ok hread]
    rw [List.filter_nil, sortBy, List.insertionSort_nil]
    change (isUnknownSeries fmt store [] seriesId).mapError Failure.panicked >>= _ = _
    rw [isUnknownSeries, List.isEmpty_nil, if_pos rfl, hname]
    rfl

end Series

/-! An item that is hidden. -/

def pluginItem (id : Uuid) (mediaType : String) : MediaItem where
  id
  virtualFolderId := 1
  name := "Item"
  path := "plugin-vod://item"
  mediaType
  collectionType := some "tvshows"
  bitrate := none
  width := none
  height := none
  mediaStreams := []
  createdAt := 0
  updatedAt := 0

def pluginMetadata (kind seriesId tunerId : String) : Json :=
  .object [("PluginVodKind", .string kind), ("SeriesId", .string seriesId),
    ("TunerId", .string tunerId)]

def pluginStore (item : MediaItem) (h : item.virtualFolderId = 1) (metadata : Json) :
    CatalogStore where
  folders := [{ id := 1, name := "Series", collectionType := some "tvshows", locations := [] }]
  metadata _ := some metadata
  playback _ _ := none
  items := [item]
  userConfiguration _ := none
  distinct := List.nodup_singleton _
  inFolders other hother := by
    rw [List.mem_singleton.mp hother, h]
    exact List.mem_singleton.mpr rfl

section HiddenItem

variable {fmt : ItemFormats} {query : ItemsQuery} {id : Uuid}
  {mediaType kind seriesId tunerId : String}

theorem isHidden_pluginItem (allowed : List String) :
    isHidden allowed (fun _ => some (pluginMetadata kind seriesId (unusedName allowed)))
      (pluginItem id mediaType) = true := by
  have hplugin : startsWith "plugin-vod://item" "plugin-vod://" = true := by decide
  have hkind : eqIgnoreAsciiCase "PluginVodKind" "TunerId" = false := by decide
  have hseries : eqIgnoreAsciiCase "SeriesId" "TunerId" = false := by decide
  rw [isHidden, isPluginVodVirtualItem, pluginItem, hplugin, Bool.true_and]
  simp [hasMetadata, pluginMetadata, Json.stringField, Json.fieldCaseInsensitive, Json.asObject,
    hkind, hseries, trim_unusedName, unusedName_ne_empty, not_any_unusedName]

theorem firstMetadataValue_pluginMetadata :
    firstMetadataValueFromJson fmt.floatText (pluginMetadata kind unreadableId tunerId)
      ["SeriesId"] = some unreadableId := by
  have hkind : eqIgnoreAsciiCase "PluginVodKind" "SeriesId" = false := by decide
  refine firstMetadataValueFromJson_of_string ?_ (by decide) (by decide)
  simp [pluginMetadata, Json.fieldCaseInsensitive, Json.asObject, hkind]

theorem uuidIsReadable_pluginMetadata :
    fmt.uuidIsReadable (some (pluginMetadata kind unreadableId tunerId)) "SeriesId" = false := by
  rw [ItemFormats.uuidIsReadable, Option.bind_some, firstMetadataValue_pluginMetadata]
  exact decide_eq_false not_isSliceable_unreadableId

theorem metadataColumn_pluginStore {item : MediaItem} {h : item.virtualFolderId = 1} :
    metadataColumn fmt (pluginStore item h (pluginMetadata kind unreadableId tunerId)) item
      "SeriesId" = some unreadableId := by
  have hkind : ("PluginVodKind" == "SeriesId") = false := by decide
  have htrim : btrim unreadableId = unreadableId := by decide
  simp [metadataColumn, pluginStore, pluginMetadata, columnText, Json.get, Json.asObject, hkind,
    htrim]

def CatalogStore.withoutItems (store : CatalogStore) : CatalogStore :=
  store.restrict [] (List.forall_mem_nil _) List.nodup_nil

theorem differsInHidden_pluginStore (allowed : List String) :
    DiffersInHidden allowed
      (pluginStore (pluginItem id mediaType) rfl
        (pluginMetadata kind seriesId (unusedName allowed)))
      (pluginStore (pluginItem id mediaType) rfl
        (pluginMetadata kind seriesId (unusedName allowed))).withoutItems where
  folders := rfl
  items := List.filter_cons_of_neg fun hvisible => by
    change (!isHidden allowed (fun _ => some (pluginMetadata kind seriesId (unusedName allowed)))
      (pluginItem id mediaType)) = true at hvisible
    rw [isHidden_pluginItem] at hvisible
    cases hvisible
  agree _ _ := ⟨rfl, fun _ => rfl⟩

/-! An episode of a series that cannot be read. -/

theorem seriesEpisodesResult_of_episode (userId : Uuid) (hid : IsSliceable seriesId)
    (h : Uuid.parseStr seriesId = none)
    {read : Option Uuid × Option (List Uuid) × ItemSelectors} (hread : readFilters query = .ok read) :
    seriesEpisodesResult fmt (pluginStore (pluginItem 1 "Video") rfl
        (pluginMetadata "episode" unreadableId tunerId)) query seriesId userId =
      .error (.panicked .charBoundary) := by
  have hepisode : effectiveMediaItemType (pluginItem 1 "Video") = "Episode" := by decide
  have hvideo : isTvVideo (pluginItem 1 "Video") = true := by decide
  have hseries : ((pluginItem 1 "Video").mediaType == "Series") = false := by decide
  have hcolumn : metadataColumn fmt (pluginStore (pluginItem 1 "Video") rfl
      (pluginMetadata "episode" unreadableId tunerId)) (pluginItem 1 "Video") "SeriesId" =
      some unreadableId := metadataColumn_pluginStore
  have hreadable : fmt.uuidIsReadable (some (pluginMetadata "episode" unreadableId tunerId))
      "SeriesId" = false := uuidIsReadable_pluginMetadata
  generalize pluginMetadata "episode" unreadableId tunerId = metadata at hcolumn hreadable ⊢
  have hitems : (pluginStore (pluginItem 1 "Video") rfl metadata).items =
    [pluginItem 1 "Video"] := rfl
  have hmetadata : (pluginStore (pluginItem 1 "Video") rfl metadata).metadata
    (pluginItem 1 "Video").id = some metadata := rfl
  generalize pluginStore (pluginItem 1 "Video") rfl metadata = store at hcolumn hitems hmetadata ⊢
  generalize pluginItem 1 "Video" = item at hepisode hvideo hseries hcolumn hitems hmetadata
  have hinfo : fmt.tvEpisodeInfo item = some (fmt.tvEpisodePathInfo item.name item.path) := by
    rw [ItemFormats.tvEpisodeInfo, if_pos hepisode]
  have hcandidates : tvSeriesLookupCandidatesWithoutCanonicalSeriesId fmt store = [item] := by
    have hother : isCanonicalId unreadableId = false := by decide
    rw [tvSeriesLookupCandidatesWithoutCanonicalSeriesId, hitems, List.filter_cons_of_pos,
      List.filter_nil]
    rw [hvideo, hcolumn, Option.any_some, hother, Bool.false_and, Bool.not_false, Bool.and_true]
  have hmatches : isEpisodeOf fmt store item seriesId query.seasonId = .error .charBoundary := by
    unfold isEpisodeOf
    rw [ItemFormats.tvEpisodeMatchesSeries_eq, hinfo, hmetadata, hreadable]
    rfl
  have hname : seriesNameForId fmt store seriesId = .error .charBoundary := by
    have hsnapshot : tvEpisodeCatalogSnapshotForSeries fmt store seriesId = .ok none := by
      rw [tvEpisodeCatalogSnapshotForSeries, readUuid_of_isSliceable hid, h]
      rfl
    have hanchor : anchorNameFor fmt store item seriesId = .ok none := by
      rw [anchorNameFor, hmetadata]
      dsimp only
      rw [ItemFormats.pluginVodSeriesAnchorInfo, ItemFormats.isPluginVodSeriesAnchor, hseries]
      rfl
    rw [seriesNameForId, hsnapshot, ok_bind, hcandidates, Option.getD_none,
      seriesNameForIdFromSnapshot, List.findSomeM?, hanchor, ok_bind]
    simp only [hinfo, hmetadata, ItemFormats.tvSeriesIdForEpisode_eq, hreadable, onlyIf_false]
    rfl
  rw [seriesEpisodesResult, tvEpisodeCatalogSnapshotScopedToSeries_of_no_id hid h, hcandidates]
  change filteredMediaItems fmt store.toItemStore [item] query _ >>= _ = _
  rw [filteredMediaItems_of_ok hread]
  -- Among the candidates it stops the matching, and otherwise the search for a name.
  cases hmeets : meetsRequest fmt store.toItemStore query (some userId)
      (read.1.map (parentFolderIds fmt store.folders)) read.2.1 item with
  | true =>
    have hsort : ∀ cmp : MediaItem → MediaItem → Ordering, sortBy cmp [item] = [item] :=
      fun _ => rfl
    rw [List.filter_cons_of_pos hmeets, List.filter_nil, hsort, ok_bind, filterM_cons, hmatches]
    rfl
  | false =>
    rw [List.filter_cons_of_neg (by rw [hmeets]; exact Bool.false_ne_true), List.filter_nil, sortBy,
      List.insertionSort_nil]
    change (isUnknownSeries fmt store [] seriesId).mapError Failure.panicked >>= _ = _
    rw [isUnknownSeries, List.isEmpty_nil, if_pos rfl, hname]
    rfl

/-! An anchor of a series that cannot be read. -/

theorem tvEpisodeCatalogSnapshotScopedToSeries_of_anchor (h : Uuid.parseStr seriesId = some id) :
    tvEpisodeCatalogSnapshotScopedToSeries fmt (pluginStore (pluginItem id "Series") rfl
        (pluginMetadata "series" unreadableId tunerId)) seriesId = .error .charBoundary := by
  have hread := readUuid_of_isSliceable (isSliceable_of_parseStr h)
  rw [h] at hread
  have hcolumn : metadataColumn fmt (pluginStore (pluginItem id "Series") rfl
      (pluginMetadata "series" unreadableId tunerId)) (pluginItem id "Series") "SeriesId" =
      some unreadableId := metadataColumn_pluginStore
  have hreadable : fmt.uuidIsReadable (some (pluginMetadata "series" unreadableId tunerId))
      "SeriesId" = false := uuidIsReadable_pluginMetadata
  have hanchor : fmt.isPluginVodSeriesAnchor (pluginItem id "Series")
      (pluginMetadata "series" unreadableId tunerId) = true := by
    have hfield : (pluginMetadata "series" unreadableId tunerId).fieldCaseInsensitive
        "PluginVodKind" = some (.string "series") := by
      simp [pluginMetadata, Json.fieldCaseInsensitive, Json.asObject]
    rw [ItemFormats.isPluginVodSeriesAnchor,
      firstMetadataValueFromJson_of_string hfield (by decide) (by decide), Option.any_some]
    change (("Series" == "Series") && isTvCollection (some (toAsciiLowercase "tvshows")) && _) = true
    decide
  have hother : (some unreadableId == some id.simple) = false := by
    rw [Option.some_beq_some, beq_eq_false_iff_ne]
    intro hsame
    exact not_isSliceable_unreadableId (hsame ▸ isSliceable_simple id)
  have hseries : tvEpisodeCatalogSnapshotForSeries fmt (pluginStore (pluginItem id "Series") rfl
      (pluginMetadata "series" unreadableId tunerId)) seriesId = .ok none := by
    rw [tvEpisodeCatalogSnapshotForSeries, hread, Except.map, Option.bind_some,
      tvSeriesLookupCandidatesForSeries]
    change Except.ok (presentItems (List.filter _ [pluginItem id "Series"])) = _
    rw [List.filter_cons_of_neg, List.filter_nil]
    · rfl
    · rw [hcolumn, hother, Bool.and_false]
      exact Bool.false_ne_true
  have hanchored : itemWithMetadata (pluginStore (pluginItem id "Series") rfl
      (pluginMetadata "series" unreadableId tunerId)) id =
        some (pluginItem id "Series", pluginMetadata "series" unreadableId tunerId) := by
    rw [itemWithMetadata]
    change (List.find? (·.id == id) [pluginItem id "Series"]).bind _ = _
    rw [List.find?_cons_of_pos (by exact beq_self_eq_true id)]
    rfl
  rw [tvEpisodeCatalogSnapshotScopedToSeries, hseries, ok_bind, anchoredSnapshot, anchoredSeriesId,
    hread, ok_bind, Option.bind_some, hanchored]
  dsimp only
  rw [ItemFormats.pluginVodSeriesAnchorInfo, if_pos hanchor,
    ItemFormats.canonicalMetadataUuidFromJson_eq, hreadable]
  rfl

theorem seriesEpisodesResult_of_anchor (userId : Uuid) (h : Uuid.parseStr seriesId = some id) :
    seriesEpisodesResult fmt (pluginStore (pluginItem id "Series") rfl
        (pluginMetadata "series" unreadableId tunerId)) query seriesId userId =
      .error (.panicked .charBoundary) := by
  rw [seriesEpisodesResult, tvEpisodeCatalogSnapshotScopedToSeries_of_anchor h]
  rfl

end HiddenItem

def NamesSeries (query : ItemsQuery) (seriesId : String) : Prop :=
  IsSliceable seriesId ∧ ((∃ read, readFilters query = .ok read) ∨
    (Uuid.parseStr seriesId).isSome = true ∧ ∃ error, readFilters query = .error (.refused error))

theorem seriesEpisodes_keepsHidden_iff (fmt : ItemFormats) (views : SpecialViews)
    (allowed : List String) (query : ItemsQuery) (seriesId : String) (userId : Uuid) :
    (ListingRequest.seriesEpisodes query seriesId userId).KeepsHidden fmt views allowed ↔
      ¬NamesSeries (query.withTuners none) seriesId := by
  generalize hquery : query.withTuners none = read
  constructor
  · rintro hkeeps ⟨hid, hread⟩
    -- A store whose item stops the handler, which answers where there are no items.
    obtain ⟨store, hdiffers, hpanics⟩ : ∃ store : CatalogStore,
        DiffersInHidden allowed store store.withoutItems ∧
          seriesEpisodesResult fmt store read seriesId userId =
            .error (.panicked .charBoundary) := by
      cases hparse : Uuid.parseStr seriesId with
      | none =>
        obtain ⟨filters, hfilters⟩ := hread.resolve_right fun hsome => by
          rw [hparse] at hsome
          exact Bool.false_ne_true hsome.1
        exact ⟨_, differsInHidden_pluginStore allowed,
          seriesEpisodesResult_of_episode userId hid hparse hfilters⟩
      | some id =>
        exact ⟨_, differsInHidden_pluginStore allowed,
          seriesEpisodesResult_of_anchor userId hparse⟩
    have hsame := hkeeps store store.withoutItems hdiffers
    rw [ListingRequest.respond, ListingRequest.respond, hquery, hpanics,
      seriesEpisodesResult_of_no_items rfl hid] at hsame
    obtain ⟨filters, hfilters⟩ | ⟨-, error, hrefused⟩ := hread
    · rw [hfilters] at hsame
      cases hsame
    · rw [hrefused] at hsame
      cases hsame
  · intro hnone store store' _
    rw [ListingRequest.respond, ListingRequest.respond, hquery]
    by_cases hid : IsSliceable seriesId
    · cases hread : readFilters read with
      | ok filters => exact absurd ⟨hid, .inl ⟨filters, hread⟩⟩ hnone
      | error error =>
        cases error with
        | panicked panic =>
          cases panic
          rw [seriesEpisodesResult_of_panic hread, seriesEpisodesResult_of_panic hread]
        | refused error =>
          have hparse : Uuid.parseStr seriesId = none := by
            rw [← Option.not_isSome_iff_eq_none]
            exact fun hsome => hnone ⟨hid, .inr ⟨hsome, error, hread⟩⟩
          rw [seriesEpisodesResult_of_no_id hid hparse hread,
            seriesEpisodesResult_of_no_id hid hparse hread]
    · rw [seriesEpisodesResult_of_not hid, seriesEpisodesResult_of_not hid]

def ListingRequest.ReachesHidden (fmt : ItemFormats) (allowed : List String) :
    ListingRequest → Prop
  | items _ _ => False
  | suggestions query userId => SuggestsHidden fmt allowed (query.withTuners none) userId
  | seriesEpisodes query seriesId _ => NamesSeries (query.withTuners none) seriesId

/-- Listings other than `/Items` leave the tuners of the user out of the query. -/
theorem hidden_items_stay_hidden_iff (fmt : ItemFormats) (views : SpecialViews)
    (allowed : List String) (request : ListingRequest) :
    request.KeepsHidden fmt views allowed ↔ ¬request.ReachesHidden fmt allowed := by
  cases request with
  | items query userId => exact iff_of_true (items_keepsHidden fmt views allowed query userId) id
  | suggestions query userId =>
    exact suggestions_keepsHidden_iff fmt views allowed query userId
  | seriesEpisodes query seriesId userId =>
    exact seriesEpisodes_keepsHidden_iff fmt views allowed query seriesId userId

/-- A hidden episode is counted by the suggestions, and the episodes of its series are listed, where
there are none without it. -/
theorem suggestions_count_hidden_items :
    ∃ store store' page, DiffersInHidden [] store store' ∧
      ((ListingRequest.suggestions {} 5).respond plainFormats ⟨fun _ => false, fun _ => none⟩ []
          store).toOption.map (·.totalRecordCount) = some 1 ∧
      ((ListingRequest.suggestions {} 5).respond plainFormats ⟨fun _ => false, fun _ => none⟩ []
          store').toOption.map (·.totalRecordCount) = some 0 ∧
      (ListingRequest.seriesEpisodes {} (Uuid.simple 7) 5).respond plainFormats
          ⟨fun _ => false, fun _ => none⟩ [] store = .ok page ∧ page.totalRecordCount = 1 ∧
      (ListingRequest.seriesEpisodes {} (Uuid.simple 7) 5).respond plainFormats
          ⟨fun _ => false, fun _ => none⟩ [] store' =
        .error (.refused (.notFound "Series not found")) := by
  obtain ⟨store, hstore⟩ : ∃ store, store = pluginStore (pluginItem 1 "Video") rfl
    (pluginMetadata "episode" (Uuid.simple 7) (unusedName [])) := ⟨_, rfl⟩
  have hpage : ((ListingRequest.seriesEpisodes {} (Uuid.simple 7) 5).respond plainFormats
      ⟨fun _ => false, fun _ => none⟩ [] store).toOption.map (·.totalRecordCount) = some 1 := by
    rw [hstore]
    decide +kernel
  obtain ⟨page, hanswer, htotal⟩ := Option.map_eq_some_iff.mp hpage
  refine ⟨store, store.withoutItems, page, ?_, ?_, ?_, mem_toOption.mp hanswer, htotal, ?_⟩
  · rw [hstore]
    exact differsInHidden_pluginStore []
  · rw [hstore]
    decide +kernel
  · rw [hstore]
    decide +kernel
  · rw [hstore]
    decide +kernel

end Jellyrin.Items
