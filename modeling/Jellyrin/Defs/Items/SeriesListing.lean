import Jellyrin.Defs.Api.ClientIds
import Jellyrin.Defs.CatalogCache.ListingKey
import Jellyrin.Defs.Data.HashMap
import Jellyrin.Defs.Data.JsonFields
import Jellyrin.Defs.Data.Paging
import Jellyrin.Defs.Items.ItemsQuery

/-! The series of the catalogue, a page of which is kept for all users. -/

namespace Jellyrin.Items

open Api ClientIds Text

/-! What a request shows of a row. -/

def imageFields : List String :=
  ["ImageTags", "ImageBlurHashes", "BackdropImageTags", "ParentBackdropImageTags",
    "PrimaryImageAspectRatio"]

def optionalFields : List String :=
  ["Overview", "MediaSources", "MediaStreams", "Path", "People", "Studios", "Genres", "Tags",
    "Taglines", "ProviderIds", "DateCreated", "PremiereDate", "ProductionYear", "OfficialRating",
    "CommunityRating", "CriticRating", "PrimaryImageAspectRatio"]

def requestedFields (fields : String) : List String :=
  ((split ',' fields).map fun field => Ascii.toAsciiLowercase (Json.trim field)).filter (· ≠ "")

def omittedFields (query : ItemsQuery) : List String :=
  (if queryFlag query.enableImages = some false then imageFields else []) ++
    (if queryFlag query.enableUserData = some false then ["UserData"] else []) ++
    match query.fields with
    | none => []
    | some fields => optionalFields.filter fun field =>
        Ascii.toAsciiLowercase field ∉ requestedFields fields

def shapeCatalogItemForQuery (item : Json) (query : ItemsQuery) : Json :=
  (omittedFields query).foldl Json.remove item

/-! The catalogue. -/

structure TvSeriesCatalogNameFilter where
  searchTerm : Option String
  startsWith : Option String
  startsWithOrGreater : Option String
  lessThan : Option String
  deriving DecidableEq

structure TvSeriesCatalogPage where
  seriesIds : List String
  totalRecordCount : Nat
  startIndex : Nat
  deriving DecidableEq

structure TvSeriesPlaybackSummary where
  episodeCount : Nat
  unplayedCount : Nat

structure TvSeriesCatalog where
  folders : List VirtualFolder
  /-- `tv_series_catalog_search_page`, which the projection may not be able to answer. -/
  searchPage : Option Uuid → Nat → Nat → Bool → TvSeriesCatalogNameFilter →
    Option TvSeriesCatalogPage
  /-- `tv_series_json` of the episodes of a series, all of them or those of a folder. -/
  row : Option Uuid → String → Json
  /-- The catalogue has canonical identifiers only. -/
  row_id : ∀ folder id, (row folder id).get "Id" = some (.string id)
  /-- `tv_series_playback_summary`. -/
  playbackSummary : Uuid → String → Uuid → Option TvSeriesPlaybackSummary
  /-- The answer of the episodes themselves, grouped by series. -/
  groupedResult : ItemsQuery → Option Uuid → Except Failure (QueryResult Json)

def listedFolder (folders : List VirtualFolder) (query : ItemsQuery) :
    Except Panic (Option (Option Uuid)) := do
  let scope ←
    match query.parentId with
    | none => pure (some none)
    | some parentId => do
      let parentId ← readUuid parentId
      pure ((parentId.filter fun parentId =>
        folders.any fun folder => folder.id == parentId && folder.isTvLibrary).map some)
  let simpleCatalogQuery :=
    { query with
      parentId := none
      nameStartsWith := none
      nameStartsWithOrGreater := none
      nameLessThan := none }
  pure (if queryRequestsOnlyItemType query "Series" && fastNameSearchQueryIsSimple simpleCatalogQuery
    then scope else none)

structure TvSeriesListingPage where
  items : List Json
  seriesIds : List String
  totalRecordCount : Nat
  startIndex : Nat

def nameFilter (query : ItemsQuery) : TvSeriesCatalogNameFilter :=
  ⟨query.searchTerm, query.nameStartsWith, query.nameStartsWithOrGreater, query.nameLessThan⟩

def listingLimit (query : ItemsQuery) : Nat :=
  min (query.limit.getD 25) mediaItemCatalogMaxPageSize

def includesTotal (query : ItemsQuery) : Bool := (queryFlag query.enableTotalRecordCount).getD true

def TvSeriesCatalog.page (catalog : TvSeriesCatalog) (folder : Option Uuid) (query : ItemsQuery) :
    Option TvSeriesCatalogPage :=
  catalog.searchPage folder (query.startIndex.getD 0) (listingLimit query) (includesTotal query)
    (nameFilter query)

def TvSeriesCatalog.sharedPage (catalog : TvSeriesCatalog) (folder : Option Uuid)
    (query : ItemsQuery) (page : TvSeriesCatalogPage) : TvSeriesListingPage where
  items := page.seriesIds.map fun id => shapeCatalogItemForQuery (catalog.row folder id) query
  seriesIds := page.seriesIds
  totalRecordCount := page.totalRecordCount
  startIndex := page.startIndex

/-! The cache. -/

def filterFingerprint (filter : TvSeriesCatalogNameFilter) : String :=
  "\u001f".intercalate [filter.searchTerm.getD "", filter.startsWith.getD "",
    filter.startsWithOrGreater.getD "", filter.lessThan.getD ""]

def listingPage (folder : Option Uuid) (query : ItemsQuery) : CatalogCache.ListingPage where
  virtualFolderId := folder
  startIndex := query.startIndex.getD 0
  limit := listingLimit query
  includeTotal := includesTotal query
  nameFilter := filterFingerprint (nameFilter query)
  visibilityScope := query.allowedPluginTunerIds

def listingCacheKey (sha256 : List UInt8 → BitVec 256) (folder : Option Uuid) (query : ItemsQuery) :
    String :=
  CatalogCache.tvSeriesListingCacheKey sha256 (listingPage folder query)

def TvSeriesListingPage.toJson (payload : TvSeriesListingPage) : Json :=
  .object [("items", .array payload.items),
    ("series_ids", .array (payload.seriesIds.map .string)),
    ("start_index", .number payload.startIndex),
    ("total_record_count", .number payload.totalRecordCount)]

def payloadJson (payload : Option TvSeriesListingPage) : Json :=
  (payload.map TvSeriesListingPage.toJson).getD .null

def maxCacheValueBytes : Nat := 512 * 1024

abbrev SharedCatalogCache := HashMap String (Option TvSeriesListingPage)

section Cache

-- `serde_json::to_vec(…).len()`.
variable (encodedLength : Json → Nat)

def fitsCache (payload : Option TvSeriesListingPage) : Bool :=
  encodedLength (payloadJson payload) ≤ maxCacheValueBytes

def SharedCatalogCache.get (cache : SharedCatalogCache) (key : String) :
    Option (Option TvSeriesListingPage) :=
  (cache.lookup key).filter (fitsCache encodedLength)

def SharedCatalogCache.put (cache : SharedCatalogCache) (key : String)
    (payload : Option TvSeriesListingPage) : SharedCatalogCache :=
  if fitsCache encodedLength payload then cache.insert key payload else cache

def cachedSharedPayload (cache : SharedCatalogCache) (key : String)
    (compute : Option TvSeriesListingPage) : Option TvSeriesListingPage × SharedCatalogCache :=
  match SharedCatalogCache.get encodedLength cache key with
  | some payload => (payload, cache)
  | none => (compute, SharedCatalogCache.put encodedLength cache key compute)

end Cache

/-! The listing. -/

def overlayUserData (item : Json) (summary : Option TvSeriesPlaybackSummary) : Json :=
  match item.get "UserData" with
  | none => item
  | some userData =>
    let (episodeCount, unplayedCount) :=
      (summary.map fun summary => (summary.episodeCount, summary.unplayedCount)).getD (0, 0)
    let played := 0 < episodeCount && unplayedCount == 0
    item.set "UserData" (((userData.set "Played" (.bool played)).set "UnplayedItemCount"
      (.number unplayedCount)).set "PlayedPercentage" (.float (if played then 0x4059000000000000 else 0)))

def overlayTvSeriesUserData (catalog : TvSeriesCatalog) (virtualFolderId userId : Uuid) :
    List String → List Json → List Json
  | seriesId :: seriesIds, item :: items =>
    overlayUserData item (catalog.playbackSummary virtualFolderId seriesId userId) ::
      overlayTvSeriesUserData catalog virtualFolderId userId seriesIds items
  | _, items => items

def listingResult (catalog : TvSeriesCatalog) (folder userId : Option Uuid)
    (payload : TvSeriesListingPage) : QueryResult Json where
  items :=
    match userId, folder with
    | some userId, some folderId =>
      overlayTvSeriesUserData catalog folderId userId payload.seriesIds payload.items
    | _, _ => payload.items
  totalRecordCount := payload.totalRecordCount
  startIndex := payload.startIndex

section Answers

variable (encodedLength : Json → Nat) (sha256 : List UInt8 → BitVec 256) (catalog : TvSeriesCatalog)

def sharedListing (cache : SharedCatalogCache) (folder : Option Uuid) (query : ItemsQuery) :
    Option TvSeriesListingPage × SharedCatalogCache :=
  cachedSharedPayload encodedLength cache (listingCacheKey sha256 folder query)
    ((catalog.page folder query).map (catalog.sharedPage folder query))

def tvSeriesItemsResult (cache : SharedCatalogCache) (query : ItemsQuery) (userId : Option Uuid) :
    Except Failure (QueryResult Json) × SharedCatalogCache :=
  match listedFolder catalog.folders query with
  | .error panic => (.error (.panicked panic), cache)
  | .ok none => (catalog.groupedResult query userId, cache)
  | .ok (some folder) =>
    match sharedListing encodedLength sha256 catalog cache folder query with
    | (some payload, cache) => (.ok (listingResult catalog folder userId payload), cache)
    | (none, cache) => (catalog.groupedResult query userId, cache)

end Answers

/-! What a request shows, whoever filled the cache. -/

theorem get_remove (value : Json) (field other : String) :
    (value.remove field).get other = if other = field then none else value.get other := by
  cases value with
  | object fields =>
    simp only [Json.remove, Json.get, Json.asObject, Option.bind_some, List.find?_filter]
    split
    · rename_i heq
      rw [List.find?_eq_none.mpr (by simp [heq])]
      rfl
    · rename_i hne
      congr 2
      funext entry
      by_cases hentry : entry.1 = other
      · simp [hentry, hne]
      · simp [hentry]
  | _ => simp [Json.remove, Json.get, Json.asObject]

theorem get_foldl_remove (fields : List String) (value : Json) (field : String) :
    (fields.foldl Json.remove value).get field =
      if field ∈ fields then none else value.get field := by
  induction fields generalizing value with
  | nil => rfl
  | cons first rest ih =>
    rw [List.foldl_cons, ih, get_remove]
    by_cases hrest : field ∈ rest <;> by_cases hfirst : field = first <;> simp [hrest, hfirst]

theorem get_shape (item : Json) (query : ItemsQuery) (field : String) :
    (shapeCatalogItemForQuery item query).get field =
      if field ∈ omittedFields query then none else item.get field :=
  get_foldl_remove (omittedFields query) item field

theorem foldl_remove_object (fields : List String) (entries : List (String × Json)) :
    fields.foldl Json.remove (.object entries) =
      .object (entries.filter fun entry => entry.1 ∉ fields) := by
  induction fields generalizing entries with
  | nil => simp
  | cons first rest ih =>
    rw [List.foldl_cons, Json.remove, ih, List.filter_filter]
    refine congrArg Json.object (List.filter_congr fun entry _ => ?_)
    simp [Bool.and_comm]

theorem shape_congr {item : Json} {query query' : ItemsQuery} (hitem : item.isObject = true)
    (h : ∀ field, (item.get field).isSome = true →
      (field ∈ omittedFields query ↔ field ∈ omittedFields query')) :
    shapeCatalogItemForQuery item query = shapeCatalogItemForQuery item query' := by
  cases item with
  | object entries =>
    rw [shapeCatalogItemForQuery, shapeCatalogItemForQuery, foldl_remove_object,
      foldl_remove_object]
    refine congrArg Json.object (List.filter_congr fun entry hentry => ?_)
    rw [decide_eq_decide, not_iff_not]
    refine h entry.1 ?_
    rw [Json.get, Json.asObject, Option.bind_some, Option.isSome_map, List.find?_isSome]
    exact ⟨entry, hentry, beq_self_eq_true _⟩
  | _ => cases hitem

theorem isObject_of_get {value found : Json} {field : String} (h : value.get field = some found) :
    value.isObject = true := by
  cases value with
  | object entries => rfl
  | _ => cases h

theorem isObject_shape (item : Json) (query : ItemsQuery) (h : item.isObject = true) :
    (shapeCatalogItemForQuery item query).isObject = true := by
  cases item with
  | object entries =>
    rw [shapeCatalogItemForQuery, foldl_remove_object]
    rfl
  | _ => cases h

theorem get_overlayUserData {item : Json} (summary : Option TvSeriesPlaybackSummary)
    {field : String} (h : field ≠ "UserData") :
    (overlayUserData item summary).get field = item.get field := by
  rw [overlayUserData]
  split
  · rfl
  · exact Json.get_set_of_ne _ _ h.symm

theorem isSome_get_overlayUserData {item : Json} (hitem : item.isObject = true)
    (summary : Option TvSeriesPlaybackSummary) (field : String) :
    ((overlayUserData item summary).get field).isSome = (item.get field).isSome := by
  by_cases hfield : field = "UserData"
  · rw [hfield, overlayUserData]
    split
    · rfl
    · rename_i userData hget
      rw [Json.get_set hitem, hget]
      rfl
  · rw [get_overlayUserData summary hfield]

theorem id_notMem_omittedFields (query : ItemsQuery) : "Id" ∉ omittedFields query := by
  have himages : "Id" ∉ imageFields := by decide
  have hoptional : "Id" ∉ optionalFields := by decide
  rw [omittedFields]
  intro h
  rw [List.mem_append, List.mem_append] at h
  obtain (h | h) | h := h
  · split at h
    · exact himages h
    · cases h
  · split at h
    · simp at h
    · cases h
  · split at h
    · cases h
    · exact hoptional (List.mem_of_mem_filter h)

section Listing

variable {catalog : TvSeriesCatalog} {folder userId : Option Uuid} {query query' : ItemsQuery}
  {page page' : TvSeriesCatalogPage}

def TvSeriesCatalog.shownRow (catalog : TvSeriesCatalog) (folder userId : Option Uuid)
    (query : ItemsQuery) (seriesId : String) : Json :=
  let item := shapeCatalogItemForQuery (catalog.row folder seriesId) query
  match userId, folder with
  | some userId, some folderId =>
    overlayUserData item (catalog.playbackSummary folderId seriesId userId)
  | _, _ => item

theorem overlayTvSeriesUserData_map (catalog : TvSeriesCatalog) (folderId userId : Uuid)
    (seriesIds : List String) (f : String → Json) :
    overlayTvSeriesUserData catalog folderId userId seriesIds (seriesIds.map f) =
      seriesIds.map fun seriesId =>
        overlayUserData (f seriesId) (catalog.playbackSummary folderId seriesId userId) := by
  induction seriesIds with
  | nil => rfl
  | cons seriesId rest ih => rw [List.map_cons, overlayTvSeriesUserData, ih, List.map_cons]

theorem listingResult_sharedPage (catalog : TvSeriesCatalog) (folder userId : Option Uuid)
    (query : ItemsQuery) (page : TvSeriesCatalogPage) :
    listingResult catalog folder userId (catalog.sharedPage folder query page) =
      { items := page.seriesIds.map (catalog.shownRow folder userId query)
        totalRecordCount := page.totalRecordCount
        startIndex := page.startIndex } := by
  cases userId with
  | none => rfl
  | some userId =>
    cases folder with
    | none => rfl
    | some folderId =>
      have hitems := overlayTvSeriesUserData_map catalog folderId userId page.seriesIds fun id =>
        shapeCatalogItemForQuery (catalog.row (some folderId) id) query
      rw [listingResult, QueryResult.mk.injEq]
      exact ⟨hitems, rfl, rfl⟩

theorem get_id_shownRow (catalog : TvSeriesCatalog) (folder userId : Option Uuid)
    (query : ItemsQuery) (seriesId : String) :
    (catalog.shownRow folder userId query seriesId).get "Id" = some (.string seriesId) := by
  have hshape : (shapeCatalogItemForQuery (catalog.row folder seriesId) query).get "Id" =
      some (.string seriesId) := by
    rw [get_shape, if_neg (id_notMem_omittedFields query), catalog.row_id]
  cases userId with
  | none => exact hshape
  | some userId =>
    cases folder with
    | none => exact hshape
    | some folderId => exact (get_overlayUserData _ (by decide)).trans hshape

theorem isSome_get_shownRow (catalog : TvSeriesCatalog) (folder userId : Option Uuid)
    (query : ItemsQuery) (seriesId field : String) :
    ((catalog.shownRow folder userId query seriesId).get field).isSome =
      (((catalog.row folder seriesId).get field).isSome && field ∉ omittedFields query) := by
  have hshape : ((shapeCatalogItemForQuery (catalog.row folder seriesId) query).get field).isSome =
      (((catalog.row folder seriesId).get field).isSome && field ∉ omittedFields query) := by
    rw [get_shape]
    split <;> rename_i h <;> simp [h]
  have hobject := isObject_shape _ query (isObject_of_get (catalog.row_id folder seriesId))
  cases userId with
  | none => exact hshape
  | some userId =>
    cases folder with
    | none => exact hshape
    | some folderId => exact (isSome_get_overlayUserData hobject _ field).trans hshape

theorem shownRow_eq_iff {seriesId : String} :
    catalog.shownRow folder userId query seriesId = catalog.shownRow folder userId query' seriesId ↔
      ∀ field, ((catalog.row folder seriesId).get field).isSome = true →
        (field ∈ omittedFields query ↔ field ∈ omittedFields query') := by
  constructor
  · intro h field hfield
    have hsome := isSome_get_shownRow catalog folder userId query seriesId field
    rw [h, isSome_get_shownRow, hfield, Bool.true_and, Bool.true_and, decide_eq_decide,
      not_iff_not] at hsome
    exact hsome.symm
  · intro h
    have hobject := isObject_of_get (catalog.row_id folder seriesId)
    simp only [TvSeriesCatalog.shownRow, shape_congr hobject h]

theorem listingResult_eq_iff :
    listingResult catalog folder userId (catalog.sharedPage folder query page) =
        listingResult catalog folder userId (catalog.sharedPage folder query' page') ↔
      page = page' ∧ ∀ seriesId ∈ page'.seriesIds, ∀ field,
        ((catalog.row folder seriesId).get field).isSome = true →
        (field ∈ omittedFields query ↔ field ∈ omittedFields query') := by
  rw [listingResult_sharedPage, listingResult_sharedPage, QueryResult.mk.injEq]
  constructor
  · rintro ⟨hitems, htotal, hstart⟩
    have hids : page.seriesIds = page'.seriesIds := by
      have hread := congrArg (List.map fun item : Json => item.get "Id") hitems
      rw [List.map_map, List.map_map] at hread
      simp only [Function.comp_def, get_id_shownRow] at hread
      exact List.map_injective_iff.mpr (fun a b hab => by simpa using hab) hread
    refine ⟨?_, fun seriesId hmem => ?_⟩
    · cases page
      cases page'
      rw [TvSeriesCatalogPage.mk.injEq]
      exact ⟨hids, htotal, hstart⟩
    · rw [hids] at hitems
      exact shownRow_eq_iff.mp (List.map_inj_left.mp hitems seriesId hmem)
  · rintro ⟨rfl, h⟩
    have hrows : ∀ seriesId ∈ page.seriesIds, catalog.shownRow folder userId query seriesId =
        catalog.shownRow folder userId query' seriesId :=
      fun seriesId hmem => shownRow_eq_iff.mpr (h seriesId hmem)
    exact ⟨List.map_congr_left hrows, rfl, rfl⟩

end Listing

/-! What the cache keeps. -/

section Cache

variable {encodedLength : Json → Nat} {key key' : String} {payload payload' : Option TvSeriesListingPage}

theorem get_put_empty : SharedCatalogCache.get encodedLength
      (SharedCatalogCache.put encodedLength ∅ key payload) key' =
    if fitsCache encodedLength payload = true ∧ key' = key then some payload else none := by
  rw [SharedCatalogCache.get, SharedCatalogCache.put]
  by_cases hfits : fitsCache encodedLength payload = true
  · rw [if_pos hfits]
    by_cases hkey : key' = key
    · rw [if_pos ⟨hfits, hkey⟩, hkey, AList.lookup_insert, Option.filter_some, if_pos hfits]
    · rw [if_neg (fun h => hkey h.2), AList.lookup_insert_ne hkey, AList.lookup_empty]
      rfl
  · rw [if_neg hfits, if_neg (fun h => hfits h.1), AList.lookup_empty]
    rfl

theorem cachedSharedPayload_empty : cachedSharedPayload encodedLength ∅ key payload =
    (payload, SharedCatalogCache.put encodedLength ∅ key payload) := by
  have hget : SharedCatalogCache.get encodedLength ∅ key = none := by
    rw [SharedCatalogCache.get, AList.lookup_empty]
    rfl
  rw [cachedSharedPayload, hget]

theorem cachedSharedPayload_filled : (cachedSharedPayload encodedLength
      (SharedCatalogCache.put encodedLength ∅ key payload) key' payload').1 =
    if fitsCache encodedLength payload = true ∧ key' = key then payload else payload' := by
  rw [cachedSharedPayload, get_put_empty]
  by_cases h : fitsCache encodedLength payload = true ∧ key' = key
  · rw [if_pos h, if_pos h]
  · rw [if_neg h, if_neg h]

end Cache

section Shared

variable {encodedLength : Json → Nat} {sha256 : List UInt8 → BitVec 256} {catalog : TvSeriesCatalog}
  {query query' : ItemsQuery} {folder folder' : Option Uuid} {page page' : TvSeriesCatalogPage}

theorem tvSeriesItemsResult_of_payload {cache : SharedCatalogCache} {userId : Option Uuid}
    (payload : TvSeriesListingPage)
    (hfolder : listedFolder catalog.folders query = .ok (some folder))
    (hpayload : (sharedListing encodedLength sha256 catalog cache folder query).1 = some payload) :
    tvSeriesItemsResult encodedLength sha256 catalog cache query userId =
      (.ok (listingResult catalog folder userId payload),
        (sharedListing encodedLength sha256 catalog cache folder query).2) := by
  rw [tvSeriesItemsResult, hfolder]
  dsimp only
  generalize sharedListing encodedLength sha256 catalog cache folder query = listing at hpayload
  obtain ⟨found, cache⟩ := listing
  obtain rfl : found = some payload := hpayload
  rfl

theorem tvSeriesItemsResult_empty (userId : Option Uuid)
    (hfolder : listedFolder catalog.folders query = .ok (some folder))
    (hpage : catalog.page folder query = some page) :
    tvSeriesItemsResult encodedLength sha256 catalog ∅ query userId =
      (.ok (listingResult catalog folder userId (catalog.sharedPage folder query page)),
        SharedCatalogCache.put encodedLength ∅ (listingCacheKey sha256 folder query)
          (some (catalog.sharedPage folder query page))) := by
  have hlisting : sharedListing encodedLength sha256 catalog ∅ folder query =
      (some (catalog.sharedPage folder query page),
        SharedCatalogCache.put encodedLength ∅ (listingCacheKey sha256 folder query)
          (some (catalog.sharedPage folder query page))) := by
    rw [sharedListing, hpage, Option.map_some, cachedSharedPayload_empty]
  rw [tvSeriesItemsResult_of_payload (catalog.sharedPage folder query page) hfolder
    (congrArg Prod.fst hlisting), hlisting]

theorem folder_eq_of_listingCacheKey
    (h : listingCacheKey sha256 folder query = listingCacheKey sha256 folder' query') :
    folder = folder' :=
  ((CatalogCache.ListingPage.tvSeriesListingCacheKey_eq_iff sha256).mp h).1

end Shared

def catalogOfOne : TvSeriesCatalog where
  folders := []
  searchPage := fun _ _ _ _ _ => some ⟨["0123456789abcdef0123456789abcdef"], 1, 0⟩
  row := fun _ id => .object [("Id", .string id), ("Overview", .string "A small town.")]
  row_id := fun _ _ => rfl
  playbackSummary := fun _ _ _ => none
  groupedResult := fun _ _ => .ok ⟨[], 0, 0⟩

def sha256OfNoFilter : List UInt8 → BitVec 256 :=
  fun _ => 0xe10cba25c5e6478227ff8ca8f4df849ecb36c8e4f8901729994bf52641016863

mutual

def plainLength : Json → Nat
  | .null => 4
  | .bool value => if value then 4 else 5
  | .number value => (toString value).length
  | .float _ => 0
  | .string value => value.utf8ByteSize + 2
  | .array items => plainItemsLength items + (items.length - 1) + 2
  | .object fields => plainFieldsLength fields + (fields.length - 1) + 2

def plainItemsLength : List Json → Nat
  | [] => 0
  | item :: items => plainLength item + plainItemsLength items

def plainFieldsLength : List (String × Json) → Nat
  | [] => 0
  | (name, value) :: fields => name.utf8ByteSize + 3 + plainLength value + plainFieldsLength fields

end

def allSeries : ItemsQuery := { includeItemTypes := ["Series"] }

def briefSeries : ItemsQuery := { includeItemTypes := ["Series"], fields := some "" }

theorem listedFolder_allSeries : listedFolder [] allSeries = .ok (some none) := by decide

end Jellyrin.Items
