import Jellyrin.Defs.Api.ClientIds
import Jellyrin.Defs.Data.Paging
import Jellyrin.Defs.Items.ItemsQuery

/-! The pages of a folder: its nodes, and then the rows of one of three sources. -/

universe u

namespace Jellyrin.Items

open Ascii ClientIds

def parentBrowseDefaultPageSize : Nat := 100

def shouldIncludeParentVirtualItems (query : ItemsQuery) : Bool :=
  query.parentId.isSome && query.ids.isNone && query.includeItemTypes.isEmpty &&
    query.excludeItemTypes.isEmpty && query.mediaTypes.isEmpty && query.personIds.isEmpty &&
    query.genreIds.isEmpty && query.studioIds.isEmpty && query.filters.isEmpty &&
    query.searchTerm.isNone && query.isFolder.isNone && query.isPlayed.isNone &&
    query.isFavorite.isNone

/-- What the pages of folders are read from.  The rows are rendered already. -/
structure BrowseSources (α : Type u) where
  folders : List VirtualFolder
  /-- `physical_folder_nodes`: the folder and its children. -/
  nodes : VirtualFolder → Vec α
  /-- `tv_series_items_result`. -/
  tvSeriesItemsResult : ItemsQuery → List α × Nat
  /-- `folder_rows_catalog_page`: nothing if the repository cannot express the query. -/
  folderRowsCatalogPage : ItemsQuery → VirtualFolder → Nat → Nat → Option (List α × Nat)
  /-- `filtered_media_items`, sorted by name. -/
  filteredMediaItems : ItemsQuery → List α

variable {α : Type u}

namespace BrowseSources

variable (sources : BrowseSources α)

def browsedFolder (query : ItemsQuery) : Except Panic (Option VirtualFolder) :=
  if !shouldIncludeParentVirtualItems query then .ok none
  else if query.sortOrder.any isDescending then .ok none
  else
    match query.parentId with
    | none => .ok none
    | some parentId =>
      (readUuid parentId).map fun parentId =>
        parentId.bind fun parentId => sources.folders.find? fun folder => folder.id == parentId

def rows (query : ItemsQuery) (folder : VirtualFolder) (sourceStart sourceLimit : Nat) :
    List α × Nat :=
  if folder.isTvLibrary then
    sources.tvSeriesItemsResult
      ({ query with includeItemTypes := ["Series"] }.withPage (some sourceStart) (some sourceLimit))
  else
    match sources.folderRowsCatalogPage query folder sourceStart sourceLimit with
    | some page => page
    | none =>
      (slice sourceStart sourceLimit (sources.filteredMediaItems query),
        (sources.filteredMediaItems query).length)

def folderPage (query : ItemsQuery) (folder : VirtualFolder) (startIndex limit : Nat) :
    Except String (QueryResult α) :=
  let nodes := (sources.nodes folder).items
  let nodeCount := nodes.length
  let pageNodes := slice (min startIndex nodeCount) limit nodes
  match checkedSub limit pageNodes.length with
  | none => .error "attempt to subtract with overflow"
  | some rowsWanted =>
    -- `saturating_sub`
    let sourceStart := startIndex - nodeCount
    -- The source reports the total, also on a page of nodes.
    let sourceLimit := max rowsWanted 1
    let (rows, sourceTotal) := sources.rows query folder sourceStart sourceLimit
    .ok
      { items := pageNodes ++ rows.take rowsWanted
        totalRecordCount := saturatingAdd sourceTotal nodeCount
        startIndex }

def parentBrowseItemsResult (query : ItemsQuery) :
    Except Panic (Except String (Option (QueryResult α))) :=
  (sources.browsedFolder query).map fun folder =>
    match folder with
    | none => .ok none
    | some folder =>
      (sources.folderPage query folder (query.startIndex.getD 0)
        (query.limit.getD parentBrowseDefaultPageSize)).map some

end BrowseSources

/-! The pages tile one sequence. -/

section Tiling

variable {sources : BrowseSources α} {query : ItemsQuery} {folder : VirtualFolder}
  {rows : Vec α} {cap : Nat}

def ReadsFrom (sources : BrowseSources α) (query : ItemsQuery) (folder : VirtualFolder)
    (rows : Vec α) (cap : Nat) : Prop :=
  ∀ startIndex limit,
    Paged (sources.rows (query.withPage startIndex limit) folder) rows.items cap

theorem browsedFolder_withPage (sources : BrowseSources α) (query : ItemsQuery)
    (startIndex limit : Option Nat) :
    sources.browsedFolder (query.withPage startIndex limit) = sources.browsedFolder query := rfl

theorem readsFrom_memory (hfolder : folder.isTvLibrary = false)
    (hcatalog : ∀ startIndex limit, ∀ start size,
      sources.folderRowsCatalogPage (query.withPage startIndex limit) folder start size = none)
    (h : ∀ startIndex limit,
      sources.filteredMediaItems (query.withPage startIndex limit) = rows.items)
    (hcap : rows.items.length ≤ cap) : ReadsFrom sources query folder rows cap := by
  intro startIndex limit sourceStart sourceLimit
  rw [BrowseSources.rows, if_neg (by simp [hfolder]), hcatalog, h]
  exact Prod.ext (slice_eq_slice _ _ _ (by omega)) rfl

theorem folderPage_eq {source : ItemsQuery} (start limit : Nat)
    (h : Paged (sources.rows source folder) rows.items cap) :
    ∃ page, sources.folderPage source folder start limit = .ok page ∧
      page.totalRecordCount = (sources.nodes folder).items.length + rows.items.length ∧
      page.startIndex = start ∧
      page.items <+: ((sources.nodes folder).items ++ rows.items).drop start ∧
      (0 < cap → 0 < limit →
        start < ((sources.nodes folder).items ++ rows.items).length → page.items ≠ []) := by
  have hnodesLength := (sources.nodes folder).length_le
  have hrowsLength := rows.length_le
  rw [BrowseSources.folderPage]
  generalize (sources.nodes folder).items = nodes at hnodesLength ⊢
  have hlength := length_slice nodes (min start nodes.length) limit
  simp only [checkedSub, if_pos (length_slice_le nodes (min start nodes.length) limit), h _ _,
    take_slice]
  refine ⟨_, rfl, ?_, rfl, slice_append_prefix _ _ _ _ (by omega), ?_⟩
  · simp only [saturatingAdd]
    omega
  · intro hcap hlimit hlt hnil
    obtain ⟨hnodesNil, hrowsNil⟩ := List.append_eq_nil_iff.mp hnil
    have hnodes := congrArg List.length hnodesNil
    have hrows := congrArg List.length hrowsNil
    rw [hlength, List.length_nil] at hnodes
    rw [length_slice, hnodesNil, List.length_nil] at hrows
    rw [List.length_append] at hlt
    omega

theorem parentBrowseItemsResult_withPage
    (hfolder : sources.browsedFolder query = .ok (some folder)) (startIndex limit : Option Nat) :
    sources.parentBrowseItemsResult (query.withPage startIndex limit) =
      .ok ((sources.folderPage (query.withPage startIndex limit) folder (startIndex.getD 0)
        (limit.getD parentBrowseDefaultPageSize)).map some) := by
  rw [BrowseSources.parentBrowseItemsResult, browsedFolder_withPage, hfolder]
  rfl

def BrowseSources.browsePage (sources : BrowseSources α) (query : ItemsQuery) (limit : Option Nat)
    (start : Nat) : List α :=
  match sources.parentBrowseItemsResult (query.withPage (some start) limit) with
  | .ok (.ok (some page)) => page.items
  | _ => []

theorem browsePage_eq {limit : Option Nat} {start : Nat} {page : QueryResult α}
    (h : sources.parentBrowseItemsResult (query.withPage (some start) limit) =
      .ok (.ok (some page))) :
    sources.browsePage query limit start = page.items := by
  unfold BrowseSources.browsePage
  simp only [h]

/-- The pages of a folder are windows of its nodes and rows, and page after page a reader gets each
of them once. -/
theorem parent_browse_pages_tile (hfolder : sources.browsedFolder query = .ok (some folder))
    (hcap : 0 < cap) (hrows : ReadsFrom sources query folder rows cap) :
    (∀ startIndex limit, ∃ page,
      sources.parentBrowseItemsResult (query.withPage startIndex limit) = .ok (.ok (some page)) ∧
        page.totalRecordCount = (sources.nodes folder).items.length + rows.items.length ∧
        page.startIndex = startIndex.getD 0) ∧
    ∀ limit, limit ≠ some 0 → ∀ pages,
      readOn (sources.browsePage query limit) pages 0 <+:
          (sources.nodes folder).items ++ rows.items ∧
        ((sources.nodes folder).items.length + rows.items.length ≤ pages →
          readOn (sources.browsePage query limit) pages 0 =
            (sources.nodes folder).items ++ rows.items) := by
  constructor
  · intro startIndex limit
    obtain ⟨page, hpage, htotal, hstart, -⟩ := folderPage_eq (startIndex.getD 0)
      (limit.getD parentBrowseDefaultPageSize) (hrows startIndex limit)
    rw [parentBrowseItemsResult_withPage hfolder, hpage]
    exact ⟨page, rfl, htotal, hstart⟩
  · intro limit hlimit pages
    have hsize : 0 < limit.getD parentBrowseDefaultPageSize := by
      cases limit with
      | none => decide
      | some limit => exact Nat.pos_of_ne_zero fun hzero => hlimit (congrArg some hzero)
    have hpage : ∀ start, sources.browsePage query limit start <+:
          ((sources.nodes folder).items ++ rows.items).drop start ∧
        (start < ((sources.nodes folder).items ++ rows.items).length →
          sources.browsePage query limit start ≠ []) := by
      intro start
      obtain ⟨page, hpage, -, -, hfirst, hne⟩ := folderPage_eq start
        (limit.getD parentBrowseDefaultPageSize) (hrows (some start) limit)
      have hitems : sources.browsePage query limit start = page.items := browsePage_eq <| by
        rw [parentBrowseItemsResult_withPage hfolder, Option.getD_some, hpage]
        rfl
      rw [hitems]
      exact ⟨hfirst, hne hcap hsize⟩
    refine ⟨readOn_isStart (fun start => (hpage start).1) pages 0, fun hpages => ?_⟩
    refine readOn_eq (fun start => (hpage start).1) (fun start => (hpage start).2) ?_
    rw [List.length_append]
    omega

end Tiling

def folderOfThree : BrowseSources Nat where
  folders := [⟨1, "Films", some "movies", []⟩]
  nodes := fun _ => ⟨[10, 11], by decide⟩
  tvSeriesItemsResult := fun _ => ([], 0)
  folderRowsCatalogPage := fun _ _ _ _ => none
  filteredMediaItems := fun _ => [20, 21, 22]

def browseOfThree : ItemsQuery := { parentId := some "00000000000000000000000000000001" }

theorem readsFrom_folderOfThree (folder : VirtualFolder) (hfolder : folder.isTvLibrary = false) :
    ReadsFrom folderOfThree browseOfThree folder ⟨[20, 21, 22], by decide⟩ 3 :=
  readsFrom_memory hfolder (fun _ _ _ _ => rfl) (fun _ _ => rfl) (Nat.le_refl 3)

theorem parent_browse_pages_tile_three :
    readOn (folderOfThree.browsePage browseOfThree (some 2)) 5 0 = [10, 11, 20, 21, 22] :=
  ((parent_browse_pages_tile rfl (Nat.succ_pos 2)
    (readsFrom_folderOfThree ⟨1, "Films", some "movies", []⟩ (by decide))).2
      (some 2) (by decide) 5).2 (Nat.le_refl 5)

end Jellyrin.Items
