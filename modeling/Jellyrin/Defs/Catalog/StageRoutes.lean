import Jellyrin.Defs.Catalog.PublicationLaws

/-! The two routes to a publication: snapshots in one call, and a stage that outlives its calls. -/

namespace Jellyrin.Catalog

open Ascii Json Metadata

variable (fmt : TextFormats)

/-! Folders. -/

def normalizedLocations (locations : List String) : List String :=
  (locations.map trim).foldl (fun normalized location =>
    if location ≠ "" ∧ location ∉ normalized then normalized ++ [location] else normalized) []

def trimmedOptionalStr (value : Option String) : Option String :=
  (value.map trim).filter (· ≠ "")

/-- `INSERT INTO virtual_folders … ON CONFLICT ((lower(name)))`: a folder keeps its own spelling. -/
def upsertVirtualFolder (newId : Uuid) (name collectionType sourceLocation : String)
    (s : Catalogue) : Option (Uuid × Catalogue) :=
  let collectionType := trimmedOptionalStr (some collectionType)
  let locations := normalizedLocations [sourceLocation]
  match s.folders.entries.find? fun entry => fmt.lower entry.2.name = fmt.lower name with
  | some entry =>
    let folder := { entry.2 with collectionType, locations }
    some (entry.1, { s with folders := s.folders.insert entry.1 folder })
  | none =>
    if newId ∈ s.folders then none
    else some (newId, { s with folders := s.folders.insert newId ⟨name, collectionType, locations⟩ })

/-! Snapshots. -/

structure RemoteMediaLibrarySnapshot where
  libraryName : String
  collectionType : String
  sourceLocation : String
  items : List RemoteMediaItemUpsert

structure PreparedRemoteMediaLibrarySnapshot where
  libraryName : String
  collectionType : String
  sourceLocation : String
  items : List PreparedRemoteMediaItem

def RemoteMediaLibrarySnapshot.prepare (snapshot : RemoteMediaLibrarySnapshot) :
    Option PreparedRemoteMediaLibrarySnapshot := do
  let libraryName := trim snapshot.libraryName
  guard (libraryName ≠ "")
  let items ← snapshot.items.mapM RemoteMediaItemUpsert.prepare
  return {
    libraryName
    collectionType := trim snapshot.collectionType
    sourceLocation := trim snapshot.sourceLocation
    items }

def remoteSnapshotInsertChunkSize : Nat := 1000

/-- A chunk is written to the temporary tables, unless one of their keys is there already. -/
def insertSnapshotChunk (stage : StageTables) (chunk : List PreparedRemoteMediaItem) :
    Option StageTables :=
  if StageKeysDistinct (stage.items ++ chunk) ∧
      ∀ item ∈ chunk, ValueKeysDistinct (preparedProjection fmt item) then
    some ⟨stage.items ++ chunk, stage.rows.insert (extractStageRows fmt chunk)⟩
  else none

def SnapshotIsCovered (stage : StageTables) (count : Nat) : Prop :=
  stage.rows.querySources.card = count ∧
    stage.rows.querySources.sum (·.2.projectedValueCount) = stage.rows.queryValues.card ∧
    ∀ source ∈ stage.rows.querySources,
      source.2.projectedValueCount = (stage.rows.queryValues.filter (·.1 = source.1)).card

instance (stage : StageTables) (count : Nat) : Decidable (SnapshotIsCovered stage count) :=
  inferInstanceAs (Decidable (_ ∧ _ ∧ ∀ source ∈ stage.rows.querySources, _))

def stageSnapshot (items : List PreparedRemoteMediaItem) : Option StageTables := do
  let stage ← (chunks remoteSnapshotInsertChunkSize items).foldlM (insertSnapshotChunk fmt)
    ⟨[], StageRows.empty⟩
  guard (SnapshotIsCovered stage items.length)
  return stage

def replaceRemoteMediaLibrarySnapshot (now : Int) (s : Catalogue)
    (entry : Uuid × PreparedRemoteMediaLibrarySnapshot) : Option Catalogue := do
  let (newId, snapshot) := entry
  let (folderId, s) ← upsertVirtualFolder fmt newId snapshot.libraryName snapshot.collectionType
    snapshot.sourceLocation s
  let stage ← stageSnapshot fmt snapshot.items
  publishPreparedRemoteMediaLibraryStage fmt folderId stage now s

/-- All libraries are published in one transaction.  Each snapshot comes with the identifier that
its folder gets when it is a new one. -/
def replaceRemoteMediaLibrarySnapshots (now : Int)
    (snapshots : List (Uuid × RemoteMediaLibrarySnapshot)) (s : Catalogue) : Option Catalogue := do
  let prepared ← snapshots.mapM fun (newId, snapshot) => snapshot.prepare.map (newId, ·)
  guard ((prepared.map fun entry => toAsciiLowercase entry.2.libraryName).Nodup)
  prepared.foldlM (replaceRemoteMediaLibrarySnapshot fmt now) s

/-! Stages that outlive their calls. -/

inductive LibraryKey where
  | movies
  | series
  deriving DecidableEq

def LibraryKey.parse : String → Option LibraryKey
  | "movies" => some .movies
  | "series" => some .series
  | _ => none

structure RemoteMediaLibraryStageSpec where
  key : String
  libraryName : String
  collectionType : String
  sourceLocation : String

structure StageLibrary where
  key : LibraryKey
  libraryName : String
  collectionType : String
  sourceLocation : String
  itemCount : Nat

structure CatalogStage where
  ready : Bool
  libraries : List StageLibrary
  items : List (LibraryKey × PreparedRemoteMediaItem)
  rows : StageRows

structure Store where
  catalogue : Catalogue
  stages : HashMap Uuid CatalogStage

def RemoteMediaLibraryStageSpec.prepare (spec : RemoteMediaLibraryStageSpec) :
    Option StageLibrary := do
  let key ← LibraryKey.parse spec.key
  let libraryName := trim spec.libraryName
  guard (libraryName ≠ "")
  return {
    key
    libraryName
    collectionType := trim spec.collectionType
    sourceLocation := trim spec.sourceLocation
    itemCount := 0 }

def prepareRemoteMediaLibraryStageSpecs (specs : List RemoteMediaLibraryStageSpec) :
    Option (List StageLibrary) := do
  guard (specs.length = 2)
  let prepared ← specs.mapM RemoteMediaLibraryStageSpec.prepare
  guard ((prepared.map (·.key)).Nodup)
  guard ((prepared.map fun library => toAsciiLowercase library.libraryName).Nodup)
  return prepared.filter (·.key = .movies) ++ prepared.filter (·.key = .series)

def beginRemoteMediaCatalogStage (stageId : Uuid) (specs : List RemoteMediaLibraryStageSpec)
    (s : Store) : Option Store := do
  let libraries ← prepareRemoteMediaLibraryStageSpecs specs
  guard (stageId ∉ s.stages)
  guard ((libraries.map fun library => fmt.lower library.libraryName).Nodup)
  return { s with stages := s.stages.insert stageId ⟨false, libraries, [], StageRows.empty⟩ }

def StageLibrary.grow (library : StageLibrary) (count : Nat) : Option StageLibrary :=
  if library.itemCount + count ≤ remoteMediaCatalogStageMaxLibraryItems then
    some { library with itemCount := library.itemCount + count }
  else none

def growLibrary (key : LibraryKey) (count : Nat) (libraries : List StageLibrary) :
    Option (List StageLibrary) := do
  guard (libraries.any (·.key = key))
  libraries.mapM fun library => if library.key = key then library.grow count else some library

def appendRemoteMediaCatalogStage (stageId : Uuid) (libraryKey : String)
    (items : List RemoteMediaItemUpsert) (s : Store) : Option Store := do
  guard (!items.isEmpty && items.length ≤ remoteMediaCatalogStageMaxAppendItems)
  let key ← LibraryKey.parse libraryKey
  let prepared ← items.mapM RemoteMediaItemUpsert.prepare
  let stage ← s.stages.lookup stageId
  guard (!stage.ready)
  let libraries ← growLibrary key prepared.length stage.libraries
  let staged := stage.items ++ prepared.map (key, ·)
  guard (StageKeysDistinct (staged.map Prod.snd))
  guard (∀ item ∈ prepared, ValueKeysDistinct (preparedProjection fmt item))
  let rows := stage.rows.insert (extractStageRows fmt prepared)
  return { s with
    stages := s.stages.insert stageId { stage with libraries, items := staged, rows } }

def completeRemoteMediaCatalogStage (stageId : Uuid) (s : Store) : Option Store := do
  let stage ← s.stages.lookup stageId
  guard (!stage.ready)
  guard (stage.libraries.length = 2)
  guard (∀ library ∈ stage.libraries,
    library.itemCount = (stage.items.filter (·.1 = library.key)).length)
  return { s with stages := s.stages.insert stageId { stage with ready := true } }

def abortRemoteMediaCatalogStage (stageId : Uuid) (s : Store) : Store :=
  { s with stages := s.stages.erase stageId }

section Views

variable {R : Type} [DecidableEq R]

def rowsJoining (items : List PreparedRemoteMediaItem) (table : Finset (Uuid × R)) :
    Finset (Uuid × R) :=
  table.filter fun row => items.any (·.id = row.1)

end Views

def CatalogStage.view (stage : CatalogStage) (key : LibraryKey) : StageTables :=
  let items := (stage.items.filter (·.1 = key)).map Prod.snd
  { items
    rows :=
      { facets := rowsJoining items stage.rows.facets
        facetAliases := rowsJoining items stage.rows.facetAliases
        genreSelectors := rowsJoining items stage.rows.genreSelectors
        filterSelectors := rowsJoining items stage.rows.filterSelectors
        upcomingDates := rowsJoining items stage.rows.upcomingDates
        querySources := rowsJoining items stage.rows.querySources
        queryValues := rowsJoining items stage.rows.queryValues } }

def loadDurableRemoteMediaStageLibrary (stage : CatalogStage) (key : LibraryKey) :
    Option StageTables := do
  let view := stage.view key
  guard (view.items.length = view.rows.querySources.card)
  guard (view.rows.querySources.sum (·.2.projectedValueCount) = view.rows.queryValues.card)
  return view

def publishStageLibrary (now : Int) (stage : CatalogStage) (s : Catalogue)
    (entry : Uuid × StageLibrary) : Option Catalogue := do
  let (newId, library) := entry
  let view ← loadDurableRemoteMediaStageLibrary stage library.key
  guard (view.items.length = library.itemCount)
  let (folderId, s) ← upsertVirtualFolder fmt newId library.libraryName library.collectionType
    library.sourceLocation s
  publishPreparedRemoteMediaLibraryStage fmt folderId view now s

/-- `publish_remote_media_catalog_stage_once`: the identifiers are those of new folders. -/
def publishRemoteMediaCatalogStage (now : Int) (stageId : Uuid) (newIds : Uuid × Uuid)
    (s : Store) : Option Store := do
  let stage ← s.stages.lookup stageId
  guard stage.ready
  let catalogue ← ([newIds.1, newIds.2].zip stage.libraries).foldlM
    (publishStageLibrary fmt now stage) s.catalogue
  return { catalogue, stages := s.stages.erase stageId }

end Jellyrin.Catalog

/-! Both routes stage what the extractors give for the items. -/

namespace Jellyrin.Catalog

open Ascii Json Metadata

variable {fmt : TextFormats} {now : Int}

/-! Snapshots. -/

theorem isExtracted_empty : StageTables.IsExtracted fmt ⟨[], StageRows.empty⟩ :=
  ⟨rfl, List.nodup_nil, List.nodup_nil⟩

theorem isExtracted_insertSnapshotChunk {stage stage' : StageTables}
    {chunk : List PreparedRemoteMediaItem} (h : insertSnapshotChunk fmt stage chunk = some stage')
    (hstage : stage.IsExtracted fmt) :
    stage'.IsExtracted fmt ∧ stage'.items = stage.items ++ chunk := by
  rw [insertSnapshotChunk] at h
  split at h
  · rename_i hkeys
    cases h
    refine ⟨⟨?_, hkeys.1.1, hkeys.1.2⟩, rfl⟩
    rw [hstage.rows]
    exact (extractStageRows_append fmt stage.items chunk).symm
  · cases h

theorem isExtracted_foldlM_insertSnapshotChunk {parts : List (List PreparedRemoteMediaItem)}
    {stage stage' : StageTables}
    (h : parts.foldlM (insertSnapshotChunk fmt) stage = some stage')
    (hstage : stage.IsExtracted fmt) :
    stage'.IsExtracted fmt ∧ stage'.items = stage.items ++ parts.flatten := by
  induction parts generalizing stage with
  | nil =>
    cases h
    exact ⟨hstage, (List.append_nil _).symm⟩
  | cons chunk rest ih =>
    rw [List.foldlM_cons] at h
    obtain ⟨next, hnext, hrest⟩ := Option.bind_eq_some_iff.mp h
    obtain ⟨hextracted, hitems⟩ := isExtracted_insertSnapshotChunk hnext hstage
    obtain ⟨hextracted', hitems'⟩ := ih hrest hextracted
    refine ⟨hextracted', ?_⟩
    rw [hitems', hitems, List.flatten_cons, List.append_assoc]

theorem isExtracted_stageSnapshot {items : List PreparedRemoteMediaItem} {stage : StageTables}
    (h : stageSnapshot fmt items = some stage) : stage.IsExtracted fmt ∧ stage.items = items := by
  obtain ⟨staged, hstaged, h⟩ := Option.bind_eq_some_iff.mp h
  obtain ⟨-, -, h⟩ := Option.bind_eq_some_iff.mp h
  cases h
  obtain ⟨hextracted, hitems⟩ := isExtracted_foldlM_insertSnapshotChunk hstaged isExtracted_empty
  rw [flatten_chunks (by decide), List.nil_append] at hitems
  exact ⟨hextracted, hitems⟩

/-! Stages that outlive their calls. -/

structure CatalogStage.IsExtracted (fmt : TextFormats) (stage : CatalogStage) : Prop where
  rows : stage.rows = extractStageRows fmt (stage.items.map Prod.snd)
  ids : ((stage.items.map Prod.snd).map (·.id)).Nodup
  paths : ((stage.items.map Prod.snd).map (·.path)).Nodup

theorem rowsJoining_rowsOfItems {R : Type} [DecidableEq R] (f : PreparedRemoteMediaItem → Finset R)
    {items part : List PreparedRemoteMediaItem} (hids : (items.map (·.id)).Nodup)
    (hpart : part ⊆ items) : rowsJoining part (rowsOfItems f items) = rowsOfItems f part := by
  ext row
  simp only [rowsJoining, Finset.mem_filter, mem_rowsOfItems, List.any_eq_true, decide_eq_true_eq]
  constructor
  · rintro ⟨⟨item, hitem, hid, hrow⟩, other, hother, hjoin⟩
    rw [eq_of_id_eq hids hitem (hpart hother) (hid.trans hjoin.symm)] at hrow
    exact ⟨other, hother, hjoin, hrow⟩
  · rintro ⟨item, hitem, hid, hrow⟩
    exact ⟨⟨item, hpart hitem, hid, hrow⟩, item, hitem, hid⟩

theorem CatalogStage.IsExtracted.view {stage : CatalogStage} (h : stage.IsExtracted fmt)
    (key : LibraryKey) : (stage.view key).IsExtracted fmt := by
  have hpart : (stage.items.filter (·.1 = key)).map Prod.snd ⊆ stage.items.map Prod.snd :=
    (List.filter_sublist.map _).subset
  have hjoin : ∀ {R : Type} [DecidableEq R] (f : PreparedRemoteMediaItem → Finset R),
      rowsJoining ((stage.items.filter (·.1 = key)).map Prod.snd)
        (rowsOfItems f (stage.items.map Prod.snd)) =
      rowsOfItems f ((stage.items.filter (·.1 = key)).map Prod.snd) :=
    fun f => rowsJoining_rowsOfItems f h.ids hpart
  constructor
  · simp only [CatalogStage.view, h.rows, extractStageRows, hjoin]
  · exact h.ids.sublist ((List.filter_sublist.map _).map _)
  · exact h.paths.sublist ((List.filter_sublist.map _).map _)

theorem isExtracted_load {stage : CatalogStage} {key : LibraryKey} {view : StageTables}
    (h : loadDurableRemoteMediaStageLibrary stage key = some view)
    (hstage : stage.IsExtracted fmt) : view.IsExtracted fmt ∧ view = stage.view key := by
  obtain ⟨-, -, h⟩ := Option.bind_eq_some_iff.mp h
  obtain ⟨-, -, h⟩ := Option.bind_eq_some_iff.mp h
  cases h
  exact ⟨hstage.view key, rfl⟩

def Store.StagesAreExtracted (fmt : TextFormats) (s : Store) : Prop :=
  ∀ id stage, s.stages.lookup id = some stage → stage.IsExtracted fmt

variable {s s' : Store} {stageId : Uuid}

theorem stagesAreExtracted_insert {stage : CatalogStage} (hs : s.StagesAreExtracted fmt)
    (hstage : stage.IsExtracted fmt) :
    Store.StagesAreExtracted fmt { s with stages := s.stages.insert stageId stage } := by
  intro id other hother
  obtain ⟨rfl, rfl⟩ | ⟨-, hother⟩ := HashMap.lookup_insert_eq_some.mp hother
  · exact hstage
  · exact hs id other hother

/-! Staging leaves the catalogue alone. -/

theorem beginRemoteMediaCatalogStage_spec {specs : List RemoteMediaLibraryStageSpec}
    (h : beginRemoteMediaCatalogStage fmt stageId specs s = some s')
    (hs : s.StagesAreExtracted fmt) :
    s'.catalogue = s.catalogue ∧ s'.StagesAreExtracted fmt := by
  obtain ⟨libraries, -, h⟩ := Option.bind_eq_some_iff.mp h
  obtain ⟨-, -, h⟩ := Option.bind_eq_some_iff.mp h
  obtain ⟨-, -, h⟩ := Option.bind_eq_some_iff.mp h
  cases h
  exact ⟨rfl, stagesAreExtracted_insert hs ⟨rfl, List.nodup_nil, List.nodup_nil⟩⟩

theorem appendRemoteMediaCatalogStage_spec {libraryKey : String}
    {items : List RemoteMediaItemUpsert}
    (h : appendRemoteMediaCatalogStage fmt stageId libraryKey items s = some s')
    (hs : s.StagesAreExtracted fmt) :
    s'.catalogue = s.catalogue ∧ s'.StagesAreExtracted fmt := by
  obtain ⟨-, -, h⟩ := Option.bind_eq_some_iff.mp h
  obtain ⟨key, -, h⟩ := Option.bind_eq_some_iff.mp h
  obtain ⟨prepared, -, h⟩ := Option.bind_eq_some_iff.mp h
  obtain ⟨stage, hstage, h⟩ := Option.bind_eq_some_iff.mp h
  obtain ⟨-, -, h⟩ := Option.bind_eq_some_iff.mp h
  obtain ⟨libraries, -, h⟩ := Option.bind_eq_some_iff.mp h
  obtain ⟨_, hkeys, h⟩ := Option.bind_eq_some_iff.mp h
  obtain ⟨-, -, h⟩ := Option.bind_eq_some_iff.mp h
  cases h
  have hkeys := (Option.guard_eq_some' _).mp hkeys
  refine ⟨rfl, stagesAreExtracted_insert hs ⟨?_, hkeys.1, hkeys.2⟩⟩
  have hsnd : (prepared.map (key, ·)).map Prod.snd = prepared := by
    rw [List.map_map]
    exact List.map_id prepared
  rw [(hs stageId stage hstage).rows, List.map_append, hsnd]
  exact (extractStageRows_append fmt _ prepared).symm

theorem completeRemoteMediaCatalogStage_spec
    (h : completeRemoteMediaCatalogStage stageId s = some s')
    (hs : s.StagesAreExtracted fmt) :
    s'.catalogue = s.catalogue ∧ s'.StagesAreExtracted fmt := by
  obtain ⟨stage, hstage, h⟩ := Option.bind_eq_some_iff.mp h
  obtain ⟨-, -, h⟩ := Option.bind_eq_some_iff.mp h
  obtain ⟨-, -, h⟩ := Option.bind_eq_some_iff.mp h
  obtain ⟨-, -, h⟩ := Option.bind_eq_some_iff.mp h
  cases h
  have hextracted := hs stageId stage hstage
  exact ⟨rfl, stagesAreExtracted_insert hs ⟨hextracted.rows, hextracted.ids, hextracted.paths⟩⟩

theorem stagesAreExtracted_erase (hs : s.StagesAreExtracted fmt) (catalogue : Catalogue) :
    Store.StagesAreExtracted fmt ⟨catalogue, s.stages.erase stageId⟩ := by
  intro id stage hstage
  exact hs id stage (HashMap.lookup_erase_eq_some.mp hstage).2

end Jellyrin.Catalog
