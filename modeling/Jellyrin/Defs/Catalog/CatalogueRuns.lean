import Jellyrin.Defs.Catalog.StageRoutes
import Jellyrin.Defs.Transition.Machine

/-! The transactions that write the catalogue, one after the other in any order. -/

namespace Jellyrin.Catalog

open Ascii Json Metadata Transition

variable (fmt : TextFormats)

inductive Action where
  | replaceSnapshots (now : Int) (snapshots : List (Uuid × RemoteMediaLibrarySnapshot))
  | beginStage (stageId : Uuid) (specs : List RemoteMediaLibraryStageSpec)
  | appendStage (stageId : Uuid) (libraryKey : String) (items : List RemoteMediaItemUpsert)
  | completeStage (stageId : Uuid)
  | abortStage (stageId : Uuid)
  | publishStage (now : Int) (stageId : Uuid) (newIds : Uuid × Uuid)
  | updateMetadata (id : Uuid) (metadata : Json)
  | updateMediaInfo (id : Uuid) (info : MediaInfo)
  | updateMediaInfoAndMetadata (id : Uuid) (info : MediaInfo) (metadata : Json)
  | publishRuntimeProbe (id : Uuid) (candidateRuntimeTicks : Option Int) (marker : Json)
  | upsertLocal (id folderId : Uuid) (folder : VirtualFolder) (file : LocalMediaFile)
      (current : Json)

def Store.writeCatalogue (s : Store) (write : Catalogue → Option Catalogue) : Option Store :=
  (write s.catalogue).map fun catalogue => { s with catalogue }

def step (s : Store) : Action → Option Store
  | .replaceSnapshots now snapshots =>
    s.writeCatalogue (replaceRemoteMediaLibrarySnapshots fmt now snapshots)
  | .beginStage stageId specs => beginRemoteMediaCatalogStage fmt stageId specs s
  | .appendStage stageId libraryKey items => appendRemoteMediaCatalogStage fmt stageId libraryKey items s
  | .completeStage stageId => completeRemoteMediaCatalogStage stageId s
  | .abortStage stageId => some (abortRemoteMediaCatalogStage stageId s)
  | .publishStage now stageId newIds => publishRemoteMediaCatalogStage fmt now stageId newIds s
  | .updateMetadata id metadata => s.writeCatalogue (updateMediaItemMetadata fmt id metadata)
  | .updateMediaInfo id info => s.writeCatalogue (updateMediaItemMediaInfo fmt id info)
  | .updateMediaInfoAndMetadata id info metadata =>
    s.writeCatalogue (updateMediaItemMediaInfoAndMetadata fmt id info metadata)
  | .publishRuntimeProbe id ticks marker =>
    s.writeCatalogue (publishPluginVodRuntimeProbe id ticks marker)
  | .upsertLocal id folderId folder file current =>
    s.writeCatalogue (postgresUpsertLocalMediaItem fmt id folderId folder file current)

def machine (folders : HashMap Uuid VirtualFolder) : Machine Store Action where
  init := ⟨{ Catalogue.empty with folders }, ∅⟩
  step := step fmt

/-! Every item keeps the rows that are derived from it. -/

def SnapshotMergesAlike (s : Catalogue) (entry : Uuid × PreparedRemoteMediaLibrarySnapshot) : Prop :=
  ItemsMergeAlike fmt entry.2.items s

def LibraryMergesAlike (stage : CatalogStage) (s : Catalogue) (entry : Uuid × StageLibrary) : Prop :=
  ItemsMergeAlike fmt (stage.view entry.2.key).items s

/-- What a transaction writes reads like it was written, or the extractors give the same rows. -/
def WritesAlike (s : Store) : Action → Prop
  | .replaceSnapshots now snapshots =>
    ∀ prepared, (snapshots.mapM fun (newId, snapshot) => snapshot.prepare.map (newId, ·)) =
        some prepared →
      EachPass (replaceRemoteMediaLibrarySnapshot fmt now) (SnapshotMergesAlike fmt) s.catalogue
        prepared
  | .publishStage now stageId newIds =>
    ∀ stage, s.stages.lookup stageId = some stage →
      EachPass (publishStageLibrary fmt now stage) (LibraryMergesAlike fmt stage) s.catalogue
        ([newIds.1, newIds.2].zip stage.libraries)
  | .updateMetadata id metadata => UpdatesAlike fmt id metadata s.catalogue
  | .updateMediaInfoAndMetadata id _ metadata => UpdatesAlike fmt id metadata s.catalogue
  | .upsertLocal _ folderId folder file current => ScansAlike fmt folderId folder file current
  | _ => True

variable {fmt} {s s' : Catalogue} {now : Int}

theorem items_upsertVirtualFolder {newId folderId : Uuid} {name collectionType location : String}
    (h : upsertVirtualFolder fmt newId name collectionType location s = some (folderId, s')) :
    s'.items = s.items ∧ s'.derived = s.derived := by
  simp only [upsertVirtualFolder] at h
  split at h
  · cases h
    exact ⟨rfl, rfl⟩
  · split at h
    · cases h
    · cases h
      exact ⟨rfl, rfl⟩

theorem isDerived_upsertVirtualFolder {newId folderId : Uuid}
    {name collectionType location : String}
    (h : upsertVirtualFolder fmt newId name collectionType location s = some (folderId, s'))
    (hs : s.IsDerived fmt) : s'.IsDerived fmt := by
  obtain ⟨hitems, hderived⟩ := items_upsertVirtualFolder h
  intro id item hitem
  rw [hitems] at hitem
  rw [hderived]
  exact hs id item hitem

theorem itemsMergeAlike_upsertVirtualFolder {newId folderId : Uuid}
    {name collectionType location : String} {items : List PreparedRemoteMediaItem}
    (h : upsertVirtualFolder fmt newId name collectionType location s = some (folderId, s'))
    (hs : ItemsMergeAlike fmt items s) : ItemsMergeAlike fmt items s' := by
  intro item hitem
  rw [(items_upsertVirtualFolder h).1]
  exact hs item hitem

theorem isDerived_replaceSnapshot {entry : Uuid × PreparedRemoteMediaLibrarySnapshot}
    (hs : s.IsDerived fmt) (hmerge : SnapshotMergesAlike fmt s entry)
    (h : replaceRemoteMediaLibrarySnapshot fmt now s entry = some s') : s'.IsDerived fmt := by
  obtain ⟨⟨folderId, next⟩, hfolder, h⟩ := Option.bind_eq_some_iff.mp h
  obtain ⟨stage, hstage, h⟩ := Option.bind_eq_some_iff.mp h
  obtain ⟨hextracted, hitems⟩ := isExtracted_stageSnapshot hstage
  have hpublished := published_of_publish hextracted.ids h
  refine hpublished.isDerived hextracted (isDerived_upsertVirtualFolder hfolder hs) ?_
  rw [hitems]
  exact itemsMergeAlike_upsertVirtualFolder hfolder hmerge

theorem isDerived_publishStageLibrary {stage : CatalogStage} {entry : Uuid × StageLibrary}
    (hstage : stage.IsExtracted fmt) (hs : s.IsDerived fmt)
    (hmerge : LibraryMergesAlike fmt stage s entry)
    (h : publishStageLibrary fmt now stage s entry = some s') : s'.IsDerived fmt := by
  obtain ⟨view, hview, h⟩ := Option.bind_eq_some_iff.mp h
  obtain ⟨-, -, h⟩ := Option.bind_eq_some_iff.mp h
  obtain ⟨⟨folderId, next⟩, hfolder, h⟩ := Option.bind_eq_some_iff.mp h
  obtain ⟨hextracted, rfl⟩ := isExtracted_load hview hstage
  have hpublished := published_of_publish hextracted.ids h
  exact hpublished.isDerived hextracted (isDerived_upsertVirtualFolder hfolder hs)
    (itemsMergeAlike_upsertVirtualFolder hfolder hmerge)

structure Kept (fmt : TextFormats) (s : Store) : Prop where
  derived : s.catalogue.IsDerived fmt
  stages : s.StagesAreExtracted fmt

theorem Kept.writeCatalogue {s s' : Store} {write : Catalogue → Option Catalogue} (hs : Kept fmt s)
    (h : s.writeCatalogue write = some s')
    (hwrite : ∀ catalogue, write s.catalogue = some catalogue → catalogue.IsDerived fmt) :
    Kept fmt s' := by
  obtain ⟨catalogue, hcatalogue, rfl⟩ := Option.map_eq_some_iff.mp h
  exact ⟨hwrite catalogue hcatalogue, hs.stages⟩

theorem Kept.step {s s' : Store} {action : Action} (hs : Kept fmt s)
    (halike : WritesAlike fmt s action) (h : Catalog.step fmt s action = some s') :
    Kept fmt s' := by
  cases action with
  | replaceSnapshots now snapshots =>
    refine hs.writeCatalogue h fun catalogue hwrite => ?_
    obtain ⟨prepared, hprepared, hwrite⟩ := Option.bind_eq_some_iff.mp hwrite
    obtain ⟨-, -, hwrite⟩ := Option.bind_eq_some_iff.mp hwrite
    exact EachPass.invariant (fun _ _ _ => isDerived_replaceSnapshot) hwrite
      (halike prepared hprepared) hs.derived
  | publishStage now stageId newIds =>
    obtain ⟨stage, hstage, h⟩ := Option.bind_eq_some_iff.mp h
    obtain ⟨-, -, h⟩ := Option.bind_eq_some_iff.mp h
    obtain ⟨catalogue, hcatalogue, h⟩ := Option.bind_eq_some_iff.mp h
    cases h
    refine ⟨?_, stagesAreExtracted_erase hs.stages catalogue⟩
    exact EachPass.invariant
      (fun _ _ _ => isDerived_publishStageLibrary (hs.stages stageId stage hstage)) hcatalogue
      (halike stage hstage) hs.derived
  | beginStage stageId specs =>
    obtain ⟨hcatalogue, hstages⟩ := beginRemoteMediaCatalogStage_spec h hs.stages
    exact ⟨hcatalogue ▸ hs.derived, hstages⟩
  | appendStage stageId libraryKey items =>
    obtain ⟨hcatalogue, hstages⟩ := appendRemoteMediaCatalogStage_spec h hs.stages
    exact ⟨hcatalogue ▸ hs.derived, hstages⟩
  | completeStage stageId =>
    obtain ⟨hcatalogue, hstages⟩ := completeRemoteMediaCatalogStage_spec h hs.stages
    exact ⟨hcatalogue ▸ hs.derived, hstages⟩
  | abortStage stageId =>
    cases h
    exact ⟨hs.derived, stagesAreExtracted_erase hs.stages _⟩
  | updateMetadata id metadata =>
    exact hs.writeCatalogue h fun _ => isDerived_updateMediaItemMetadata hs.derived halike
  | updateMediaInfo id info =>
    exact hs.writeCatalogue h fun _ => isDerived_updateMediaItemMediaInfo hs.derived
  | updateMediaInfoAndMetadata id info metadata =>
    exact hs.writeCatalogue h fun _ => isDerived_updateMediaItemMediaInfoAndMetadata hs.derived halike
  | publishRuntimeProbe id ticks marker =>
    exact hs.writeCatalogue h fun _ => isDerived_publishPluginVodRuntimeProbe hs.derived
  | upsertLocal id folderId folder file current =>
    exact hs.writeCatalogue h fun _ => isDerived_postgresUpsertLocalMediaItem hs.derived halike

/-- In every run whose transactions write alike, every item has the rows that are derived from it. -/
theorem derived_rows_match_of_reaches {folders : HashMap Uuid VirtualFolder} {s : Store}
    (h : (machine fmt folders).Reaches (WritesAlike fmt) s) {id : Uuid} {item : MediaItemRow}
    (hitem : s.catalogue.items.lookup id = some item) :
    IsDerivedFrom fmt (s.catalogue.derived id) item := by
  have hinit : Kept fmt (machine fmt folders).init :=
    ⟨(fun _ _ hitem => nomatch hitem), (fun _ _ hstage => nomatch hstage)⟩
  have hkept : Kept fmt s :=
    Machine.Steps.invariant (fun s action t hs halike hstep => hs.step halike hstep) h hinit
  exact hkept.derived id item hitem

def plainFormats : TextFormats where
  floatText _ := ""
  parseRfc3339 _ := none
  lower := toAsciiLowercase
  wholeFloat _ := none
  storedFloat bits := .inr bits

def filmSnapshot (metadata : Json) : RemoteMediaLibrarySnapshot where
  libraryName := "Films"
  collectionType := "movies"
  sourceLocation := "provider:films"
  items := [{
    id := "00000000000000000000000000000001"
    name := "Film"
    path := "provider:films/1.mkv"
    mediaType := "Video"
    collectionType := "movies"
    info := ⟨none, none, none, none, []⟩
    metadata }]

def publishFilm (metadata : Json) : Action := .replaceSnapshots 0 [(7, filmSnapshot metadata)]

theorem mapM_singleton_eq_some {α β : Type} {f : α → Option β} {a : α} {bs : List β}
    (h : [a].mapM f = some bs) : ∃ b, f a = some b ∧ bs = [b] := by
  rw [List.mapM_cons, List.mapM_nil] at h
  obtain ⟨b, hb, h⟩ := Option.bind_eq_some_iff.mp h
  cases h
  exact ⟨b, hb, rfl⟩

theorem stored_plainFormats (value : Json) : plainFormats.stored value = value :=
  mapFloats_float value

theorem rowStored_plainFormats (row : MediaItemRow) : row.stored plainFormats = row := by
  have hstreams : row.mediaStreams.map plainFormats.stored = row.mediaStreams :=
    List.map_id'' stored_plainFormats row.mediaStreams
  rw [MediaItemRow.stored, hstreams, stored_plainFormats]

theorem writesAlike_publishFilm_init (metadata : Json) :
    WritesAlike plainFormats (machine plainFormats ∅).init (publishFilm metadata) := by
  intro prepared hprepared
  obtain ⟨entry, -, rfl⟩ := mapM_singleton_eq_some hprepared
  refine ⟨fun item _ folderId _ => ?_, fun _ _ => trivial⟩
  exact congrArg (extractedRows plainFormats) (rowStored_plainFormats _).symm

theorem writesAlike_updateMetadata (s : Store) (id : Uuid) (metadata : Json) :
    WritesAlike plainFormats s (.updateMetadata id metadata) := by
  intro old _ _
  rw [KeepsFacetRows, stored_plainFormats]
  exact hasFacetRows_replace metadata

theorem derived_rows_match_after_update :
    ∃ s, (machine plainFormats ∅).Reaches (WritesAlike plainFormats) s ∧
      ∃ item, s.catalogue.items.lookup 1 = some item ∧
        item.metadata = .object [("Years", .array [.number 2025])] ∧
        IsDerivedFrom plainFormats (s.catalogue.derived 1) item := by
  have hrun : ((machine plainFormats ∅).step (machine plainFormats ∅).init
      (publishFilm (.object [("Years", .array [.number 2024])]))).any (fun s =>
        ((machine plainFormats ∅).step s
          (.updateMetadata 1 (.object [("Years", .array [.number 2025])]))).any fun t =>
            (t.catalogue.items.lookup 1).any fun item =>
              decide (item.metadata = .object [("Years", .array [.number 2025])])) = true := by
    decide +kernel
  obtain ⟨s, hs, hrun⟩ := (Option.any_eq_true _ _).mp hrun
  obtain ⟨t, ht, hrun⟩ := (Option.any_eq_true _ _).mp hrun
  obtain ⟨item, hitem, hmetadata⟩ := (Option.any_eq_true _ _).mp hrun
  have hreach : (machine plainFormats ∅).Reaches (WritesAlike plainFormats) t :=
    (Machine.Reaches.init.tail (writesAlike_publishFilm_init _) hs).tail
      (writesAlike_updateMetadata s _ _) ht
  exact ⟨t, hreach, item, hitem, of_decide_eq_true hmetadata,
    derived_rows_match_of_reaches hreach hitem⟩

def completeFilm : Json :=
  .object [("XtreamKind", .string "vod"),
    ("XtreamVodInfo", .object [("Status", .string "Complete")]),
    ("Years", .array [.number 2024])]

def listedFilm : Json := .object [("XtreamKind", .string "vod")]

theorem republished_film_keeps_years_without_rows :
    ¬∀ s, (machine plainFormats ∅).Reachable s → ∀ id item,
      s.catalogue.items.lookup id = some item → item.missingSince = none →
        IsDerivedFrom plainFormats (s.catalogue.derived id) item := by
  intro hclaim
  have hrun : ((machine plainFormats ∅).run [publishFilm completeFilm, publishFilm listedFilm]
      (machine plainFormats ∅).init).any (fun s =>
        (s.catalogue.items.lookup 1).any fun item =>
          item.missingSince = none ∧ (s.catalogue.derived 1).querySources ≠ ∅ ∧
            (s.catalogue.derived 1).queryValues ≠
              queryValueRows (mediaItemProjection plainFormats item) item.virtualFolderId) = true := by
    decide +kernel
  obtain ⟨s, hs, hrun⟩ := (Option.any_eq_true _ _).mp hrun
  obtain ⟨item, hitem, hrun⟩ := (Option.any_eq_true _ _).mp hrun
  obtain ⟨hvisible, hsources, hvalues⟩ := of_decide_eq_true hrun
  have hderived := hclaim s (Machine.reachable_of_run _ hs) 1 item hitem hvisible
  obtain hnone | hsame := hderived.queryRows
  · exact hsources hnone.1
  · exact hvalues hsame.2

end Jellyrin.Catalog
