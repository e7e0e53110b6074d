import Jellyrin.Defs.Catalog.Publication
import Jellyrin.Defs.Xtream.Catalogue

/-! The series of a provider: their details are fetched concurrently, and their episodes are staged
as the details arrive. -/

namespace Jellyrin.Xtream

open Ascii Json Text
open Catalog (remoteMediaCatalogStageMaxAppendItems remoteMediaCatalogStageMaxLibraryItems)

def xtreamMaxSeriesRequests : Nat := 100000

inductive XtreamFetchError where
  | invalidInput
  | dns
  | addressNotAllowed
  | client
  | request (timeout connect : Bool)
  | http (status : Nat)
  | bodyTooLarge
  | invalidJson
  | invalidCatalog
  | tooManyItems
  deriving DecidableEq

structure XtreamImportError where
  operation : String
  source : XtreamFetchError
  deriving DecidableEq

structure CategorySelection where
  includeIds : Finset String
  excludeIds : Finset String

def CategorySelection.allows (selection : CategorySelection) (categoryId : Option String) : Bool :=
  if selection.includeIds ≠ ∅ ∧ categoryId.all (· ∉ selection.includeIds) then false
  else !categoryId.any (· ∈ selection.excludeIds)

structure XtreamSeriesStageProgress where
  receivedSeries : Nat
  selectedSeries : Nat
  selectedEpisodes : Nat
  preparedEpisodes : Nat
  seriesIds : Finset String
  itemIds : Finset String
  itemPaths : Finset String
  skippedSeries : Nat
  deduplicatedSeries : Nat
  pendingStageItems : List RemoteMediaItemUpsert
  /-- What was sent to the writer of the stage. -/
  sent : List (List RemoteMediaItemUpsert)
  deriving DecidableEq

namespace XtreamSeriesStageProgress

def default : XtreamSeriesStageProgress := ⟨0, 0, 0, 0, ∅, ∅, ∅, 0, 0, [], []⟩

def skip (progress : XtreamSeriesStageProgress) : XtreamSeriesStageProgress :=
  { progress with skippedSeries := saturatingAdd progress.skippedSeries 1 }

def flush (progress : XtreamSeriesStageProgress) : XtreamSeriesStageProgress :=
  if progress.pendingStageItems = [] then progress
  else
    { progress with
      pendingStageItems := []
      sent := progress.sent ++ [progress.pendingStageItems] }

def keep (progress : XtreamSeriesStageProgress) (items : List RemoteMediaItemUpsert) :
    XtreamSeriesStageProgress :=
  let progress :=
    { progress with
      itemIds := progress.itemIds ∪ (items.map (·.id)).toFinset
      itemPaths := progress.itemPaths ∪ (items.map (·.path)).toFinset
      preparedEpisodes := saturatingAdd progress.preparedEpisodes items.length
      pendingStageItems := progress.pendingStageItems ++ items }
  if remoteMediaCatalogStageMaxAppendItems ≤ progress.pendingStageItems.length then
    progress.flush
  else progress

end XtreamSeriesStageProgress

def uniqueRemoteMediaCatalog (items : List RemoteMediaItemUpsert) : Bool :=
  items.all (fun item => decide (trim item.id ≠ "") && decide (trim item.path ≠ "")) &&
    decide (items.map (·.id)).Nodup && decide (items.map (·.path)).Nodup

abbrev XtreamSeriesDetailOutput := Json × Except XtreamFetchError Json

structure SeriesStage where
  pending : List XtreamSeriesDetailOutput
  joined : Nat
  progress : XtreamSeriesStageProgress

def SeriesStage.default : SeriesStage := ⟨[], 0, .default⟩

/-- `join_next`: of the tasks under way, the order says which one completes. -/
def SeriesStage.joinNext (order : Nat → Nat) (stage : SeriesStage) :
    Option (XtreamSeriesDetailOutput × SeriesStage) :=
  let index := order stage.joined % stage.pending.length
  stage.pending[index]?.map fun detail =>
    (detail, { stage with pending := stage.pending.eraseIdx index, joined := stage.joined + 1 })

structure SeriesImport (Url : Type) where
  crate : UrlCrate Url
  jsonText : Json → String
  baseUrl : Url
  username : String
  password : String
  tunerId : String
  selection : CategorySelection
  expectedCategoryId : Option String
  categories : List Json
  seriesLimit : Option Nat
  episodeLimit : Nat
  detailConcurrency : Nat
  fetchSeriesInfo : String → Except XtreamFetchError Json

namespace SeriesImport

variable {Url : Type} [DecidableEq Url] (client : SeriesImport Url)

def directSourceMatchesReconstructed (value : Json) (reconstructed : Option String) : Bool :=
  match value.fieldCaseInsensitive "direct_source" with
  | none => true
  | some .null => true
  | some (.string text) =>
    if trim text = "" then true
    else
      reconstructed.any fun reconstructed =>
        (client.crate.parse (trim text)).any fun directSource =>
          (client.crate.parse reconstructed).any (directSource = ·)
  | some _ => false

def validXtreamSeriesEpisodeSource (episode : Json) : Bool :=
  match xtreamExtension episode "container_extension" "mp4" with
  | none => false
  | some extension =>
    let reconstructed := (textOrNumberField episode "id").bind fun episodeId =>
      seriesUrl client.crate client.baseUrl client.username client.password episodeId extension
    client.directSourceMatchesReconstructed episode reconstructed &&
      client.directSourceMatchesReconstructed ((episode.get "info").getD episode) reconstructed

def leavesOut (error : XtreamFetchError) : Bool :=
  error = .invalidCatalog || error = .tooManyItems || error = .http 404

def appendFetchedXtreamSeries (detail : XtreamSeriesDetailOutput)
    (progress : XtreamSeriesStageProgress) :
    Except XtreamImportError XtreamSeriesStageProgress :=
  match detail.2 with
  | .error error => if leavesOut error then .ok progress.skip else .error ⟨"series details", error⟩
  | .ok info =>
    let selectedEpisodeCount := min (seriesEpisodeCount info) client.episodeLimit
    let progress :=
      { progress with
        selectedEpisodes := saturatingAdd progress.selectedEpisodes selectedEpisodeCount }
    if remoteMediaCatalogStageMaxLibraryItems <
        saturatingAdd progress.preparedEpisodes selectedEpisodeCount then
      .error ⟨"series details", .tooManyItems⟩
    else if validSeriesEpisodePrefix info selectedEpisodeCount = false ∨
        ((xtreamEpisodeValues info).take selectedEpisodeCount).all
          (fun entry => client.validXtreamSeriesEpisodeSource entry.2) = false then
      .ok progress.skip
    else
      let items := parseSeriesEpisodes client.crate client.jsonText client.tunerId detail.1 info
        client.categories (some selectedEpisodeCount)
      if items.length ≠ selectedEpisodeCount ∨ uniqueRemoteMediaCatalog items = false ∨
          items.any (fun item => item.id ∈ progress.itemIds || item.path ∈ progress.itemPaths) then
        .ok progress.skip
      else .ok (progress.keep items)

def appendNextXtreamSeriesDetail (order : Nat → Nat) (stage : SeriesStage) :
    Except XtreamImportError (Option SeriesStage) :=
  match stage.joinNext order with
  | none => .ok none
  | some (detail, stage) => do
    let progress ← client.appendFetchedXtreamSeries detail stage.progress
    .ok (some { stage with progress })

def selectSeries (seriesItem : Json) (progress : XtreamSeriesStageProgress) :
    Except XtreamImportError (Option String × XtreamSeriesStageProgress) :=
  let progress := { progress with receivedSeries := saturatingAdd progress.receivedSeries 1 }
  let categoryId := itemCategoryId seriesItem
  if client.expectedCategoryId.any (categoryId ≠ some ·) then
    .error ⟨"series catalogue category filter", .invalidCatalog⟩
  else if client.selection.allows categoryId = false then .ok (none, progress)
  else if client.seriesLimit.any (· ≤ progress.selectedSeries) then .ok (none, progress)
  else if xtreamMaxSeriesRequests ≤ progress.selectedSeries then
    .error ⟨"series catalogue", .tooManyItems⟩
  else
    match textOrNumberField seriesItem "series_id" with
    | none => .ok (none, progress.skip)
    | some seriesId =>
      if validXtreamIdentifier seriesId = false then .ok (none, progress.skip)
      else if seriesId ∈ progress.seriesIds then
        .ok (none, { progress with
          deduplicatedSeries := saturatingAdd progress.deduplicatedSeries 1 })
      else
        .ok (some seriesId, { progress with
          seriesIds := insert seriesId progress.seriesIds
          selectedSeries := saturatingAdd progress.selectedSeries 1 })

def appendSeriesItem (order : Nat → Nat) (stage : SeriesStage) (seriesItem : Json) :
    Except XtreamImportError SeriesStage := do
  let (selected, progress) ← client.selectSeries seriesItem stage.progress
  let stage := { stage with progress }
  match selected with
  | none => .ok stage
  | some seriesId =>
    let joined ← if client.detailConcurrency ≤ stage.pending.length then
        client.appendNextXtreamSeriesDetail order stage
      else .ok none
    let stage := joined.getD stage
    .ok { stage with pending := stage.pending ++ [(seriesItem, client.fetchSeriesInfo seriesId)] }

def appendXtreamSeriesChunks (order : Nat → Nat) (chunks : List (List Json))
    (finished : Except XtreamFetchError Nat) (stage : SeriesStage) :
    Except XtreamImportError SeriesStage := do
  let stage ← chunks.foldlM (fun stage chunk => chunk.foldlM (client.appendSeriesItem order) stage)
    stage
  match finished with
  | .error error => .error ⟨"series catalogue", error⟩
  | .ok _ => .ok stage

def joinAll (order : Nat → Nat) : Nat → SeriesStage → Except XtreamImportError SeriesStage
  | 0, stage => .ok stage
  | n + 1, stage => do
    match ← client.appendNextXtreamSeriesDetail order stage with
    | none => .ok stage
    | some stage => joinAll order n stage

def finishXtreamSeriesDetails (order : Nat → Nat) (stage : SeriesStage) :
    Except XtreamImportError SeriesStage := do
  let stage ← client.joinAll order stage.pending.length stage
  .ok { stage with progress := stage.progress.flush }

/-- The series catalogue as it is staged when the tasks complete in this order. -/
def stageSeries (order : Nat → Nat) (chunks : List (List Json))
    (finished : Except XtreamFetchError Nat) :
    Except XtreamImportError XtreamSeriesStageProgress := do
  let stage ← client.appendXtreamSeriesChunks order chunks finished .default
  let stage ← client.finishXtreamSeriesDetails order stage
  .ok stage.progress

end SeriesImport

end Jellyrin.Xtream
