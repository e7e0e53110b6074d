import Jellyrin.Defs.Xtream.LiveImportLaws
import Jellyrin.Defs.Xtream.SeriesStage

/-! What the order in which the details of the series arrive decides. -/

namespace Jellyrin.Xtream

open Catalog (remoteMediaCatalogStageMaxLibraryItems)

theorem saturatingAdd_assoc (a b c : Nat) :
    saturatingAdd (saturatingAdd a b) c = saturatingAdd a (saturatingAdd b c) := by
  simp only [saturatingAdd]
  omega

theorem saturatingAdd_min (a b : Nat) :
    saturatingAdd (min a (2 ^ 64 - 1)) b = min (a + b) (2 ^ 64 - 1) := by
  simp only [saturatingAdd]
  omega

theorem saturatingAdd_right_comm (a b c : Nat) :
    saturatingAdd (saturatingAdd a b) c = saturatingAdd (saturatingAdd a c) b := by
  simp only [saturatingAdd]
  omega

namespace XtreamSeriesStageProgress

def plus (selected joined : XtreamSeriesStageProgress) : XtreamSeriesStageProgress :=
  { joined with
    receivedSeries := selected.receivedSeries
    selectedSeries := selected.selectedSeries
    seriesIds := selected.seriesIds
    skippedSeries := saturatingAdd selected.skippedSeries joined.skippedSeries
    deduplicatedSeries := selected.deduplicatedSeries }

def received (progress : XtreamSeriesStageProgress) : XtreamSeriesStageProgress :=
  { progress with receivedSeries := saturatingAdd progress.receivedSeries 1 }

def counted (progress : XtreamSeriesStageProgress) (n : Nat) : XtreamSeriesStageProgress :=
  { progress with selectedEpisodes := saturatingAdd progress.selectedEpisodes n }

theorem skip_plus (selected joined : XtreamSeriesStageProgress) :
    (selected.plus joined).skip = selected.skip.plus joined := by
  simp [skip, plus, saturatingAdd_right_comm]

theorem plus_skip (selected joined : XtreamSeriesStageProgress) :
    (selected.plus joined).skip = selected.plus joined.skip := by
  simp [skip, plus, saturatingAdd_assoc]

theorem plus_flush (selected joined : XtreamSeriesStageProgress) :
    (selected.plus joined).flush = selected.plus joined.flush := by
  have hpending : (selected.plus joined).pendingStageItems = joined.pendingStageItems := rfl
  rw [flush, flush, hpending, apply_ite selected.plus]
  rfl

theorem plus_keep (selected joined : XtreamSeriesStageProgress)
    (items : List RemoteMediaItemUpsert) :
    (selected.plus joined).keep items = selected.plus (joined.keep items) := by
  have hpending : (selected.plus joined).pendingStageItems = joined.pendingStageItems := rfl
  simp only [keep, hpending]
  split
  · rw [← plus_flush]
    rfl
  · rfl

theorem flush_eq (progress : XtreamSeriesStageProgress) :
    progress.flush = { progress with
      pendingStageItems := progress.flush.pendingStageItems
      sent := progress.flush.sent } := by
  rw [flush]
  split
  · rfl
  · rfl

theorem staged_flush (progress : XtreamSeriesStageProgress) :
    progress.flush.sent.flatten ++ progress.flush.pendingStageItems =
      progress.sent.flatten ++ progress.pendingStageItems := by
  rw [flush]
  split
  · rfl
  · simp

theorem pendingStageItems_flush (progress : XtreamSeriesStageProgress) :
    progress.flush.pendingStageItems = [] := by
  rw [flush]
  split
  · assumption
  · rfl

theorem keep_eq (progress : XtreamSeriesStageProgress) (items : List RemoteMediaItemUpsert) :
    progress.keep items = { progress with
      itemIds := progress.itemIds ∪ (items.map (·.id)).toFinset
      itemPaths := progress.itemPaths ∪ (items.map (·.path)).toFinset
      preparedEpisodes := saturatingAdd progress.preparedEpisodes items.length
      pendingStageItems := (progress.keep items).pendingStageItems
      sent := (progress.keep items).sent } := by
  rw [keep]
  split
  · exact flush_eq _
  · rfl

theorem staged_keep (progress : XtreamSeriesStageProgress) (items : List RemoteMediaItemUpsert) :
    (progress.keep items).sent.flatten ++ (progress.keep items).pendingStageItems =
      progress.sent.flatten ++ progress.pendingStageItems ++ items := by
  rw [keep]
  split
  · rw [staged_flush]
    exact (List.append_assoc _ _ _).symm
  · exact (List.append_assoc _ _ _).symm

end XtreamSeriesStageProgress

namespace SeriesImport

variable {Url : Type} [DecidableEq Url] (client : SeriesImport Url)

open XtreamSeriesStageProgress

omit [DecidableEq Url] in
theorem selectSeries_plus (seriesItem : Json) (selected joined : XtreamSeriesStageProgress) :
    client.selectSeries seriesItem (selected.plus joined) =
      (client.selectSeries seriesItem selected).map fun result =>
        (result.1, result.2.plus joined) := by
  have hids : (selected.plus joined).seriesIds = selected.seriesIds := rfl
  have hselected : (selected.plus joined).selectedSeries = selected.selectedSeries := rfl
  rw [selectSeries, selectSeries]
  simp only [hids, hselected]
  cases textOrNumberField seriesItem "series_id" with
  | none =>
    split_ifs
    · rfl
    · rfl
    · rfl
    · rfl
    · exact congrArg (fun progress => Except.ok (none, progress)) (skip_plus (received selected) joined)
  | some seriesId =>
    simp only
    split_ifs
    · rfl
    · rfl
    · rfl
    · rfl
    · exact congrArg (fun progress => Except.ok (none, progress)) (skip_plus (received selected) joined)
    · rfl
    · rfl

def selectedEpisodeCount (detail : XtreamSeriesDetailOutput) : Nat :=
  match detail.2 with
  | .error _ => 0
  | .ok info => min (seriesEpisodeCount info) client.episodeLimit

def ownItems (detail : XtreamSeriesDetailOutput) : Option (List RemoteMediaItemUpsert) :=
  match detail.2 with
  | .error _ => none
  | .ok info =>
    let count := min (seriesEpisodeCount info) client.episodeLimit
    let items := parseSeriesEpisodes client.crate client.jsonText client.tunerId detail.1 info
      client.categories (some count)
    if validSeriesEpisodePrefix info count = false ∨
        ((xtreamEpisodeValues info).take count).all
          (fun entry => client.validXtreamSeriesEpisodeSource entry.2) = false then none
    else if items.length ≠ count ∨ uniqueRemoteMediaCatalog items = false then none
    else some items

def Fatal (detail : XtreamSeriesDetailOutput) : Prop :=
  ∃ error, detail.2 = .error error ∧ leavesOut error = false

def taken (progress : XtreamSeriesStageProgress) (items : List RemoteMediaItemUpsert) : Bool :=
  items.any fun item => item.id ∈ progress.itemIds || item.path ∈ progress.itemPaths

def settle (progress : XtreamSeriesStageProgress) :
    Option (List RemoteMediaItemUpsert) → XtreamSeriesStageProgress
  | none => progress.skip
  | some items => if taken progress items then progress.skip else progress.keep items

theorem appendFetchedXtreamSeries_eq (detail : XtreamSeriesDetailOutput)
    (progress : XtreamSeriesStageProgress) {info : Json} (h : detail.2 = .ok info) :
    client.appendFetchedXtreamSeries detail progress =
      if remoteMediaCatalogStageMaxLibraryItems <
          saturatingAdd progress.preparedEpisodes (client.selectedEpisodeCount detail) then
        .error ⟨"series details", .tooManyItems⟩
      else .ok (settle (progress.counted (client.selectedEpisodeCount detail))
        (client.ownItems detail)) := by
  simp only [appendFetchedXtreamSeries, selectedEpisodeCount, ownItems, h]
  refine ite_congr rfl (fun _ => rfl) fun _ => ?_
  split_ifs with hsource hitems hown hown
  · rfl
  · rfl
  · obtain hlength | hunique | htaken := hitems
    · exact absurd (.inl hlength) hown
    · exact absurd (.inr hunique) hown
    · exact congrArg Except.ok (if_pos htaken).symm
  · exact absurd (hown.elim .inl fun hunique => .inr (.inl hunique)) hitems
  · refine congrArg Except.ok (if_neg fun htaken => hitems ?_).symm
    exact .inr (.inr htaken)

theorem appendFetchedXtreamSeries_plus (detail : XtreamSeriesDetailOutput)
    (selected joined : XtreamSeriesStageProgress) :
    client.appendFetchedXtreamSeries detail (selected.plus joined) =
      (client.appendFetchedXtreamSeries detail joined).map selected.plus := by
  cases hinfo : detail.2 with
  | error error =>
    simp only [appendFetchedXtreamSeries, hinfo]
    split_ifs
    · exact congrArg Except.ok (plus_skip _ _)
    · rfl
  | ok info =>
    have hprepared : (selected.plus joined).preparedEpisodes = joined.preparedEpisodes := rfl
    have hcounted : ∀ n, (selected.plus joined).counted n = selected.plus (joined.counted n) :=
      fun _ => rfl
    have hsettle : ∀ joined own, settle (selected.plus joined) own =
        selected.plus (settle joined own) := by
      intro joined own
      cases own with
      | none => exact plus_skip _ _
      | some items =>
        have htaken : taken (selected.plus joined) items = taken joined items := rfl
        simp only [settle, htaken]
        split
        · exact plus_skip _ _
        · exact plus_keep _ _ _
    rw [client.appendFetchedXtreamSeries_eq _ _ hinfo, client.appendFetchedXtreamSeries_eq _ _ hinfo,
      hprepared, hcounted, hsettle]
    split_ifs
    · rfl
    · rfl

/-! The details, joined one after the other. -/

def joinDetails (details : List XtreamSeriesDetailOutput) :
    Except XtreamImportError XtreamSeriesStageProgress :=
  details.foldlM (fun progress detail => client.appendFetchedXtreamSeries detail progress) .default

def offeredItems (details : List XtreamSeriesDetailOutput) : List RemoteMediaItemUpsert :=
  details.flatMap fun detail => (client.ownItems detail).getD []

def Apart (detail other : XtreamSeriesDetailOutput) : Prop :=
  ∀ items ∈ client.ownItems detail, ∀ otherItems ∈ client.ownItems other,
    ∀ item ∈ items, ∀ otherItem ∈ otherItems, item.id ≠ otherItem.id ∧ item.path ≠ otherItem.path

structure Summary (details : List XtreamSeriesDetailOutput)
    (progress : XtreamSeriesStageProgress) : Prop where
  answered : ∀ detail ∈ details, ¬Fatal detail
  fits : ∀ detail ∈ details,
    client.selectedEpisodeCount detail ≤ remoteMediaCatalogStageMaxLibraryItems
  offered_le : (client.offeredItems details).length ≤ remoteMediaCatalogStageMaxLibraryItems
  selectedEpisodes : progress.selectedEpisodes =
    min (details.map client.selectedEpisodeCount).sum (2 ^ 64 - 1)
  preparedEpisodes : progress.preparedEpisodes = (client.offeredItems details).length
  skippedSeries : progress.skippedSeries =
    min (details.countP fun detail => (client.ownItems detail).isNone) (2 ^ 64 - 1)
  itemIds : progress.itemIds = ((client.offeredItems details).map (·.id)).toFinset
  itemPaths : progress.itemPaths = ((client.offeredItems details).map (·.path)).toFinset
  staged : progress.sent.flatten ++ progress.pendingStageItems = client.offeredItems details

theorem joinDetails_concat (details : List XtreamSeriesDetailOutput)
    (detail : XtreamSeriesDetailOutput) :
    client.joinDetails (details ++ [detail]) =
      client.joinDetails details >>= client.appendFetchedXtreamSeries detail := by
  simp [joinDetails, List.foldlM_append]

theorem offeredItems_concat (details : List XtreamSeriesDetailOutput)
    (detail : XtreamSeriesDetailOutput) :
    client.offeredItems (details ++ [detail]) =
      client.offeredItems details ++ (client.ownItems detail).getD [] := by
  simp [offeredItems]

variable {detail : XtreamSeriesDetailOutput}

theorem length_ownItems {items : List RemoteMediaItemUpsert}
    (h : client.ownItems detail = some items) :
    items.length = client.selectedEpisodeCount detail := by
  simp only [ownItems] at h
  cases hinfo : detail.2 with
  | error error => simp [hinfo] at h
  | ok info =>
    simp only [hinfo] at h
    split_ifs at h with hsource hitems
    simp only [not_or, ne_eq, not_not] at hitems
    cases h
    simp only [selectedEpisodeCount, hinfo]
    exact hitems.1

theorem summary_default : client.Summary [] .default where
  answered := by simp
  fits := by simp
  offered_le := by simp [offeredItems]
  selectedEpisodes := by simp [XtreamSeriesStageProgress.default]
  preparedEpisodes := by simp [XtreamSeriesStageProgress.default, offeredItems]
  skippedSeries := by simp [XtreamSeriesStageProgress.default]
  itemIds := by simp [XtreamSeriesStageProgress.default, offeredItems]
  itemPaths := by simp [XtreamSeriesStageProgress.default, offeredItems]
  staged := by simp [XtreamSeriesStageProgress.default, offeredItems]

variable {progress : XtreamSeriesStageProgress}

theorem appendFetchedXtreamSeries_eq_ok_iff {next : XtreamSeriesStageProgress}
    (hselected : progress.selectedEpisodes ≤ 2 ^ 64 - 1)
    (hprepared : progress.preparedEpisodes ≤ remoteMediaCatalogStageMaxLibraryItems) :
    client.appendFetchedXtreamSeries detail progress = .ok next ↔
      ¬Fatal detail ∧ progress.preparedEpisodes + client.selectedEpisodeCount detail ≤
          remoteMediaCatalogStageMaxLibraryItems ∧
        settle (progress.counted (client.selectedEpisodeCount detail)) (client.ownItems detail) =
          next := by
  cases hinfo : detail.2 with
  | error error =>
    have hcounted : progress.counted 0 = progress := by
      rw [counted, saturatingAdd, Nat.add_zero, min_eq_left hselected]
    have hcount : client.selectedEpisodeCount detail = 0 := by
      simp only [selectedEpisodeCount, hinfo]
    have hown : client.ownItems detail = none := by
      simp only [ownItems, hinfo]
    rw [hcount, hown, hcounted]
    simp only [appendFetchedXtreamSeries, Fatal, hinfo, settle]
    cases hleaves : leavesOut error with
    | true => simp [hprepared, hleaves]
    | false => simp [hleaves]
  | ok info =>
    have hanswered : ¬Fatal detail := by simp [Fatal, hinfo]
    have hover : remoteMediaCatalogStageMaxLibraryItems <
          saturatingAdd progress.preparedEpisodes (client.selectedEpisodeCount detail) ↔
        ¬progress.preparedEpisodes + client.selectedEpisodeCount detail ≤
          remoteMediaCatalogStageMaxLibraryItems := by
      simp only [saturatingAdd, remoteMediaCatalogStageMaxLibraryItems]
      omega
    rw [client.appendFetchedXtreamSeries_eq _ _ hinfo]
    split_ifs with h
    · simp [hover.mp h]
    · simp [hanswered, not_not.mp (mt hover.mpr h)]

variable {details : List XtreamSeriesDetailOutput}

theorem taken_eq_false (h : client.Summary details progress)
    (hapart : ∀ other ∈ details, client.Apart other detail) {items : List RemoteMediaItemUpsert}
    (hown : client.ownItems detail = some items) : taken progress items = false := by
  have hfree : ∀ other ∈ client.offeredItems details, ∀ item ∈ items,
      other.id ≠ item.id ∧ other.path ≠ item.path := by
    intro other hother item hitem
    obtain ⟨otherDetail, hdetail, hmem⟩ := List.mem_flatMap.mp hother
    cases hotherItems : client.ownItems otherDetail with
    | none => simp [hotherItems] at hmem
    | some otherItems =>
      rw [hotherItems, Option.getD_some] at hmem
      exact hapart otherDetail hdetail otherItems hotherItems items hown other hmem item hitem
  rw [taken, List.any_eq_false]
  intro item hitem
  simp only [h.itemIds, h.itemPaths, List.mem_toFinset, List.mem_map, Bool.or_eq_true,
    decide_eq_true_eq, not_or, not_exists, not_and]
  constructor
  · exact fun other hother => (hfree other hother item hitem).1
  · exact fun other hother => (hfree other hother item hitem).2

theorem Summary.concat {next : XtreamSeriesStageProgress} (h : client.Summary details progress)
    (hapart : ∀ other ∈ details, client.Apart other detail)
    (hnext : client.appendFetchedXtreamSeries detail progress = .ok next) :
    client.Summary (details ++ [detail]) next := by
  have hselected : progress.selectedEpisodes ≤ 2 ^ 64 - 1 := by
    rw [h.selectedEpisodes]
    exact min_le_right _ _
  have hprepared := h.preparedEpisodes.trans_le h.offered_le
  obtain ⟨hanswered, hfits, rfl⟩ :=
    (client.appendFetchedXtreamSeries_eq_ok_iff hselected hprepared).mp hnext
  have hall : ∀ {P : XtreamSeriesDetailOutput → Prop}, (∀ d ∈ details, P d) → P detail →
      ∀ d ∈ details ++ [detail], P d := by
    intro P hdetails hdetail
    rw [List.forall_mem_append]
    exact ⟨hdetails, by simpa using hdetail⟩
  have hsum : saturatingAdd progress.selectedEpisodes (client.selectedEpisodeCount detail) =
      min ((details ++ [detail]).map client.selectedEpisodeCount).sum (2 ^ 64 - 1) := by
    rw [h.selectedEpisodes, List.map_append, List.sum_append, List.map_singleton,
      List.sum_singleton]
    exact saturatingAdd_min _ _
  rw [h.preparedEpisodes] at hfits
  cases hown : client.ownItems detail with
  | none =>
    have hoffered : client.offeredItems (details ++ [detail]) = client.offeredItems details := by
      rw [offeredItems_concat, hown, Option.getD_none, List.append_nil]
    refine ⟨hall h.answered hanswered, hall h.fits (by omega), ?_, hsum, ?_, ?_, ?_, ?_, ?_⟩
    · rw [hoffered]
      exact h.offered_le
    · rw [hoffered]
      exact h.preparedEpisodes
    · have hskipped : (settle (progress.counted (client.selectedEpisodeCount detail))
          none).skippedSeries = saturatingAdd progress.skippedSeries 1 := rfl
      have hleft : [detail].countP (fun detail => (client.ownItems detail).isNone) = 1 := by
        simp [hown]
      rw [hskipped, h.skippedSeries, List.countP_append, hleft]
      exact saturatingAdd_min _ _
    · rw [hoffered]
      exact h.itemIds
    · rw [hoffered]
      exact h.itemPaths
    · rw [hoffered]
      exact h.staged
  | some items =>
    have hlength := client.length_ownItems hown
    have hoffered : client.offeredItems (details ++ [detail]) =
        client.offeredItems details ++ items := by
      rw [offeredItems_concat, hown, Option.getD_some]
    have htaken : taken (progress.counted (client.selectedEpisodeCount detail)) items = false :=
      client.taken_eq_false h hapart hown
    rw [settle, htaken, if_neg Bool.false_ne_true, keep_eq]
    refine ⟨hall h.answered hanswered, hall h.fits (by omega), ?_, hsum, ?_, ?_, ?_, ?_, ?_⟩
    · rw [hoffered, List.length_append, hlength]
      exact hfits
    · have hcount : progress.preparedEpisodes = (client.offeredItems details).length :=
        h.preparedEpisodes
      simp only [hoffered, List.length_append, counted, saturatingAdd, hcount, hlength]
      simp only [remoteMediaCatalogStageMaxLibraryItems] at hfits
      omega
    · rw [List.countP_append]
      simpa [hown, counted] using h.skippedSeries
    · simp only [hoffered, counted, h.itemIds, List.map_append, List.toFinset_append]
    · simp only [hoffered, counted, h.itemPaths, List.map_append, List.toFinset_append]
    · rw [staged_keep, hoffered]
      exact congrArg (· ++ items) h.staged

theorem summary_joinDetails (hapart : details.Pairwise client.Apart)
    (h : client.joinDetails details = .ok progress) : client.Summary details progress := by
  induction details using List.reverseRecOn generalizing progress with
  | nil =>
    obtain rfl := Except.ok.inj h
    exact client.summary_default
  | append_singleton details detail ih =>
    obtain ⟨hdetails, -, hbefore⟩ := List.pairwise_append.mp hapart
    rw [joinDetails_concat] at h
    obtain ⟨previous, hprevious, hnext⟩ := exists_of_bind_eq_ok h
    exact (ih hdetails hprevious).concat client
      (fun other hother => hbefore other hother detail (List.mem_singleton.mpr rfl)) hnext

/-- A series that is left out fits beside the items that are offered, if all of them fit and each
series does. -/
def LeftOutFits (details : List XtreamSeriesDetailOutput) : Prop :=
  (client.offeredItems details).length ≤ remoteMediaCatalogStageMaxLibraryItems →
    (∀ detail ∈ details,
      client.selectedEpisodeCount detail ≤ remoteMediaCatalogStageMaxLibraryItems) →
    ∀ detail ∈ details, client.ownItems detail = none →
      (client.offeredItems details).length + client.selectedEpisodeCount detail ≤
        remoteMediaCatalogStageMaxLibraryItems

variable {others : List XtreamSeriesDetailOutput}

theorem perm_offeredItems (h : details.Perm others) :
    (client.offeredItems details).Perm (client.offeredItems others) :=
  h.flatMap_right _

theorem leftOutFits_of_perm (h : details.Perm others) :
    client.LeftOutFits details ↔ client.LeftOutFits others := by
  simp only [LeftOutFits, (client.perm_offeredItems h).length_eq, h.mem_iff]

variable {client} in
theorem Apart.symm {other : XtreamSeriesDetailOutput} (h : client.Apart detail other) :
    client.Apart other detail := by
  intro items hitems otherItems hotherItems item hitem otherItem hotherItem
  obtain ⟨hid, hpath⟩ := h otherItems hotherItems items hitems otherItem hotherItem item hitem
  exact ⟨hid.symm, hpath.symm⟩

theorem pairwise_apart_of_subperm (hapart : details.Pairwise client.Apart)
    (h : others.Subperm details) : others.Pairwise client.Apart := by
  obtain ⟨sublist, hperm, hsublist⟩ := h
  exact (hperm.pairwise_iff fun hpair => hpair.symm).mp (hapart.sublist hsublist)

theorem length_offeredItems_le (h : others.Subperm details) :
    (client.offeredItems others).length ≤ (client.offeredItems details).length := by
  obtain ⟨sublist, hperm, hsublist⟩ := h
  obtain ⟨rest, hrest⟩ := hsublist.exists_perm_append
  rw [(client.perm_offeredItems hrest).length_eq, ← (client.perm_offeredItems hperm).length_eq,
    offeredItems, offeredItems, List.flatMap_append, List.length_append]
  exact Nat.le_add_right _ _

theorem exists_joinDetails_of_subperm (hapart : details.Pairwise client.Apart)
    (hroom : client.LeftOutFits details) (h : client.Summary details progress)
    (hothers : others.Subperm details) : ∃ progress, client.joinDetails others = .ok progress := by
  induction others using List.reverseRecOn with
  | nil => exact ⟨_, rfl⟩
  | append_singleton others detail ih =>
    have hbefore : others.Subperm details :=
      (List.sublist_append_left others [detail]).subperm.trans hothers
    obtain ⟨previous, hprevious⟩ := ih hbefore
    have hsummary := client.summary_joinDetails (client.pairwise_apart_of_subperm hapart hbefore)
      hprevious
    have hmem : detail ∈ details := hothers.subset (by simp)
    have hselected : previous.selectedEpisodes ≤ 2 ^ 64 - 1 := by
      rw [hsummary.selectedEpisodes]
      exact min_le_right _ _
    have hprepared := hsummary.preparedEpisodes.trans_le hsummary.offered_le
    have hfits : previous.preparedEpisodes + client.selectedEpisodeCount detail ≤
        remoteMediaCatalogStageMaxLibraryItems := by
      rw [hsummary.preparedEpisodes]
      cases hown : client.ownItems detail with
      | none =>
        have hleft := hroom h.offered_le h.fits detail hmem hown
        have hle := client.length_offeredItems_le hbefore
        omega
      | some items =>
        have hle := (client.length_offeredItems_le hothers).trans h.offered_le
        rwa [offeredItems_concat, hown, Option.getD_some, List.length_append,
          client.length_ownItems hown] at hle
    refine ⟨settle (previous.counted (client.selectedEpisodeCount detail)) (client.ownItems detail),
      ?_⟩
    rw [joinDetails_concat, hprevious, ok_bind]
    exact (client.appendFetchedXtreamSeries_eq_ok_iff hselected hprepared).mpr
      ⟨h.answered detail hmem, hfits, rfl⟩

/-! The tasks. -/

def started (seriesItem : Json) (selected : Option String) : List XtreamSeriesDetailOutput :=
  (selected.map fun seriesId => (seriesItem, client.fetchSeriesInfo seriesId)).toList

def selectAll : List Json → XtreamSeriesStageProgress →
    Except XtreamImportError (List XtreamSeriesDetailOutput × XtreamSeriesStageProgress)
  | [], progress => .ok ([], progress)
  | seriesItem :: seriesItems, progress => do
    let (selected, progress) ← client.selectSeries seriesItem progress
    let (details, progress) ← selectAll seriesItems progress
    .ok (client.started seriesItem selected ++ details, progress)

def Accounts (details : List XtreamSeriesDetailOutput) (selected : XtreamSeriesStageProgress)
    (stage : SeriesStage) : Prop :=
  ∃ joinedDetails joined, (joinedDetails ++ stage.pending).Perm details ∧
    client.joinDetails joinedDetails = .ok joined ∧ stage.progress = selected.plus joined

theorem joinNext_cases (order : Nat → Nat) (stage : SeriesStage) :
    stage.pending = [] ∧ stage.joinNext order = none ∨
      ∃ detail next, stage.joinNext order = some (detail, next) ∧
        (detail :: next.pending).Perm stage.pending ∧ next.progress = stage.progress := by
  by_cases hpending : stage.pending = []
  · refine .inl ⟨hpending, ?_⟩
    simp [SeriesStage.joinNext, hpending]
  · have hindex : order stage.joined % stage.pending.length < stage.pending.length :=
      Nat.mod_lt _ (List.length_pos_iff.mpr hpending)
    refine .inr ⟨stage.pending[order stage.joined % stage.pending.length],
      { stage with
        pending := stage.pending.eraseIdx (order stage.joined % stage.pending.length)
        joined := stage.joined + 1 }, ?_, List.getElem_cons_eraseIdx_perm hindex, rfl⟩
    rw [SeriesStage.joinNext, List.getElem?_eq_getElem hindex]
    rfl

variable {order : Nat → Nat} {stage : SeriesStage}

theorem pending_eq_nil (h : client.appendNextXtreamSeriesDetail order stage = .ok none) :
    stage.pending = [] := by
  rw [appendNextXtreamSeriesDetail] at h
  obtain ⟨hpending, -⟩ | ⟨detail, rest, hsome, -⟩ := joinNext_cases order stage
  · exact hpending
  · rw [hsome] at h
    obtain ⟨progress, -, hnone⟩ := exists_of_bind_eq_ok h
    cases hnone

variable {selected : XtreamSeriesStageProgress}

theorem appendNextXtreamSeriesDetail_accounts {next : SeriesStage}
    (h : client.Accounts details selected stage)
    (hnext : client.appendNextXtreamSeriesDetail order stage = .ok (some next)) :
    client.Accounts details selected next ∧ next.pending.length + 1 = stage.pending.length := by
  obtain ⟨joinedDetails, joined, hperm, hjoined, hprogress⟩ := h
  rw [appendNextXtreamSeriesDetail] at hnext
  obtain ⟨-, hnone⟩ | ⟨detail, rest, hsome, hrest, heq⟩ := joinNext_cases order stage
  · rw [hnone] at hnext
    cases hnext
  · rw [hsome] at hnext
    simp only [heq, hprogress, appendFetchedXtreamSeries_plus] at hnext
    obtain ⟨progress, happend, hok⟩ := exists_of_bind_eq_ok hnext
    cases hdetail : client.appendFetchedXtreamSeries detail joined with
    | error error => simp [hdetail, Except.map] at happend
    | ok joinedNext =>
      rw [hdetail] at happend
      obtain rfl := Except.ok.inj happend
      obtain rfl := Option.some.inj (Except.ok.inj hok)
      refine ⟨⟨joinedDetails ++ [detail], joinedNext, ?_, ?_, rfl⟩, ?_⟩
      · rw [List.append_assoc]
        exact (hrest.append_left joinedDetails).trans hperm
      · rw [joinDetails_concat, hjoined, ok_bind, hdetail]
      · exact hrest.length_eq

theorem exists_appendNextXtreamSeriesDetail (order : Nat → Nat)
    (h : client.Accounts details selected stage)
    (hjoins : ∀ others : List XtreamSeriesDetailOutput, others.Subperm details →
      ∃ progress, client.joinDetails others = .ok progress) :
    (stage.pending = [] ∧ client.appendNextXtreamSeriesDetail order stage = .ok none) ∨
      ∃ next, client.appendNextXtreamSeriesDetail order stage = .ok (some next) := by
  obtain ⟨joinedDetails, joined, hperm, hjoined, hprogress⟩ := h
  rw [appendNextXtreamSeriesDetail]
  obtain ⟨hpending, hnone⟩ | ⟨detail, rest, hsome, hrest, heq⟩ := joinNext_cases order stage
  · exact .inl ⟨hpending, by rw [hnone]⟩
  · have hsubperm : (joinedDetails ++ [detail]).Subperm details := by
      have hall := (hrest.append_left joinedDetails).trans hperm
      refine List.Subperm.trans ?_ hall.subperm
      exact ((List.nil_sublist rest.pending).cons_cons detail).append_left joinedDetails |>.subperm
    obtain ⟨progress, hprogress'⟩ := hjoins _ hsubperm
    rw [joinDetails_concat, hjoined, ok_bind] at hprogress'
    rw [hsome]
    simp only [heq, hprogress, appendFetchedXtreamSeries_plus, hprogress']
    exact .inr ⟨_, rfl⟩

theorem Accounts.start (h : client.Accounts details selected stage)
    (detail : XtreamSeriesDetailOutput) :
    client.Accounts (details ++ [detail]) selected
      { stage with pending := stage.pending ++ [detail] } := by
  obtain ⟨joinedDetails, joined, hperm, hjoined, hprogress⟩ := h
  refine ⟨joinedDetails, joined, ?_, hjoined, hprogress⟩
  rw [← List.append_assoc]
  exact hperm.append_right [detail]

theorem appendSeriesItem_accounts {seriesItem : Json} {next : SeriesStage}
    (h : client.Accounts details selected stage)
    (hnext : client.appendSeriesItem order stage seriesItem = .ok next) :
    ∃ seriesId selectedNext, client.selectSeries seriesItem selected = .ok (seriesId, selectedNext) ∧
      client.Accounts (details ++ client.started seriesItem seriesId) selectedNext next := by
  obtain ⟨joinedDetails, joined, hperm, hjoined, hprogress⟩ := h
  rw [appendSeriesItem, hprogress, selectSeries_plus] at hnext
  obtain ⟨⟨seriesId, progress⟩, hselect, hnext⟩ := exists_of_bind_eq_ok hnext
  cases hselected : client.selectSeries seriesItem selected with
  | error error => simp [hselected, Except.map] at hselect
  | ok result =>
    obtain ⟨seriesId', selectedNext⟩ := result
    rw [hselected] at hselect
    obtain ⟨rfl, rfl⟩ := Prod.mk.inj (Except.ok.inj hselect)
    refine ⟨seriesId', selectedNext, rfl, ?_⟩
    have haccounts : client.Accounts details selectedNext
        { stage with progress := selectedNext.plus joined } :=
      ⟨joinedDetails, joined, hperm, hjoined, rfl⟩
    cases seriesId' with
    | none =>
      obtain rfl := Except.ok.inj hnext
      simpa [started] using haccounts
    | some seriesId =>
      simp only at hnext
      split at hnext
      · obtain ⟨joinedStage, hjoin, hnext⟩ := exists_of_bind_eq_ok hnext
        obtain rfl := Except.ok.inj hnext
        refine Accounts.start client ?_ (seriesItem, client.fetchSeriesInfo seriesId)
        cases joinedStage with
        | none => exact haccounts
        | some joinedStage =>
          exact (client.appendNextXtreamSeriesDetail_accounts haccounts hjoin).1
      · obtain rfl := Except.ok.inj hnext
        exact haccounts.start client (seriesItem, client.fetchSeriesInfo seriesId)

theorem exists_appendSeriesItem (order : Nat → Nat) {seriesItem : Json}
    {selectedNext : XtreamSeriesStageProgress} {seriesId : Option String}
    (h : client.Accounts details selected stage)
    (hjoins : ∀ others : List XtreamSeriesDetailOutput, others.Subperm details →
      ∃ progress, client.joinDetails others = .ok progress)
    (hselected : client.selectSeries seriesItem selected = .ok (seriesId, selectedNext)) :
    ∃ next, client.appendSeriesItem order stage seriesItem = .ok next := by
  obtain ⟨joinedDetails, joined, hperm, hjoined, hprogress⟩ := h
  rw [appendSeriesItem, hprogress, selectSeries_plus, hselected]
  cases seriesId with
  | none => exact ⟨_, rfl⟩
  | some seriesId =>
    have haccounts : client.Accounts details selectedNext
        { stage with progress := selectedNext.plus joined } :=
      ⟨joinedDetails, joined, hperm, hjoined, rfl⟩
    simp only [Except.map, ok_bind]
    split
    · obtain ⟨-, hnone⟩ | ⟨next, hnext⟩ :=
        client.exists_appendNextXtreamSeriesDetail order haccounts hjoins
      · rw [hnone]
        exact ⟨_, rfl⟩
      · rw [hnext]
        exact ⟨_, rfl⟩
    · exact ⟨_, rfl⟩

theorem foldlM_appendSeriesItem_accounts {seriesItems : List Json} {next : SeriesStage}
    (h : client.Accounts details selected stage)
    (hnext : seriesItems.foldlM (client.appendSeriesItem order) stage = .ok next) :
    ∃ started selectedNext, client.selectAll seriesItems selected = .ok (started, selectedNext) ∧
      client.Accounts (details ++ started) selectedNext next := by
  induction seriesItems generalizing details selected stage with
  | nil =>
    obtain rfl := Except.ok.inj hnext
    exact ⟨[], selected, rfl, by simpa using h⟩
  | cons seriesItem seriesItems ih =>
    rw [List.foldlM_cons] at hnext
    obtain ⟨stageNext, hitem, hrest⟩ := exists_of_bind_eq_ok hnext
    obtain ⟨seriesId, selectedNext, hselect, haccounts⟩ :=
      client.appendSeriesItem_accounts h hitem
    obtain ⟨started, selectedLast, hall, hlast⟩ := ih haccounts hrest
    refine ⟨client.started seriesItem seriesId ++ started, selectedLast, ?_, ?_⟩
    · rw [selectAll, hselect, ok_bind]
      simp only [hall, ok_bind]
    · rwa [← List.append_assoc]

theorem exists_foldlM_appendSeriesItem (order : Nat → Nat) {seriesItems : List Json}
    {started : List XtreamSeriesDetailOutput} {selectedNext : XtreamSeriesStageProgress}
    (h : client.Accounts details selected stage)
    (hjoins : ∀ others : List XtreamSeriesDetailOutput, others.Subperm (details ++ started) →
      ∃ progress, client.joinDetails others = .ok progress)
    (hselected : client.selectAll seriesItems selected = .ok (started, selectedNext)) :
    ∃ next, seriesItems.foldlM (client.appendSeriesItem order) stage = .ok next := by
  induction seriesItems generalizing details started selected stage with
  | nil => exact ⟨stage, rfl⟩
  | cons seriesItem seriesItems ih =>
    rw [selectAll] at hselected
    obtain ⟨⟨seriesId, selectedItem⟩, hselect, hselected⟩ := exists_of_bind_eq_ok hselected
    obtain ⟨⟨startedRest, selectedLast⟩, hrest, hselected⟩ := exists_of_bind_eq_ok hselected
    obtain ⟨rfl, rfl⟩ := Prod.mk.inj (Except.ok.inj hselected)
    rw [← List.append_assoc] at hjoins
    obtain ⟨next, hnext⟩ := client.exists_appendSeriesItem order h
      (fun others hothers => hjoins others (hothers.trans
        ((List.sublist_append_left _ _).subperm.trans (List.sublist_append_left _ _).subperm)))
      hselect
    obtain ⟨seriesId', selectedItem', hselect', haccounts⟩ :=
      client.appendSeriesItem_accounts h hnext
    obtain ⟨rfl, rfl⟩ := Prod.mk.inj (Except.ok.inj (hselect.symm.trans hselect'))
    obtain ⟨last, hlast⟩ := ih haccounts hjoins hrest
    exact ⟨last, by rw [List.foldlM_cons, hnext, ok_bind, hlast]⟩

theorem foldlM_chunks (order : Nat → Nat) (chunks : List (List Json)) (stage : SeriesStage) :
    chunks.foldlM (fun stage chunk => chunk.foldlM (client.appendSeriesItem order) stage) stage =
      chunks.flatten.foldlM (client.appendSeriesItem order) stage := by
  induction chunks generalizing stage with
  | nil => rfl
  | cons chunk chunks ih =>
    rw [List.foldlM_cons, List.flatten_cons, List.foldlM_append]
    exact congrArg (chunk.foldlM (client.appendSeriesItem order) stage >>= ·) (funext ih)

theorem joinAll_accounts {n : Nat} {next : SeriesStage}
    (h : client.Accounts details selected stage) (hlength : stage.pending.length = n)
    (hnext : client.joinAll order n stage = .ok next) :
    client.Accounts details selected next ∧ next.pending = [] := by
  induction n generalizing stage with
  | zero =>
    obtain rfl := Except.ok.inj hnext
    exact ⟨h, List.length_eq_zero_iff.mp hlength⟩
  | succ n ih =>
    rw [joinAll] at hnext
    obtain ⟨joined, hjoin, hnext⟩ := exists_of_bind_eq_ok hnext
    cases joined with
    | none =>
      obtain rfl := Except.ok.inj hnext
      exact ⟨h, client.pending_eq_nil hjoin⟩
    | some joined =>
      obtain ⟨haccounts, hshorter⟩ := client.appendNextXtreamSeriesDetail_accounts h hjoin
      exact ih haccounts (by omega) hnext

theorem exists_joinAll (order : Nat → Nat) {n : Nat} (h : client.Accounts details selected stage)
    (hjoins : ∀ others : List XtreamSeriesDetailOutput, others.Subperm details →
      ∃ progress, client.joinDetails others = .ok progress) :
    ∃ next, client.joinAll order n stage = .ok next := by
  induction n generalizing stage with
  | zero => exact ⟨stage, rfl⟩
  | succ n ih =>
    rw [joinAll]
    obtain ⟨-, hnone⟩ | ⟨next, hnext⟩ :=
      client.exists_appendNextXtreamSeriesDetail order h hjoins
    · rw [hnone]
      exact ⟨stage, rfl⟩
    · rw [hnext]
      exact ih (client.appendNextXtreamSeriesDetail_accounts h hnext).1

/-! The stage. -/

theorem accounts_default : client.Accounts [] .default .default :=
  ⟨[], .default, List.Perm.refl [], rfl, rfl⟩

theorem stageSeries_eq_ok {chunks : List (List Json)} {finished : Except XtreamFetchError Nat}
    (h : client.stageSeries order chunks finished = .ok progress) :
    ∃ details selected joinedDetails joined,
      client.selectAll chunks.flatten .default = .ok (details, selected) ∧
        (∃ n, finished = .ok n) ∧ joinedDetails.Perm details ∧
        client.joinDetails joinedDetails = .ok joined ∧
        progress = selected.plus joined.flush := by
  rw [stageSeries] at h
  obtain ⟨stage, hchunks, h⟩ := exists_of_bind_eq_ok h
  obtain ⟨last, hfinish, h⟩ := exists_of_bind_eq_ok h
  obtain rfl := Except.ok.inj h
  rw [appendXtreamSeriesChunks, foldlM_chunks] at hchunks
  obtain ⟨fetched, hfold, hfinished⟩ := exists_of_bind_eq_ok hchunks
  cases finished with
  | error error => cases hfinished
  | ok n =>
    obtain rfl := Except.ok.inj hfinished
    obtain ⟨details, selected, hselected, haccounts⟩ :=
      client.foldlM_appendSeriesItem_accounts client.accounts_default hfold
    rw [finishXtreamSeriesDetails] at hfinish
    obtain ⟨joinedStage, hjoin, hfinish⟩ := exists_of_bind_eq_ok hfinish
    obtain rfl := Except.ok.inj hfinish
    obtain ⟨⟨joinedDetails, joined, hperm, hjoined, hprogress⟩, hpending⟩ :=
      client.joinAll_accounts haccounts rfl hjoin
    rw [hpending, List.append_nil, List.nil_append] at hperm
    exact ⟨details, selected, joinedDetails, joined, hselected, ⟨n, rfl⟩, hperm, hjoined, by
      rw [hprogress, plus_flush]⟩

theorem exists_stageSeries {chunks : List (List Json)} {n : Nat}
    (hselected : client.selectAll chunks.flatten .default = .ok (details, selected))
    (hjoins : ∀ others : List XtreamSeriesDetailOutput, others.Subperm details →
      ∃ progress, client.joinDetails others = .ok progress) (order : Nat → Nat) :
    ∃ progress, client.stageSeries order chunks (.ok n) = .ok progress := by
  obtain ⟨stage, hstage⟩ := client.exists_foldlM_appendSeriesItem order
    client.accounts_default hjoins hselected
  obtain ⟨details', selected', hselected', haccounts⟩ :=
    client.foldlM_appendSeriesItem_accounts client.accounts_default hstage
  obtain ⟨rfl, rfl⟩ := Prod.mk.inj (Except.ok.inj (hselected.symm.trans hselected'))
  obtain ⟨last, hlast⟩ := client.exists_joinAll order (n := stage.pending.length)
    haccounts hjoins
  refine ⟨last.progress.flush, ?_⟩
  rw [stageSeries, appendXtreamSeriesChunks, foldlM_chunks, hstage, ok_bind, ok_bind,
    finishXtreamSeriesDetails, hlast]
  rfl

def requested (chunks : List (List Json)) : List XtreamSeriesDetailOutput :=
  match client.selectAll chunks.flatten .default with
  | .error _ => []
  | .ok (details, _) => details

structure SameStage (progress other : XtreamSeriesStageProgress) : Prop where
  staged : progress.sent.flatten.Perm other.sent.flatten
  receivedSeries : progress.receivedSeries = other.receivedSeries
  selectedSeries : progress.selectedSeries = other.selectedSeries
  selectedEpisodes : progress.selectedEpisodes = other.selectedEpisodes
  preparedEpisodes : progress.preparedEpisodes = other.preparedEpisodes
  skippedSeries : progress.skippedSeries = other.skippedSeries
  deduplicatedSeries : progress.deduplicatedSeries = other.deduplicatedSeries

def SameOutcome : Except XtreamImportError XtreamSeriesStageProgress →
    Except XtreamImportError XtreamSeriesStageProgress → Prop
  | .error _, .error _ => True
  | .ok progress, .ok other => SameStage progress other
  | _, _ => False

theorem sameStage_of_perm {other : XtreamSeriesStageProgress}
    (hdetails : client.Summary details progress) (hothers : client.Summary others other)
    (h : details.Perm others) :
    SameStage (selected.plus progress.flush) (selected.plus other.flush) := by
  have hstaged : ∀ {details : List XtreamSeriesDetailOutput} {progress : XtreamSeriesStageProgress},
      client.Summary details progress →
        (selected.plus progress.flush).sent.flatten = client.offeredItems details := by
    intro details progress hsummary
    have hflush := staged_flush progress
    rw [pendingStageItems_flush, List.append_nil, hsummary.staged] at hflush
    exact hflush
  refine ⟨?_, rfl, rfl, ?_, ?_, ?_, rfl⟩
  · rw [hstaged hdetails, hstaged hothers]
    exact client.perm_offeredItems h
  · rw [flush_eq progress, flush_eq other]
    simp only [XtreamSeriesStageProgress.plus, hdetails.selectedEpisodes,
      hothers.selectedEpisodes, (h.map client.selectedEpisodeCount).sum_eq]
  · rw [flush_eq progress, flush_eq other]
    simp only [XtreamSeriesStageProgress.plus, hdetails.preparedEpisodes,
      hothers.preparedEpisodes, (client.perm_offeredItems h).length_eq]
  · rw [flush_eq progress, flush_eq other]
    simp only [XtreamSeriesStageProgress.plus, hdetails.skippedSeries, hothers.skippedSeries,
      h.countP_eq]

theorem exists_stageSeries_of_eq_ok {chunks : List (List Json)}
    (hapart : (client.requested chunks).Pairwise client.Apart)
    (hroom : client.LeftOutFits (client.requested chunks))
    {finished : Except XtreamFetchError Nat}
    (h : client.stageSeries order chunks finished = .ok progress) (other : Nat → Nat) :
    ∃ next, client.stageSeries other chunks finished = .ok next ∧ SameStage progress next := by
  obtain ⟨details, selected, joinedDetails, joined, hselected, ⟨n, rfl⟩, hperm, hjoined, rfl⟩ :=
    client.stageSeries_eq_ok h
  have hrequested : client.requested chunks = details := by
    simp only [requested, hselected]
  rw [hrequested] at hapart hroom
  have hsummary : ∀ {others joined}, others.Perm details → client.joinDetails others = .ok joined →
      client.Summary others joined := fun hothers hjoined =>
    client.summary_joinDetails (client.pairwise_apart_of_subperm hapart hothers.subperm) hjoined
  have hjoinedSummary := hsummary hperm hjoined
  have hjoins := fun (others : List XtreamSeriesDetailOutput) (hothers : others.Subperm details) =>
    client.exists_joinDetails_of_subperm
      (client.pairwise_apart_of_subperm hapart hperm.subperm)
      ((client.leftOutFits_of_perm hperm.symm).mp hroom) hjoinedSummary
      (hothers.trans hperm.symm.subperm)
  obtain ⟨next, hnext⟩ := client.exists_stageSeries (n := n) hselected hjoins other
  obtain ⟨details', selected', otherDetails, otherJoined, hselected', -, hperm', hjoined', rfl⟩ :=
    client.stageSeries_eq_ok hnext
  obtain ⟨rfl, rfl⟩ := Prod.mk.inj (Except.ok.inj (hselected.symm.trans hselected'))
  exact ⟨_, hnext, client.sameStage_of_perm hjoinedSummary (hsummary hperm' hjoined')
    (hperm.trans hperm'.symm)⟩

/-- Where the series are apart and the budget does not depend on a series that is left out, the
order in which the tasks complete decides nothing. -/
theorem stageSeries_sameOutcome {chunks : List (List Json)}
    (hapart : (client.requested chunks).Pairwise client.Apart)
    (hroom : client.LeftOutFits (client.requested chunks))
    (finished : Except XtreamFetchError Nat) (order other : Nat → Nat) :
    SameOutcome (client.stageSeries order chunks finished)
      (client.stageSeries other chunks finished) := by
  cases hstage : client.stageSeries order chunks finished with
  | error error =>
    cases hother : client.stageSeries other chunks finished with
    | error error => trivial
    | ok next =>
      obtain ⟨progress, hprogress, -⟩ :=
        client.exists_stageSeries_of_eq_ok hapart hroom hother order
      cases hstage.symm.trans hprogress
  | ok progress =>
    obtain ⟨next, hnext, hsame⟩ :=
      client.exists_stageSeries_of_eq_ok hapart hroom hstage other
    rw [hnext]
    exact hsame

/-! Two series. -/

def joinPair (selected : XtreamSeriesStageProgress) (detail other : XtreamSeriesDetailOutput) :
    Except XtreamImportError XtreamSeriesStageProgress := do
  let progress ← client.appendFetchedXtreamSeries detail selected
  let progress ← client.appendFetchedXtreamSeries other progress
  .ok progress.flush

theorem finish_pair {other : XtreamSeriesDetailOutput} (hlength : details.length = 2)
    (h : (⟨details, 0, selected⟩ : SeriesStage).joinNext order =
      some (detail, ⟨[other], 1, selected⟩)) :
    (client.finishXtreamSeriesDetails order ⟨details, 0, selected⟩).map (·.progress) =
      client.joinPair selected detail other := by
  have hother : ∀ progress, (⟨[other], 1, progress⟩ : SeriesStage).joinNext order =
      some (other, ⟨[], 2, progress⟩) := by
    intro progress
    simp [SeriesStage.joinNext, Nat.mod_one]
  have hjoin : ∀ {stage rest : SeriesStage} {detail : XtreamSeriesDetailOutput},
      stage.joinNext order = some (detail, rest) →
        client.appendNextXtreamSeriesDetail order stage =
          client.appendFetchedXtreamSeries detail rest.progress >>= fun progress =>
            .ok (some { rest with progress }) := by
    intro stage rest detail hstage
    rw [appendNextXtreamSeriesDetail, hstage]
  rw [finishXtreamSeriesDetails, hlength, joinAll, hjoin h, joinPair]
  cases client.appendFetchedXtreamSeries detail selected with
  | error error => rfl
  | ok progress =>
    simp only [ok_bind]
    rw [joinAll, hjoin (hother progress)]
    cases client.appendFetchedXtreamSeries other progress with
    | error error => rfl
    | ok next => rfl

theorem stageSeries_pair {first second : Json} {firstId secondId : String}
    {afterFirst : XtreamSeriesStageProgress} (n : Nat)
    (hconcurrency : 2 ≤ client.detailConcurrency)
    (hfirst : client.selectSeries first .default = .ok (some firstId, afterFirst))
    (hsecond : client.selectSeries second afterFirst = .ok (some secondId, selected)) :
    client.stageSeries (fun _ => 0) [[first, second]] (.ok n) =
        client.joinPair selected (first, client.fetchSeriesInfo firstId)
          (second, client.fetchSeriesInfo secondId) ∧
      client.stageSeries (fun _ => 1) [[first, second]] (.ok n) =
        client.joinPair selected (second, client.fetchSeriesInfo secondId)
          (first, client.fetchSeriesInfo firstId) := by
  have hchunks : ∀ order, client.appendXtreamSeriesChunks order [[first, second]] (.ok n) .default =
      .ok ⟨[(first, client.fetchSeriesInfo firstId), (second, client.fetchSeriesInfo secondId)], 0,
        selected⟩ := by
    intro order
    have hzero : ¬client.detailConcurrency ≤ 0 := by omega
    have hone : ¬client.detailConcurrency ≤ 1 := by omega
    simp [appendXtreamSeriesChunks, appendSeriesItem, SeriesStage.default, hfirst, hsecond, ok_bind,
      hzero, hone]
  have hstage : ∀ order, client.stageSeries order [[first, second]] (.ok n) =
      (client.finishXtreamSeriesDetails order ⟨[(first, client.fetchSeriesInfo firstId),
        (second, client.fetchSeriesInfo secondId)], 0, selected⟩).map (·.progress) := by
    intro order
    rw [stageSeries, hchunks, ok_bind]
    cases client.finishXtreamSeriesDetails order _ with
    | error error => rfl
    | ok stage => rfl
  rw [hstage, hstage]
  exact ⟨client.finish_pair rfl rfl, client.finish_pair rfl rfl⟩

def showSeries (id : Nat) : Json := .object [("name", .string "Show"), ("series_id", .number id)]

def showImport (first second : Except XtreamFetchError Json) : SeriesImport PlainUrl where
  crate := plainUrls
  jsonText _ := ""
  baseUrl := ⟨"http", "tv.example", []⟩
  username := "alice"
  password := "secret"
  tunerId := "living-room"
  selection := ⟨∅, ∅⟩
  expectedCategoryId := none
  categories := []
  seriesLimit := none
  episodeLimit := 1000000
  detailConcurrency := 2
  fetchSeriesInfo seriesId := if seriesId = "1" then first else second

def pilotInfo : Json :=
  .object [("episodes", .array [.object [("id", .number 7), ("title", .string "Pilot")]])]

def blankInfo (n : Nat) : Json := .object [("episodes", .array (List.replicate n .null))]

def pilots : SeriesImport PlainUrl := showImport (.ok pilotInfo) (.ok pilotInfo)

def blanks : SeriesImport PlainUrl := showImport (.ok pilotInfo) (.ok (blankInfo 1000000))

def selectedShows : XtreamSeriesStageProgress :=
  { XtreamSeriesStageProgress.default with
    receivedSeries := 2
    selectedSeries := 2
    seriesIds := {"2", "1"} }

theorem stageSeries_shows (first second : Except XtreamFetchError Json) :
    (showImport first second).stageSeries (fun _ => 0) [[showSeries 1, showSeries 2]] (.ok 2) =
        (showImport first second).joinPair selectedShows (showSeries 1, first)
          (showSeries 2, second) ∧
      (showImport first second).stageSeries (fun _ => 1) [[showSeries 1, showSeries 2]] (.ok 2) =
        (showImport first second).joinPair selectedShows (showSeries 2, second)
          (showSeries 1, first) := by
  have hfirst : (showImport first second).selectSeries (showSeries 1) .default =
      .ok (some "1", { XtreamSeriesStageProgress.default with
        receivedSeries := 1
        selectedSeries := 1
        seriesIds := {"1"} }) := rfl
  have hsecond : (showImport first second).selectSeries (showSeries 2)
      { XtreamSeriesStageProgress.default with
        receivedSeries := 1
        selectedSeries := 1
        seriesIds := {"1"} } = .ok (some "2", selectedShows) := rfl
  exact (showImport first second).stageSeries_pair 2 (le_refl 2) hfirst hsecond

theorem selectedEpisodeCount_blankInfo (first second : Except XtreamFetchError Json) {n : Nat}
    (h : n ≤ 1000000) :
    (showImport first second).selectedEpisodeCount (showSeries 2, .ok (blankInfo n)) = n := by
  have hcount : seriesEpisodeCount (blankInfo n) = n := List.length_replicate
  simp only [selectedEpisodeCount, hcount]
  exact min_eq_left h

theorem ownItems_blankInfo (first second : Except XtreamFetchError Json) {n : Nat} (hpos : 0 < n)
    (h : n ≤ 1000000) :
    (showImport first second).ownItems (showSeries 2, .ok (blankInfo n)) = none := by
  have hcount : min (seriesEpisodeCount (blankInfo n)) (showImport first second).episodeLimit = n :=
    selectedEpisodeCount_blankInfo first second h
  have hvalues : xtreamEpisodeValues (blankInfo n) =
      (List.replicate n Json.null).map fun episode => (none, episode) := rfl
  have hblank : validSeriesEpisodePrefix (blankInfo n) n = false := by
    rw [validSeriesEpisodePrefix, hvalues, List.all_eq_false]
    refine ⟨(none, .null), ?_, by decide⟩
    rw [List.take_of_length_le (by simp)]
    simpa using hpos.ne'
  simp only [ownItems, hcount, hblank, true_or, if_true]

theorem joinPair_blankInfo :
    blanks.joinPair selectedShows (showSeries 1, .ok pilotInfo)
        (showSeries 2, .ok (blankInfo 1000000)) = .error ⟨"series details", .tooManyItems⟩ ∧
      ∃ progress, blanks.joinPair selectedShows (showSeries 2, .ok (blankInfo 1000000))
        (showSeries 1, .ok pilotInfo) = .ok progress := by
  have hcount := selectedEpisodeCount_blankInfo (.ok pilotInfo) (.ok (blankInfo 1000000))
    (le_refl 1000000)
  have hown := ownItems_blankInfo (.ok pilotInfo) (.ok (blankInfo 1000000))
    (Nat.succ_pos 999999) (le_refl 1000000)
  have hblank := fun progress => blanks.appendFetchedXtreamSeries_eq
    (showSeries 2, .ok (blankInfo 1000000)) progress rfl
  constructor
  · have hkept : (blanks.appendFetchedXtreamSeries (showSeries 1, .ok pilotInfo)
        selectedShows).toOption.map (·.preparedEpisodes) = some 1 := by
      decide +kernel
    cases hpilot : blanks.appendFetchedXtreamSeries (showSeries 1, .ok pilotInfo) selectedShows with
    | error error => simp [hpilot, Except.toOption] at hkept
    | ok progress =>
      have hprepared : progress.preparedEpisodes = 1 := by
        simpa [hpilot, Except.toOption] using hkept
      rw [joinPair, hpilot, ok_bind, hblank, blanks, hcount, hprepared, if_pos (by decide)]
      rfl
  · have hskipped : blanks.appendFetchedXtreamSeries (showSeries 2, .ok (blankInfo 1000000))
        selectedShows = .ok (selectedShows.counted 1000000).skip := by
      rw [hblank, blanks, hcount, hown, if_neg (by decide)]
      rfl
    have hkept : (blanks.appendFetchedXtreamSeries (showSeries 1, .ok pilotInfo)
        (selectedShows.counted 1000000).skip).toOption.isSome = true := by
      decide +kernel
    cases hpilot : blanks.appendFetchedXtreamSeries (showSeries 1, .ok pilotInfo)
        (selectedShows.counted 1000000).skip with
    | error error => simp [hpilot, Except.toOption] at hkept
    | ok progress => exact ⟨progress.flush, by rw [joinPair, hskipped, ok_bind, hpilot, ok_bind]⟩

theorem exists_joinPair_pilots (detail other : XtreamSeriesDetailOutput) (id : String)
    (hids : (pilots.joinPair selectedShows detail other).toOption.map (fun progress =>
      progress.sent.flatten.map (·.id)) = some [id]) :
    ∃ progress, pilots.joinPair selectedShows detail other = .ok progress ∧
      progress.sent.flatten.map (·.id) = [id] := by
  cases hstage : pilots.joinPair selectedShows detail other with
  | error error => simp [hstage, Except.toOption] at hids
  | ok progress =>
    rw [hstage] at hids
    exact ⟨progress, rfl, Option.some.inj hids⟩

/-- Two series of one name list the same episode: the one that is answered first is kept.  And a
series of blank episodes is left out, unless it is answered once another one is kept. -/
theorem series_order_decides :
    ¬SameOutcome (pilots.stageSeries (fun _ => 0) [[showSeries 1, showSeries 2]] (.ok 2))
        (pilots.stageSeries (fun _ => 1) [[showSeries 1, showSeries 2]] (.ok 2)) ∧
      ¬SameOutcome (blanks.stageSeries (fun _ => 0) [[showSeries 1, showSeries 2]] (.ok 2))
        (blanks.stageSeries (fun _ => 1) [[showSeries 1, showSeries 2]] (.ok 2)) := by
  constructor
  · obtain ⟨hforward, hbackward⟩ := stageSeries_shows (.ok pilotInfo) (.ok pilotInfo)
    obtain ⟨progress, hfirst, hids⟩ := exists_joinPair_pilots
      (showSeries 1, .ok pilotInfo) (showSeries 2, .ok pilotInfo)
      "5e292ba5d3cb16db106d3c3aad9adbcc" (by decide +kernel)
    obtain ⟨other, hsecond, hotherIds⟩ := exists_joinPair_pilots
      (showSeries 2, .ok pilotInfo) (showSeries 1, .ok pilotInfo)
      "5e25a5a5d3c7fd541070c23aad9df5b3" (by decide +kernel)
    rw [pilots, hforward, hbackward, ← pilots, hfirst, hsecond]
    intro hsame
    have hperm := hsame.staged.map (·.id)
    rw [hids, hotherIds] at hperm
    exact absurd hperm.eq_singleton (by decide)
  · obtain ⟨hforward, hbackward⟩ := stageSeries_shows (.ok pilotInfo) (.ok (blankInfo 1000000))
    obtain ⟨herror, progress, hok⟩ := joinPair_blankInfo
    rw [blanks, hforward, hbackward, ← blanks, herror, hok]
    exact id

/-- A series is kept, and one that the provider does not know is left out, in either order. -/
theorem unknown_series_sameOutcome :
    SameOutcome
      ((showImport (.ok pilotInfo) (.error (.http 404))).stageSeries (fun _ => 0)
        [[showSeries 1, showSeries 2]] (.ok 2))
      ((showImport (.ok pilotInfo) (.error (.http 404))).stageSeries (fun _ => 1)
        [[showSeries 1, showSeries 2]] (.ok 2)) := by
  have hrequested : (showImport (.ok pilotInfo) (.error (.http 404))).requested
      [[showSeries 1, showSeries 2]] =
        [(showSeries 1, .ok pilotInfo), (showSeries 2, .error (.http 404))] := rfl
  have hunknown : (showImport (.ok pilotInfo) (.error (.http 404))).ownItems
      (showSeries 2, .error (.http 404)) = none := rfl
  refine stageSeries_sameOutcome _ ?_ ?_ (.ok 2) _ _
  · rw [hrequested]
    refine List.pairwise_pair.mpr ?_
    intro items hitems otherItems hother
    cases hunknown.symm.trans hother
  · rw [hrequested]
    intro hfits halone detail hdetail hown
    simp only [List.mem_cons, List.not_mem_nil, or_false] at hdetail
    obtain rfl | rfl := hdetail
    · have hoffered : (showImport (.ok pilotInfo) (.error (.http 404))).offeredItems
          [(showSeries 1, .ok pilotInfo), (showSeries 2, .error (.http 404))] = [] := by
        simp [offeredItems, hown, hunknown]
      rw [hoffered, List.length_nil, Nat.zero_add]
      exact halone _ (by simp)
    · have hcount : (showImport (.ok pilotInfo) (.error (.http 404))).selectedEpisodeCount
          (showSeries 2, .error (.http 404)) = 0 := rfl
      rw [hcount, Nat.add_zero]
      exact hfits

end SeriesImport

end Jellyrin.Xtream
