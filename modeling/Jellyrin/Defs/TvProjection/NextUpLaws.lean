import Jellyrin.Defs.TvProjection.NextUp
import Jellyrin.Defs.TvProjection.SeriesPageLaws

/-! When all requests for the next episodes read one sequence. -/

namespace Jellyrin.TvProjection

open Items

variable {pg : Postgres} {catalog : TvCatalog} {played : Uuid → Bool} {folder : Option Uuid}

structure Current (pg : Postgres) (catalog : TvCatalog) : Prop where
  upToDate : UpToDate pg catalog
  allCovered : pg.allCovered catalog = true
  series : ∀ row ∈ catalog.tables.series, catalog.tables.covered row.virtualFolderId = true
  members : ∀ member ∈ catalog.tables.members,
    catalog.tables.covered member.virtualFolderId = true
  /-- A table has no more rows than a `bigint` counts. -/
  bounded : catalog.tables.series.length < 2 ^ 63

def unplayedIn (catalog : TvCatalog) (played : Uuid → Bool) (folder : Option Uuid) :
    List TvSeriesMember :=
  (unplayed catalog played).filter fun member => inScope folder member.virtualFolderId

abbrev FirstEpisode (pg : Postgres) (members : List TvSeriesMember) (member : TvSeriesMember) :
    Prop :=
  IsFirst (·.seriesId) pg.compareMembers members member

def TvNextUpPage.Shows (page : TvNextUpPage) (ids : List Uuid) (includeTotal : Bool)
    (total : Nat) : Prop :=
  page.items.map (·.id) = ids ∧ (includeTotal = true → page.totalRecordCount = total)

/-- The requests read one sequence, of the first unplayed episode of every series. -/
def NextUpAgrees (pg : Postgres) (catalog : TvCatalog) (played : Uuid → Bool)
    (folder : Option Uuid) : Prop :=
  ∃ sequence : List Uuid,
    sequence.Perm ((firstOfKey (·.seriesId) pg.compareMembers
      (unplayedIn catalog played folder)).map (·.itemId)) ∧
    ∀ startIndex limit includeTotal,
      (pg.tvNextUpCandidatePage catalog played folder startIndex limit includeTotal).Shows
        (slice startIndex limit sequence) includeTotal sequence.length ∧
      (pg.fallbackNextUpPage catalog played folder startIndex limit includeTotal).Shows
        (slice startIndex limit sequence) includeTotal sequence.length ∧
      (pg.showsNextUp catalog played folder (some startIndex) none includeTotal).Shows
        (sequence.drop startIndex) includeTotal sequence.length

structure NextUpConsistent (pg : Postgres) (catalog : TvCatalog) (played : Uuid → Bool)
    (folder : Option Uuid) : Prop where
  /-- The first unplayed episode of a series in the folder is its first one of all folders. -/
  first : ∀ member, FirstEpisode pg (unplayedIn catalog played folder) member →
    FirstEpisode pg (unplayed catalog played) member
  /-- First unplayed episodes are in the folder just when they are episodes by their paths, and none
  of another series that has the same name by its path comes before them. -/
  shown : ∀ member, FirstEpisode pg (unplayed catalog played) member →
    (inScope folder member.virtualFolderId = true ↔
      isTvEpisode (candidateItem member) = true ∧
        ∀ other, FirstEpisode pg (unplayed catalog played) other →
          isTvEpisode (candidateItem other) = true →
          tvEpisodeSeriesKey (candidateItem other) = tvEpisodeSeriesKey (candidateItem member) →
          (compareTvEpisodeItems (candidateItem member) (candidateItem other)).isLE = true)
  /-- Where the projection answers, the series are in the order of their names by their paths. -/
  ordered : pg.nextUpCovered catalog folder = true →
    ∀ series ∈ catalog.tables.series, inScope folder series.virtualFolderId = true →
    ∀ other ∈ catalog.tables.series, inScope folder other.virtualFolderId = true →
    pg.compareSeries series other = .lt →
    ∀ member, pg.firstUnplayed catalog played series = some member →
    ∀ next, pg.firstUnplayed catalog played other = some next →
    (compareTvEpisodeItems (candidateItem member) (candidateItem next)).isLE = true

/-! The orders tell the rows apart. -/

instance : Std.TransCmp compareTvEpisodeItems := by
  refine transCmp_compareChain (fun cmp hcmp => ?_) inferInstance
  simp only [List.mem_cons, List.not_mem_nil, or_false] at hcmp
  obtain rfl | rfl | rfl | rfl := hcmp <;> infer_instance

theorem id_eq_of_compareTvEpisodeItems {a b : MediaItem} (h : compareTvEpisodeItems a b = .eq) :
    a.id = b.id := by
  have hids := (compareChain_eq_iff.mp h).2
  exact Std.compare_eq_iff_eq.mp hids

instance : Std.TransCmp pg.compareMembers := by
  refine transCmp_compareChain (fun cmp hcmp => ?_) inferInstance
  simp only [List.mem_cons, List.not_mem_nil, or_false] at hcmp
  obtain rfl | rfl | rfl := hcmp
  · infer_instance
  · infer_instance
  · exact transCmp_comp pg.compare TvSeriesMember.sortName

instance : Std.TransCmp pg.compareSeries := by
  refine transCmp_compareChain (fun cmp hcmp => ?_) inferInstance
  simp only [List.mem_cons, List.not_mem_nil, or_false] at hcmp
  obtain rfl | rfl | rfl := hcmp
  · exact transCmp_comp pg.compare fun row : TvSeriesRow => pg.lower row.seriesName
  · exact transCmp_comp pg.compare TvSeriesRow.seriesName
  · exact transCmp_comp pg.compare TvSeriesRow.seriesId

variable {member : TvSeriesMember}

theorem mem_unplayed :
    member ∈ unplayed catalog played ↔
      member ∈ catalog.tables.members ∧ played member.itemId = false := by
  rw [unplayed, List.mem_filter, Bool.not_eq_true']

theorem member_unique {other : TvSeriesMember} (hmember : member ∈ catalog.tables.members)
    (hother : other ∈ catalog.tables.members) (hid : member.itemId = other.itemId) :
    member = other :=
  List.inj_on_of_nodup_map catalog.keyed.2.2 hmember hother hid

theorem eq_of_compareMembers {other : TvSeriesMember} (hmember : member ∈ catalog.tables.members)
    (hother : other ∈ catalog.tables.members) (h : pg.compareMembers member other = .eq) :
    member = other := by
  have hids := (compareChain_eq_iff.mp h).2
  exact member_unique hmember hother (BitVec.eq_of_toNat_eq (Std.compare_eq_iff_eq.mp hids))

theorem eq_of_compareSeries {series other : TvSeriesRow} (hseries : series ∈ catalog.tables.series)
    (hother : other ∈ catalog.tables.series) (h : pg.compareSeries series other = .eq) :
    series = other := by
  obtain ⟨hcmps, hfolders⟩ := compareChain_eq_iff.mp h
  have hid := pg.eq_of_compare
    (hcmps _ (List.mem_cons_of_mem _ (List.mem_cons_of_mem _ List.mem_cons_self)))
  exact List.inj_on_of_nodup_map catalog.keyed.2.1 hseries hother
    (Prod.ext (BitVec.eq_of_toNat_eq (Std.compare_eq_iff_eq.mp hfolders)) hid)

/-! The candidates. -/

def candidates (pg : Postgres) (catalog : TvCatalog) (played : Uuid → Bool) :
    List TvSeriesMember :=
  firstOfKey (·.seriesId) pg.compareMembers (unplayed catalog played)

theorem mem_candidates :
    member ∈ candidates pg catalog played ↔ FirstEpisode pg (unplayed catalog played) member :=
  mem_firstOfKey fun _ ha _ hb =>
    eq_of_compareMembers (mem_unplayed.mp ha).1 (mem_unplayed.mp hb).1

theorem mem_candidatesIn :
    member ∈ firstOfKey (·.seriesId) pg.compareMembers (unplayedIn catalog played folder) ↔
      FirstEpisode pg (unplayedIn catalog played folder) member :=
  mem_firstOfKey fun _ ha _ hb => eq_of_compareMembers
    (mem_unplayed.mp (List.mem_of_mem_filter ha)).1 (mem_unplayed.mp (List.mem_of_mem_filter hb)).1

theorem member_of_candidate (h : member ∈ candidates pg catalog played) :
    member ∈ catalog.tables.members :=
  (mem_unplayed.mp (mem_candidates.mp h).1).1

def inPathOrder (members : List TvSeriesMember) : List MediaItem :=
  sortBy compareTvEpisodeItems (members.map candidateItem)

variable {members : List TvSeriesMember}

theorem strict_of_members (h : ∀ member ∈ members, member ∈ catalog.tables.members) :
    ∀ a ∈ members.map candidateItem, ∀ b ∈ members.map candidateItem,
      compareTvEpisodeItems a b = .eq → a = b := by
  intro a ha b hb heq
  obtain ⟨member, hmember, rfl⟩ := List.mem_map.mp ha
  obtain ⟨other, hother, rfl⟩ := List.mem_map.mp hb
  exact congrArg candidateItem
    (member_unique (h member hmember) (h other hother) (id_eq_of_compareTvEpisodeItems heq))

variable (played) in
theorem tvNextUpCandidateItems_perm (h : Current pg catalog) :
    (pg.tvNextUpCandidateItems catalog played).Perm
      ((candidates pg catalog played).map candidateItem) := by
  rw [Postgres.tvNextUpCandidateItems, h.allCovered, if_pos rfl]
  exact (sortBy_perm _ _).map candidateItem

def candidatesIn (pg : Postgres) (catalog : TvCatalog) (played : Uuid → Bool)
    (folder : Option Uuid) : List TvSeriesMember :=
  (candidates pg catalog played).filter fun member => inScope folder member.virtualFolderId

theorem fallbackNextUpPage_eq (h : Current pg catalog) (startIndex limit : Nat)
    (includeTotal : Bool) :
    pg.fallbackNextUpPage catalog played folder startIndex limit includeTotal =
      { items := slice startIndex limit (inPathOrder (candidatesIn pg catalog played folder))
        totalRecordCount :=
          if includeTotal then (inPathOrder (candidatesIn pg catalog played folder)).length else 0
        startIndex } := by
  have hitems : sortBy compareTvEpisodeItems ((pg.tvNextUpCandidateItems catalog played).filter
      fun item => inScope folder item.virtualFolderId) =
      inPathOrder (candidatesIn pg catalog played folder) := by
    have hfilter : ((candidates pg catalog played).map candidateItem).filter
        (fun item => inScope folder item.virtualFolderId) =
        (candidatesIn pg catalog played folder).map candidateItem := List.filter_map
    have hperm := ((tvNextUpCandidateItems_perm played h).filter
      fun item => inScope folder item.virtualFolderId).trans (List.Perm.of_eq hfilter)
    refine sortBy_eq_of_perm hperm fun a ha b hb => ?_
    exact strict_of_members (fun member hmember =>
      member_of_candidate (List.mem_of_mem_filter hmember)) a (hperm.mem_iff.mp ha) b
        (hperm.mem_iff.mp hb)
  rw [Postgres.fallbackNextUpPage, hitems]

def shownByPath (members : List TvSeriesMember) (member : TvSeriesMember) : Bool :=
  isTvEpisode (candidateItem member) && members.all fun other =>
    !(isTvEpisode (candidateItem other) &&
      tvEpisodeSeriesKey (candidateItem other) == tvEpisodeSeriesKey (candidateItem member)) ||
    (compareTvEpisodeItems (candidateItem member) (candidateItem other)).isLE

theorem shownByPath_eq_true :
    shownByPath members member = true ↔
      isTvEpisode (candidateItem member) = true ∧ ∀ other ∈ members,
        isTvEpisode (candidateItem other) = true →
        tvEpisodeSeriesKey (candidateItem other) = tvEpisodeSeriesKey (candidateItem member) →
        (compareTvEpisodeItems (candidateItem member) (candidateItem other)).isLE = true := by
  rw [shownByPath, Bool.and_eq_true, List.all_eq_true]
  refine and_congr_right fun _ => forall₂_congr fun other _ => ?_
  rw [Bool.or_eq_true, Bool.not_eq_true', Bool.and_eq_false_imp, beq_eq_false_iff_ne]
  constructor
  · rintro (hdiffers | hle) hepisode hkey
    · exact absurd hkey (hdiffers hepisode)
    · exact hle
  · intro hle
    by_cases hepisode : isTvEpisode (candidateItem other) = true
    · by_cases hkey : tvEpisodeSeriesKey (candidateItem other) =
          tvEpisodeSeriesKey (candidateItem member)
      · exact .inr (hle hepisode hkey)
      · exact .inl fun _ => hkey
    · exact .inl fun h => absurd h hepisode

variable (played) in
theorem nextBySeries_perm (h : Current pg catalog) :
    ((nextBySeries ((pg.tvNextUpCandidateItems catalog played).filter
      isTvEpisode)).values.filterMap id).Perm
      (((candidates pg catalog played).filter
        (shownByPath (candidates pg catalog played))).map candidateItem) := by
  have hitems := tvNextUpCandidateItems_perm played h
  have hmem : ∀ item, item ∈ (pg.tvNextUpCandidateItems catalog played).filter isTvEpisode ↔
      ∃ member ∈ candidates pg catalog played, candidateItem member = item ∧
        isTvEpisode item = true := by
    intro item
    rw [List.mem_filter, hitems.mem_iff, List.mem_map]
    exact ⟨fun ⟨⟨member, hmember, heq⟩, hepisode⟩ => ⟨member, hmember, heq, hepisode⟩,
      fun ⟨member, hmember, heq, hepisode⟩ => ⟨⟨member, hmember, heq⟩, hepisode⟩⟩
  have hstrict : ∀ a ∈ (pg.tvNextUpCandidateItems catalog played).filter isTvEpisode,
      ∀ b ∈ (pg.tvNextUpCandidateItems catalog played).filter isTvEpisode,
      compareTvEpisodeItems a b = .eq → a = b := by
    intro a ha b hb
    exact strict_of_members (fun member => member_of_candidate) a
      (hitems.mem_iff.mp (List.mem_of_mem_filter ha)) b
      (hitems.mem_iff.mp (List.mem_of_mem_filter hb))
  have hnodup : ((candidates pg catalog played).map candidateItem).Nodup := by
    refine List.Nodup.map_on (fun a ha b hb heq => ?_) nodup_firstOfKey.of_map
    exact member_unique (member_of_candidate ha) (member_of_candidate hb)
      (congrArg MediaItem.id heq)
  refine (List.perm_ext_iff_of_nodup nodup_gather_keepFirst.of_map
    (hnodup.sublist (List.filter_sublist.map _))).mpr fun item => ?_
  have hvalues : item ∈ (nextBySeries ((pg.tvNextUpCandidateItems catalog played).filter
      isTvEpisode)).values.filterMap id ↔
      IsFirst tvEpisodeSeriesKey compareTvEpisodeItems
        ((pg.tvNextUpCandidateItems catalog played).filter isTvEpisode) item := by
    rw [← mem_gather_keepFirst hstrict, List.mem_filterMap]
    exact ⟨fun ⟨_, hv, heq⟩ => heq ▸ hv, fun hv => ⟨_, hv, rfl⟩⟩
  refine hvalues.trans ?_
  rw [List.mem_map]
  constructor
  · rintro ⟨hitem, hall⟩
    obtain ⟨member, hmember, rfl, hepisode⟩ := (hmem item).mp hitem
    refine ⟨member, List.mem_filter.mpr ⟨hmember, shownByPath_eq_true.mpr ⟨hepisode, ?_⟩⟩, rfl⟩
    intro other hother hepisode' hkey
    exact hall _ ((hmem _).mpr ⟨other, hother, rfl, hepisode'⟩) hkey
  · rintro ⟨member, hmember, rfl⟩
    obtain ⟨hmember, hshown⟩ := List.mem_filter.mp hmember
    obtain ⟨hepisode, hall⟩ := shownByPath_eq_true.mp hshown
    refine ⟨(hmem _).mpr ⟨member, hmember, rfl, hepisode⟩, fun b hb hkey => ?_⟩
    obtain ⟨other, hother, rfl, hepisode'⟩ := (hmem b).mp hb
    exact hall other hother hepisode' hkey

theorem map_id_mediaItemsByIds (h : Current pg catalog)
    (hmembers : ∀ member ∈ members, member ∈ catalog.tables.members) :
    (mediaItemsByIds catalog (members.map (·.itemId))).map (·.id) = members.map (·.itemId) := by
  induction members with
  | nil => rfl
  | cons member members ih =>
    obtain ⟨hmember, hmembers⟩ := List.forall_mem_cons.mp hmembers
    obtain ⟨row, hrow, -, hepisode, hmade⟩ := (h.upToDate.written
      (h.members member hmember)).row_of_member hmember rfl
    obtain ⟨hid, -⟩ := Postgres.memberRow_eq_ok hmade
    have hvisible : row.missingSince.isNone = true := by
      simp only [Postgres.isEpisode, Postgres.isTvRow, Bool.and_eq_true] at hepisode
      exact hepisode.1.1
    have hfind : catalog.rows.find? (fun row =>
        row.item.id == member.itemId && row.missingSince.isNone) = some row := by
      refine find?_eq_some_of_unique hrow ?_ fun other hother hsame => ?_
      · rw [hid, beq_self_eq_true, hvisible, Bool.true_and]
      · rw [Bool.and_eq_true, beq_iff_eq] at hsame
        exact List.inj_on_of_nodup_map catalog.distinct hother hrow (hsame.1.trans hid)
    have hcons : mediaItemsByIds catalog ((member :: members).map (·.itemId)) =
        row.item :: mediaItemsByIds catalog (members.map (·.itemId)) := by
      rw [List.map_cons, mediaItemsByIds, List.filterMap_cons, hfind]
      rfl
    rw [hcons, List.map_cons, ih hmembers, List.map_cons, hid]

theorem exists_members_inPathOrder (members : List TvSeriesMember) :
    ∃ sorted : List TvSeriesMember, sorted.Perm members ∧
      inPathOrder members = sorted.map candidateItem := by
  refine ⟨sortBy (fun a b => compareTvEpisodeItems (candidateItem a) (candidateItem b)) members,
    sortBy_perm _ _, ?_⟩
  exact (List.map_insertionSort _ _ candidateItem members fun _ _ _ _ => Iff.rfl).symm

def shownCandidates (pg : Postgres) (catalog : TvCatalog) (played : Uuid → Bool) :
    List TvSeriesMember :=
  (candidates pg catalog played).filter (shownByPath (candidates pg catalog played))

variable (played folder) in
theorem showsNextUp_none (h : Current pg catalog) (startIndex : Nat) (includeTotal : Bool) :
    (pg.showsNextUp catalog played folder (some startIndex) none includeTotal).items.map (·.id) =
        ((inPathOrder (shownCandidates pg catalog played)).map (·.id)).drop startIndex ∧
      (pg.showsNextUp catalog played folder (some startIndex) none includeTotal).totalRecordCount =
        (inPathOrder (shownCandidates pg catalog played)).length := by
  have hperm := nextBySeries_perm played h
  have hitems : sortBy compareTvEpisodeItems ((nextBySeries
      ((pg.tvNextUpCandidateItems catalog played).filter isTvEpisode)).values.filterMap id) =
      inPathOrder (shownCandidates pg catalog played) := by
    refine sortBy_eq_of_perm hperm fun a ha b hb => ?_
    exact strict_of_members (fun member hmember =>
      member_of_candidate (List.mem_of_mem_filter hmember)) a (hperm.mem_iff.mp ha) b
        (hperm.mem_iff.mp hb)
  rw [Postgres.showsNextUp, hitems]
  obtain ⟨sorted, hsorted, horder⟩ :=
    exists_members_inPathOrder (shownCandidates pg catalog played)
  rw [horder]
  refine ⟨?_, rfl⟩
  have hids : ((sorted.map candidateItem).drop startIndex).map (·.id) =
      (sorted.drop startIndex).map (·.itemId) := by
    rw [← List.map_drop, List.map_map]
    rfl
  have hall : (sorted.map candidateItem).map (·.id) = sorted.map (·.itemId) := by
    rw [List.map_map]
    rfl
  rw [Option.getD_some, hall]
  refine (congrArg (fun ids => (mediaItemsByIds catalog ids).map (·.id)) hids).trans
    ((map_id_mediaItemsByIds h fun member hmember => ?_).trans List.map_drop)
  exact member_of_candidate (List.mem_of_mem_filter
    (hsorted.mem_iff.mp (List.mem_of_mem_drop hmember)))

/-! The page of the projection. -/

theorem firstUnplayed_eq_some {series : TvSeriesRow} :
    pg.firstUnplayed catalog played series = some member ↔
      (member ∈ unplayed catalog played ∧ member.seriesId = series.seriesId ∧
        member.virtualFolderId = series.virtualFolderId) ∧
      ∀ other ∈ unplayed catalog played, other.seriesId = series.seriesId →
        other.virtualFolderId = series.virtualFolderId →
        (pg.compareMembers member other).isLE = true := by
  have hmem : ∀ member, member ∈ catalog.tables.members.filter (fun member =>
      member.seriesId == series.seriesId && member.virtualFolderId == series.virtualFolderId &&
        !played member.itemId) ↔ member ∈ unplayed catalog played ∧
          member.seriesId = series.seriesId ∧ member.virtualFolderId = series.virtualFolderId := by
    intro member
    rw [List.mem_filter, mem_unplayed]
    simp only [Bool.and_eq_true, beq_iff_eq, Bool.not_eq_true']
    exact ⟨fun ⟨h, ⟨hid, hfolder⟩, hplayed⟩ => ⟨⟨h, hplayed⟩, hid, hfolder⟩,
      fun ⟨⟨h, hplayed⟩, hid, hfolder⟩ => ⟨h, ⟨hid, hfolder⟩, hplayed⟩⟩
  have hstrict : ∀ a ∈ catalog.tables.members.filter (fun member =>
      member.seriesId == series.seriesId && member.virtualFolderId == series.virtualFolderId &&
        !played member.itemId), ∀ b ∈ catalog.tables.members.filter (fun member =>
      member.seriesId == series.seriesId && member.virtualFolderId == series.virtualFolderId &&
        !played member.itemId), pg.compareMembers a b = .eq → a = b := fun a ha b hb =>
    eq_of_compareMembers (List.mem_of_mem_filter ha) (List.mem_of_mem_filter hb)
  rw [Postgres.firstUnplayed, head?_sortBy_eq_some_iff hstrict, hmem]
  refine and_congr_right fun _ => ⟨fun h other hother hid hfolder => ?_, fun h other hother => ?_⟩
  · exact h other ((hmem other).mpr ⟨hother, hid, hfolder⟩)
  · obtain ⟨hother, hid, hfolder⟩ := (hmem other).mp hother
    exact h other hother hid hfolder

theorem isSome_firstUnplayed {series : TvSeriesRow} :
    (pg.firstUnplayed catalog played series).isSome = true ↔
      ∃ member ∈ unplayed catalog played, member.seriesId = series.seriesId ∧
        member.virtualFolderId = series.virtualFolderId := by
  constructor
  · intro h
    obtain ⟨member, hfirst⟩ := Option.isSome_iff_exists.mp h
    obtain ⟨⟨hmember, hid, hfolder⟩, -⟩ := firstUnplayed_eq_some.mp hfirst
    exact ⟨member, hmember, hid, hfolder⟩
  · rintro ⟨member, hmember, hid, hfolder⟩
    obtain ⟨hmember, hplayed⟩ := mem_unplayed.mp hmember
    have hin : member ∈ catalog.tables.members.filter (fun member =>
        member.seriesId == series.seriesId && member.virtualFolderId == series.virtualFolderId &&
          !played member.itemId) := by
      refine List.mem_filter.mpr ⟨hmember, ?_⟩
      rw [hid, hfolder, hplayed, beq_self_eq_true, beq_self_eq_true]
      rfl
    rw [Postgres.firstUnplayed, List.isSome_head?, ne_eq]
    intro hempty
    have hsorted : member ∈ sortBy pg.compareMembers _ := mem_sortBy.mpr hin
    rw [hempty] at hsorted
    cases hsorted

theorem eligibleSeries_eq (h : Current pg catalog) :
    eligibleSeries catalog played folder = (catalog.tables.series.filter fun series =>
      inScope folder series.virtualFolderId).filter fun series =>
        (pg.firstUnplayed catalog played series).isSome := by
  rw [eligibleSeries, List.filter_filter]
  refine List.filter_congr fun series hseries => ?_
  have hcount := (h.upToDate.written (h.series series hseries)).episodeCount_pos_iff hseries rfl
  have hunplayed : (catalog.tables.members.any fun candidate =>
      candidate.seriesId == series.seriesId &&
        candidate.virtualFolderId == series.virtualFolderId && !played candidate.itemId) =
      (pg.firstUnplayed catalog played series).isSome := by
    rw [Bool.eq_iff_iff, isSome_firstUnplayed, List.any_eq_true]
    simp only [Bool.and_eq_true, beq_iff_eq, Bool.not_eq_true', mem_unplayed]
    exact ⟨fun ⟨member, hmember, ⟨hid, hfolder⟩, hplayed⟩ =>
        ⟨member, ⟨hmember, hplayed⟩, hid, hfolder⟩,
      fun ⟨member, ⟨hmember, hplayed⟩, hid, hfolder⟩ =>
        ⟨member, hmember, ⟨hid, hfolder⟩, hplayed⟩⟩
  rw [completed, hunplayed]
  cases hsome : (pg.firstUnplayed catalog played series).isSome with
  | true =>
    obtain ⟨member, hmember, hid, hfolder⟩ := isSome_firstUnplayed.mp hsome
    have hpositive : 0 < series.episodeCount :=
      hcount.mpr ⟨member, (mem_unplayed.mp hmember).1, hid, hfolder⟩
    simp [hpositive]
  | false =>
    -- Without an unplayed episode, a series that has episodes has played ones.
    cases hscope : inScope folder series.virtualFolderId with
    | false => simp
    | true =>
      by_cases hpositive : 0 < series.episodeCount
      · obtain ⟨member, hmember, hid, hfolder⟩ := hcount.mp hpositive
        have hplayed : played member.itemId = true := by
          rw [← hunplayed, List.any_eq_false] at hsome
          have hnot := hsome member hmember
          rw [hid, hfolder, beq_self_eq_true, beq_self_eq_true] at hnot
          simpa using hnot
        have haffected : affected catalog played folder series = true := by
          refine List.any_eq_true.mpr ⟨member, hmember, ?_⟩
          rw [hplayed, hid, hfolder, hscope, beq_self_eq_true, beq_self_eq_true]
          rfl
        simp [haffected]
      · simp [hpositive]

theorem slice_saturated {α : Type} {start limit : Nat} {l : List α} (h : l.length < 2 ^ 63) :
    slice (saturated start) (saturated limit) l = slice start limit l := by
  have hdrop : l.drop (saturated start) = l.drop start := by
    rw [saturated]
    obtain hstart | hstart := Nat.le_total start (2 ^ 63 - 1)
    · rw [min_eq_left hstart]
    · rw [min_eq_right hstart, List.drop_of_length_le (by omega),
        List.drop_of_length_le (by omega)]
  rw [slice, slice, hdrop, saturated, List.take_eq_take_iff, List.length_drop]
  omega

def inSeriesOrder (pg : Postgres) (catalog : TvCatalog) (played : Uuid → Bool)
    (folder : Option Uuid) : List TvSeriesMember :=
  (sortBy pg.compareSeries (catalog.tables.series.filter fun series =>
    inScope folder series.virtualFolderId)).filterMap (pg.firstUnplayed catalog played)

theorem strict_of_series {series : List TvSeriesRow}
    (h : ∀ row ∈ series, row ∈ catalog.tables.series) :
    ∀ a ∈ series, ∀ b ∈ series, pg.compareSeries a b = .eq → a = b :=
  fun a ha b hb => eq_of_compareSeries (h a ha) (h b hb)

theorem projectedNextUpPage_eq (h : Current pg catalog) (startIndex limit : Nat)
    (includeTotal : Bool) :
    pg.projectedNextUpPage catalog played folder startIndex limit includeTotal =
      { items := slice startIndex limit
          ((inSeriesOrder pg catalog played folder).map candidateItem)
        totalRecordCount :=
          if includeTotal then (inSeriesOrder pg catalog played folder).length else 0
        startIndex } := by
  have hlength : (inSeriesOrder pg catalog played folder).length < 2 ^ 63 := by
    refine lt_of_le_of_lt (List.length_filterMap_le _ _) (lt_of_le_of_lt ?_ h.bounded)
    rw [(sortBy_perm _ _).length_eq]
    exact List.length_filter_le _ _
  rw [Postgres.projectedNextUpPage]
  cases includeTotal with
  | false =>
    have hitems : (slice (saturated startIndex) (saturated limit)
        (inSeriesOrder pg catalog played folder)).map candidateItem =
        slice startIndex limit ((inSeriesOrder pg catalog played folder).map candidateItem) := by
      rw [slice_saturated hlength, map_slice]
    rw [← hitems]
    rfl
  | true =>
    have hsorted : sortBy pg.compareSeries (eligibleSeries catalog played folder) =
        (sortBy pg.compareSeries (catalog.tables.series.filter fun series =>
          inScope folder series.virtualFolderId)).filter fun series =>
            (pg.firstUnplayed catalog played series).isSome := by
      rw [eligibleSeries_eq h]
      exact sortBy_filter (strict_of_series fun row hrow => List.mem_of_mem_filter hrow) _
    have hfirst : (sortBy pg.compareSeries (eligibleSeries catalog played folder)).filterMap
        (pg.firstUnplayed catalog played) = inSeriesOrder pg catalog played folder := by
      rw [hsorted, List.filterMap_filter, inSeriesOrder]
      refine List.filterMap_congr fun series _ => ?_
      cases pg.firstUnplayed catalog played series <;> rfl
    have hsome : ∀ series ∈ sortBy pg.compareSeries (eligibleSeries catalog played folder),
        (pg.firstUnplayed catalog played series).isSome = true := by
      intro series hseries
      rw [hsorted] at hseries
      exact (List.mem_filter.mp hseries).2
    have hitems : ((slice (saturated startIndex) (saturated limit) (sortBy pg.compareSeries
        (eligibleSeries catalog played folder))).filterMap
          (pg.firstUnplayed catalog played)).map candidateItem =
        slice startIndex limit ((inSeriesOrder pg catalog played folder).map candidateItem) := by
      rw [filterMap_slice _ _ _ hsome, hfirst, slice_saturated hlength, map_slice]
    have htotal : (eligibleSeries catalog played folder).length =
        (inSeriesOrder pg catalog played folder).length := by
      rw [← hfirst, List.filterMap_length_eq_length.mpr hsome, (sortBy_perm _ _).length_eq]
    rw [← hitems, ← htotal]
    rfl

section Covered

variable (h : Current pg catalog) (hcovered : pg.nextUpCovered catalog folder = true)

include h hcovered

omit h in
theorem series_unique_of_nextUpCovered {series other : TvSeriesRow}
    (hseries : series ∈ catalog.tables.series) (hother : other ∈ catalog.tables.series)
    (hscope : inScope folder series.virtualFolderId = true)
    (hscope' : inScope folder other.virtualFolderId = true)
    (hid : series.seriesId = other.seriesId) : series = other := by
  simp only [Postgres.nextUpCovered, Bool.and_eq_true, Bool.not_eq_true', List.any_eq_false,
    decide_eq_true_iff, not_lt] at hcovered
  have hgroup := hcovered.2 _ (mem_groups_of_mem (List.mem_filter.mpr ⟨hother, hscope'⟩))
  exact eq_of_length_le_one hgroup
    (List.mem_filter.mpr ⟨List.mem_filter.mpr ⟨hseries, hscope⟩, decide_eq_true hid⟩)
    (List.mem_filter.mpr ⟨List.mem_filter.mpr ⟨hother, hscope'⟩, decide_eq_true rfl⟩)

theorem mem_inSeriesOrder :
    member ∈ inSeriesOrder pg catalog played folder ↔
      FirstEpisode pg (unplayedIn catalog played folder) member := by
  rw [inSeriesOrder, List.mem_filterMap]
  constructor
  · rintro ⟨series, hseries, hfirst⟩
    obtain ⟨hseries, hscope⟩ := List.mem_filter.mp (mem_sortBy.mp hseries)
    obtain ⟨⟨hmember, hid, hfolder⟩, hall⟩ := firstUnplayed_eq_some.mp hfirst
    refine ⟨List.mem_filter.mpr ⟨hmember, hfolder ▸ hscope⟩, fun other hother hsame => ?_⟩
    obtain ⟨hother, hscope'⟩ := List.mem_filter.mp hother
    have hotherMember := (mem_unplayed.mp hother).1
    -- Another episode of the series is in the folder of the series.
    obtain ⟨row, hrow, hrowFolder, hrowId⟩ := (h.upToDate.written
      (h.members other hotherMember)).series_of_member hotherMember rfl
    have hrowSeries : row = series := series_unique_of_nextUpCovered hcovered hrow hseries
      (hrowFolder ▸ hscope') hscope (hrowId.trans (hsame.trans hid))
    exact hall other hother (hsame.trans hid) (hrowFolder.symm.trans (hrowSeries ▸ rfl))
  · rintro ⟨hmember, hall⟩
    obtain ⟨hmember, hscope⟩ := List.mem_filter.mp hmember
    have hin := (mem_unplayed.mp hmember).1
    obtain ⟨series, hseries, hfolder, hid⟩ := (h.upToDate.written
      (h.members member hin)).series_of_member hin rfl
    have hscope' : inScope folder series.virtualFolderId = true := hfolder ▸ hscope
    refine ⟨series, mem_sortBy.mpr (List.mem_filter.mpr ⟨hseries, hscope'⟩),
      firstUnplayed_eq_some.mpr ⟨⟨hmember, hid.symm, hfolder.symm⟩, fun other hother hsame hother' =>
        hall other (List.mem_filter.mpr ⟨hother, hother' ▸ hscope'⟩) (hsame.trans hid)⟩⟩

omit h hcovered in
theorem pairwise_series : (sortBy pg.compareSeries (catalog.tables.series.filter fun series =>
    inScope folder series.virtualFolderId)).Pairwise fun a b => pg.compareSeries a b = .lt :=
  pairwise_lt_sortBy (strict_of_series fun _ hrow => List.mem_of_mem_filter hrow)
    (catalog.keyed.2.1.of_map.filter _)

omit h hcovered in
theorem nodup_inSeriesOrder : (inSeriesOrder pg catalog played folder).Nodup := by
  rw [inSeriesOrder, List.Nodup, List.pairwise_filterMap]
  refine pairwise_series.imp_of_mem fun {series other} hseries hother hless member hfirst next
    hnext heq => ?_
  have hseries := List.mem_of_mem_filter (mem_sortBy.mp hseries)
  have hother := List.mem_of_mem_filter (mem_sortBy.mp hother)
  obtain ⟨⟨-, hid, hfolder⟩, -⟩ := firstUnplayed_eq_some.mp hfirst
  obtain ⟨⟨-, hid', hfolder'⟩, -⟩ := firstUnplayed_eq_some.mp hnext
  have hsame : series = other := by
    refine List.inj_on_of_nodup_map catalog.keyed.2.1 hseries hother (Prod.ext ?_ ?_)
    · exact hfolder.symm.trans (heq ▸ hfolder')
    · exact hid.symm.trans (heq ▸ hid')
  rw [hsame] at hless
  have hself : pg.compareSeries other other = .eq := Std.ReflCmp.compare_self
  rw [hself] at hless
  cases hless

theorem inSeriesOrder_eq_iff (hmembers : ∀ member, member ∈ members ↔
      FirstEpisode pg (unplayedIn catalog played folder) member) (hnodup : members.Nodup) :
    (inSeriesOrder pg catalog played folder).map candidateItem = inPathOrder members ↔
      ∀ series ∈ catalog.tables.series, inScope folder series.virtualFolderId = true →
      ∀ other ∈ catalog.tables.series, inScope folder other.virtualFolderId = true →
      pg.compareSeries series other = .lt →
      ∀ member, pg.firstUnplayed catalog played series = some member →
      ∀ next, pg.firstUnplayed catalog played other = some next →
      (compareTvEpisodeItems (candidateItem member) (candidateItem next)).isLE = true := by
  have hperm : (inSeriesOrder pg catalog played folder).Perm members :=
    (List.perm_ext_iff_of_nodup nodup_inSeriesOrder hnodup).mpr fun member =>
      (mem_inSeriesOrder h hcovered).trans (hmembers member).symm
  have hin : ∀ member ∈ inSeriesOrder pg catalog played folder,
      member ∈ catalog.tables.members := fun member hmember =>
    (mem_unplayed.mp (List.mem_of_mem_filter
      ((mem_inSeriesOrder h hcovered).mp hmember).1)).1
  have hsort : inPathOrder members =
      sortBy compareTvEpisodeItems ((inSeriesOrder pg catalog played folder).map candidateItem) :=
    (sortBy_eq_of_perm (hperm.map candidateItem) (strict_of_members hin)).symm
  have hpairs : (inSeriesOrder pg catalog played folder).map candidateItem =
      inPathOrder members ↔
      ((inSeriesOrder pg catalog played folder).map candidateItem).Pairwise fun a b =>
        (compareTvEpisodeItems a b).isLE = true := by
    rw [hsort]
    constructor
    · intro heq
      rw [heq]
      exact pairwise_sortBy _ _
    · exact fun hsorted => hsorted.insertionSort_eq.symm
  rw [hpairs, List.pairwise_map, inSeriesOrder, List.pairwise_filterMap,
    pairwise_iff_of_strict pairwise_series]
  simp only [mem_sortBy, List.mem_filter]
  constructor
  · intro hall series hseries hscope other hother hscope' hless member hmember next hnext
    exact hall series ⟨hseries, hscope⟩ other ⟨hother, hscope'⟩ hless member hmember next hnext
  · intro hall series hseries other hother hless member hmember next hnext
    exact hall series hseries.1 hseries.2 other hother.1 hother.2 hless member hmember next hnext

end Covered

/-! One sequence. -/

theorem nodup_candidatesIn : (candidatesIn pg catalog played folder).Nodup :=
  nodup_firstOfKey.of_map.filter _

theorem map_id_inPathOrder_perm (members : List TvSeriesMember) :
    ((inPathOrder members).map (·.id)).Perm (members.map (·.itemId)) := by
  have hperm := (sortBy_perm compareTvEpisodeItems (members.map candidateItem)).map (·.id)
  rw [List.map_map] at hperm
  exact hperm

theorem eq_of_map_itemId {others : List TvSeriesMember}
    (hmembers : ∀ member ∈ members, member ∈ catalog.tables.members)
    (hothers : ∀ member ∈ others, member ∈ catalog.tables.members)
    (h : members.map (·.itemId) = others.map (·.itemId)) : members = others := by
  induction members generalizing others with
  | nil =>
    cases others with
    | nil => rfl
    | cons other others => cases h
  | cons member members ih =>
    cases others with
    | nil => cases h
    | cons other others =>
      obtain ⟨hhead, htail⟩ := List.cons_eq_cons.mp h
      obtain ⟨hmember, hmembers⟩ := List.forall_mem_cons.mp hmembers
      obtain ⟨hother, hothers⟩ := List.forall_mem_cons.mp hothers
      rw [member_unique hmember hother hhead, ih hmembers hothers htail]

theorem mem_iff_of_perm {others : List TvSeriesMember}
    (hmembers : ∀ member ∈ members, member ∈ catalog.tables.members)
    (hothers : ∀ member ∈ others, member ∈ catalog.tables.members)
    (hperm : (members.map (·.itemId)).Perm (others.map (·.itemId)))
    (hmember : member ∈ catalog.tables.members) : member ∈ members ↔ member ∈ others := by
  have hmem : ∀ {l : List TvSeriesMember}, (∀ other ∈ l, other ∈ catalog.tables.members) →
      (member ∈ l ↔ member.itemId ∈ l.map (·.itemId)) := by
    intro l hl
    refine ⟨List.mem_map_of_mem, fun h => ?_⟩
    obtain ⟨other, hother, hid⟩ := List.mem_map.mp h
    exact member_unique (hl other hother) hmember hid ▸ hother
  rw [hmem hmembers, hmem hothers, hperm.mem_iff]

theorem mem_candidatesIn_iff
    (hfirst : ∀ member, FirstEpisode pg (unplayedIn catalog played folder) member →
      FirstEpisode pg (unplayed catalog played) member) (member : TvSeriesMember) :
    member ∈ candidatesIn pg catalog played folder ↔
      FirstEpisode pg (unplayedIn catalog played folder) member := by
  rw [candidatesIn, List.mem_filter, mem_candidates]
  constructor
  · rintro ⟨⟨hmember, hall⟩, hscope⟩
    exact ⟨List.mem_filter.mpr ⟨hmember, hscope⟩, fun other hother =>
      hall other (List.mem_of_mem_filter hother)⟩
  · intro h
    exact ⟨hfirst member h, (List.mem_filter.mp h.1).2⟩

/-- The requests agree just when nothing sets the projection and the paths apart. -/
theorem next_up_agrees_iff (h : Current pg catalog) :
    NextUpAgrees pg catalog played folder ↔ NextUpConsistent pg catalog played folder := by
  constructor
  · rintro ⟨sequence, hperm, hpages⟩
    have hcandidates : ∀ member ∈ candidatesIn pg catalog played folder,
        member ∈ catalog.tables.members := fun member hmember =>
      member_of_candidate (List.mem_of_mem_filter hmember)
    -- Pages that are long enough show all there is.
    have hfallback : (inPathOrder (candidatesIn pg catalog played folder)).map (·.id) =
        sequence := by
      obtain ⟨-, ⟨hitems, htotal⟩, -⟩ := hpages 0
        (inPathOrder (candidatesIn pg catalog played folder)).length true
      rw [fallbackNextUpPage_eq h] at hitems htotal
      have hlength : (inPathOrder (candidatesIn pg catalog played folder)).length =
          sequence.length := htotal rfl
      simp only [slice, List.drop_zero, List.take_length] at hitems
      rw [hitems, hlength, List.take_length]
    have hshown : (inPathOrder (shownCandidates pg catalog played)).map (·.id) = sequence := by
      obtain ⟨-, -, hitems, -⟩ := hpages 0 0 true
      rw [(showsNextUp_none played folder h 0 true).1] at hitems
      exact hitems
    have hfirst : ∀ member, FirstEpisode pg (unplayedIn catalog played folder) member →
        FirstEpisode pg (unplayed catalog played) member := by
      intro member hmember
      have hin := (mem_unplayed.mp (List.mem_of_mem_filter hmember.1)).1
      have hsame := mem_iff_of_perm hcandidates (fun other hother => (mem_unplayed.mp
        (List.mem_of_mem_filter (mem_candidatesIn.mp hother).1)).1)
        ((map_id_inPathOrder_perm _).symm.trans (hfallback ▸ hperm)) hin
      exact mem_candidates.mp
        (List.mem_of_mem_filter (hsame.mpr (mem_candidatesIn.mpr hmember)))
    refine ⟨hfirst, fun member hmember => ?_, fun hcovered => ?_⟩
    · have hcandidate := mem_candidates.mpr hmember
      have hsame : member ∈ candidatesIn pg catalog played folder ↔
          member ∈ shownCandidates pg catalog played := mem_iff_of_perm hcandidates
        (fun other hother => member_of_candidate (List.mem_of_mem_filter hother))
        ((map_id_inPathOrder_perm _).symm.trans
          ((List.Perm.of_eq (hfallback.trans hshown.symm)).trans (map_id_inPathOrder_perm _)))
        (member_of_candidate hcandidate)
      rw [candidatesIn, shownCandidates, List.mem_filter, List.mem_filter,
        and_iff_right hcandidate, and_iff_right hcandidate, shownByPath_eq_true] at hsame
      simpa only [mem_candidates] using hsame
    · have hsame : (inSeriesOrder pg catalog played folder).map (·.itemId) = sequence := by
        obtain ⟨⟨hitems, -⟩, -⟩ := hpages 0 (max sequence.length
          (inSeriesOrder pg catalog played folder).length) false
        rw [Postgres.tvNextUpCandidatePage, if_pos hcovered, projectedNextUpPage_eq h] at hitems
        simp only [slice, List.drop_zero] at hitems
        rw [List.take_of_length_le (by rw [List.length_map]; exact le_max_right _ _),
          List.take_of_length_le (le_max_left _ _), List.map_map] at hitems
        exact hitems
      obtain ⟨sorted, hsorted, horder⟩ :=
        exists_members_inPathOrder (candidatesIn pg catalog played folder)
      have hids : (inSeriesOrder pg catalog played folder).map (·.itemId) =
          sorted.map (·.itemId) := by
        rw [hsame, ← hfallback, horder, List.map_map]
        rfl
      have hmem := mem_candidatesIn_iff hfirst
      have hin : ∀ member ∈ inSeriesOrder pg catalog played folder,
          member ∈ catalog.tables.members := fun member hmember =>
        (mem_unplayed.mp (List.mem_of_mem_filter
          ((mem_inSeriesOrder h hcovered).mp hmember).1)).1
      have hequal : inSeriesOrder pg catalog played folder = sorted :=
        eq_of_map_itemId hin (fun member hmember =>
          hcandidates member (hsorted.mem_iff.mp hmember)) hids
      refine (inSeriesOrder_eq_iff h hcovered hmem nodup_candidatesIn).mp ?_
      rw [hequal, horder]
  · intro hconsistent
    have hmem := mem_candidatesIn_iff hconsistent.first
    have hshown : shownCandidates pg catalog played = candidatesIn pg catalog played folder := by
      refine List.filter_congr fun member hmember => ?_
      rw [Bool.eq_iff_iff, shownByPath_eq_true,
        hconsistent.shown member (mem_candidates.mp hmember)]
      simp only [mem_candidates]
    refine ⟨(inPathOrder (candidatesIn pg catalog played folder)).map (·.id), ?_,
      fun startIndex limit includeTotal => ?_⟩
    · refine (map_id_inPathOrder_perm _).trans (List.Perm.map _ ?_)
      exact (List.perm_ext_iff_of_nodup nodup_candidatesIn nodup_firstOfKey.of_map).mpr
        fun member => (hmem member).trans mem_candidatesIn.symm
    have hfallback : (pg.fallbackNextUpPage catalog played folder startIndex limit
        includeTotal).Shows (slice startIndex limit
          ((inPathOrder (candidatesIn pg catalog played folder)).map (·.id))) includeTotal
          ((inPathOrder (candidatesIn pg catalog played folder)).map (·.id)).length := by
      rw [fallbackNextUpPage_eq h, List.length_map]
      exact ⟨map_slice _ _ _ _, fun htotal => by rw [htotal, if_pos rfl]⟩
    refine ⟨?_, hfallback, ?_⟩
    · rw [Postgres.tvNextUpCandidatePage]
      split
      · rename_i hcovered
        have hsame := (inSeriesOrder_eq_iff h hcovered hmem nodup_candidatesIn).mpr
          (hconsistent.ordered hcovered)
        rw [projectedNextUpPage_eq h, hsame, List.length_map]
        refine ⟨map_slice _ _ _ _, fun htotal => ?_⟩
        rw [htotal, if_pos rfl, ← hsame, List.length_map]
      · exact hfallback
    · obtain ⟨hitems, htotal⟩ :=
        showsNextUp_none played folder h startIndex includeTotal
      rw [hshown] at hitems htotal
      exact ⟨hitems, fun _ => htotal.trans (List.length_map _).symm⟩

theorem current_oneEpisode : Current plainPostgres oneEpisode where
  upToDate := upToDate_oneEpisode
  allCovered := by decide
  series := by decide
  members := by decide
  bounded := by decide

theorem next_up_agrees_of_one_episode :
    NextUpAgrees plainPostgres oneEpisode (fun _ => false) none ↔
      NextUpConsistent plainPostgres oneEpisode (fun _ => false) none :=
  next_up_agrees_iff current_oneEpisode

/-- Asked for the films, a request without a limit shows the episode of the shows. -/
theorem next_up_without_limit_ignores_the_folder :
    Current plainPostgres oneEpisode ∧
      ¬NextUpAgrees plainPostgres oneEpisode (fun _ => false) (some films.id) := by
  refine ⟨current_oneEpisode, ?_⟩
  rintro ⟨sequence, hperm, hpages⟩
  have hnone : firstOfKey (·.seriesId) plainPostgres.compareMembers
      (unplayedIn oneEpisode (fun _ => false) (some films.id)) = [] := by decide
  rw [hnone] at hperm
  have hempty : sequence = [] := hperm.eq_nil
  have htotal := (hpages 0 0 true).2.2.2 rfl
  have hshown : (plainPostgres.showsNextUp oneEpisode (fun _ => false) (some films.id) (some 0) none
      true).totalRecordCount = 1 := by decide
  rw [hshown, hempty] at htotal
  cases htotal

end Jellyrin.TvProjection
