import Jellyrin.Defs.Data.FirstRows
import Jellyrin.Defs.TvProjection.CatalogLaws
import Jellyrin.Defs.TvProjection.SeriesPage

/-! When the projection answers as the rows of the items do. -/

namespace Jellyrin.TvProjection

open Items

variable {pg : Postgres} {catalog : TvCatalog} {folder : Option Uuid}

def AnswersAsLive (pg : Postgres) (catalog : TvCatalog) (folder : Option Uuid) : Prop :=
  ∀ startIndex limit includeTotalRecordCount filter page,
    pg.tvSeriesCatalogSearchPage catalog folder startIndex limit includeTotalRecordCount filter =
      .ok page →
    ∃ live, pg.tvSeriesCatalogPageFromLive catalog folder startIndex limit (namePatterns filter) =
        .ok (some live) ∧
      page = some (if includeTotalRecordCount then live else live.withoutTotal)

namespace Postgres

theorem eq_of_compareKeys {a b : TvSeriesCatalogKey} (h : pg.compareKeys a b = .eq) : a = b := by
  obtain ⟨hnames, hids⟩ := compareChain_eq_iff.mp h
  have hname := pg.eq_of_compare (hnames _ (List.mem_cons_of_mem _ List.mem_cons_self))
  have hid := pg.eq_of_compare hids
  cases a
  cases b
  cases hname
  cases hid
  rfl

instance : Std.TransCmp pg.compareKeys := by
  refine transCmp_compareChain (fun cmp hcmp => ?_) ?_
  · simp only [List.mem_cons, List.not_mem_nil, or_false] at hcmp
    obtain rfl | rfl := hcmp
    · exact transCmp_comp pg.compare fun key : TvSeriesCatalogKey => pg.lower key.name
    · exact transCmp_comp pg.compare TvSeriesCatalogKey.name
  · exact transCmp_comp pg.compare TvSeriesCatalogKey.id

instance : Std.TransCmp pg.compareRows := by
  refine transCmp_compareChain (fun cmp hcmp => ?_) inferInstance
  simp only [List.mem_cons, List.not_mem_nil, or_false] at hcmp
  obtain rfl | rfl := hcmp
  · exact transCmp_comp pg.compare fun row : MediaItemRow => pg.lower row.item.name
  · exact transCmp_comp pg.compare fun row : MediaItemRow => row.item.name

theorem eq_of_compareRows {a b : MediaItemRow} (ha : a ∈ catalog.rows) (hb : b ∈ catalog.rows)
    (h : pg.compareRows a b = .eq) : a = b := by
  have hids := (compareChain_eq_iff.mp h).2
  refine List.inj_on_of_nodup_map catalog.distinct ha hb (BitVec.eq_of_toNat_eq ?_)
  exact compare_eq_iff_eq.mp hids

end Postgres

theorem mem_coveredSeries {row : TvSeriesRow} :
    row ∈ coveredSeries catalog.tables ↔
      row ∈ catalog.tables.series ∧ catalog.tables.covered row.virtualFolderId = true :=
  List.mem_filter

theorem projectedEpisodes_nodup (seriesIds : List String) :
    (projectedEpisodes catalog folder seriesIds).Nodup := by
  have hitems : ∀ members : List TvSeriesMember,
      (members.filterMap fun member => catalog.rows.find? fun row =>
        row.item.id == member.itemId && row.missingSince.isNone) =
      (members.map (·.itemId)).filterMap fun id => catalog.rows.find? fun row =>
        row.item.id == id && row.missingSince.isNone := fun members => by
    rw [List.filterMap_map]
    rfl
  rw [projectedEpisodes, hitems]
  refine List.Nodup.filterMap (fun id other row hid hother => ?_)
    (catalog.keyed.2.2.sublist (List.filter_sublist.map _))
  have hid := List.find?_some hid
  have hother := List.find?_some hother
  rw [Bool.and_eq_true, beq_iff_eq] at hid hother
  exact hid.1.symm.trans hother.1

section Projected

variable (hcovered : pg.projectionCovered catalog folder = true)

include hcovered

theorem series_unique {row other : TvSeriesRow} (hrow : row ∈ coveredSeries catalog.tables)
    (hother : other ∈ coveredSeries catalog.tables)
    (hscope : inScope folder row.virtualFolderId = true)
    (hscope' : inScope folder other.virtualFolderId = true) (hid : row.seriesId = other.seriesId) :
    row = other := by
  cases folder with
  | some id =>
    have hsame : row.virtualFolderId = other.virtualFolderId :=
      (beq_iff_eq.mp hscope).symm.trans (beq_iff_eq.mp hscope')
    exact List.inj_on_of_nodup_map catalog.keyed.2.1 (mem_coveredSeries.mp hrow).1
      (mem_coveredSeries.mp hother).1 (Prod.ext hsame hid)
  | none =>
    simp only [Postgres.projectionCovered, Bool.and_eq_true, Bool.not_eq_true', List.any_eq_false,
      decide_eq_true_iff, not_lt] at hcovered
    have hgroup := hcovered.2 _ (mem_groups_of_mem hother)
    exact eq_of_length_le_one hgroup (List.mem_filter.mpr ⟨hrow, decide_eq_true hid⟩)
      (List.mem_filter.mpr ⟨hother, decide_eq_true rfl⟩)

theorem seriesId_nodup :
    (((coveredSeries catalog.tables).filter fun row => inScope folder row.virtualFolderId).map
      (·.seriesId)).Nodup := by
  refine List.Nodup.map_on ?_ ((catalog.keyed.2.1.of_map.filter _).filter _)
  intro row hrow other hother hid
  obtain ⟨hrow, hscope⟩ := List.mem_filter.mp hrow
  obtain ⟨hother, hscope'⟩ := List.mem_filter.mp hother
  exact series_unique hcovered hrow hother hscope hscope' hid

theorem selectedSeries_nodup (patterns : TvSeriesCatalogNamePatterns) :
    ((pg.selectedSeries catalog folder patterns).map (·.seriesId)).Nodup := by
  refine (seriesId_nodup hcovered).sublist (List.Sublist.map _ ?_)
  exact List.monotone_filter_right _ fun row hrow => (Bool.and_eq_true_iff.mp hrow).1

theorem covered_of_source (hanchor : folder = none → ∀ row ∈ catalog.rows,
      pg.isAnchor row = true → pg.isForeign catalog row = false)
    {source : MediaItemRow} (hsource : source ∈ pg.seriesSource catalog folder) :
    catalog.tables.covered source.item.virtualFolderId = true := by
  obtain ⟨hrow, hscope⟩ := List.mem_filter.mp hsource
  obtain ⟨hscope, hkind⟩ := Bool.and_eq_true_iff.mp hscope
  cases folder with
  | some id =>
    rw [← beq_iff_eq.mp hscope]
    exact hcovered
  | none =>
    simp only [Postgres.projectionCovered, Bool.and_eq_true, Bool.not_eq_true', List.any_eq_false,
      not_and, Bool.not_eq_false] at hcovered
    obtain ⟨⟨hfolders, hepisodes⟩, -⟩ := hcovered
    obtain ⟨own, hown, hid⟩ := List.mem_map.mp (catalog.inFolders source hrow)
    rw [← hid]
    refine hfolders own hown (eq_true_of_ne_false fun hforeign => ?_)
    obtain hepisode | hkind := Bool.or_eq_true_iff.mp hkind
    · refine hepisodes own hown hforeign (List.any_eq_true.mpr ⟨source, hrow, ?_⟩)
      rw [hid, beq_self_eq_true, hepisode, Bool.true_and]
    · have hnot := hanchor rfl source hrow hkind
      rw [Postgres.isForeign, List.any_eq_false] at hnot
      refine hnot own hown ?_
      rw [hid, beq_self_eq_true, hforeign, Bool.true_and, Bool.not_false]

end Projected

def seriesSources (pg : Postgres) (catalog : TvCatalog) (row : TvSeriesRow) : List MediaItemRow :=
  (pg.folderSources catalog.rows row.virtualFolderId).filter (pg.seriesId · = some row.seriesId)

section Covered

variable (hup : UpToDate pg catalog) (hcovered : pg.projectionCovered catalog folder = true)
  (hsources : ∀ source ∈ pg.seriesSource catalog folder,
    catalog.tables.covered source.item.virtualFolderId = true)

include hup hcovered hsources

omit hcovered in
theorem exists_series {source : MediaItemRow} (hsource : source ∈ pg.seriesSource catalog folder) :
    ∃ row ∈ coveredSeries catalog.tables, row.virtualFolderId = source.item.virtualFolderId ∧
      inScope folder row.virtualFolderId = true ∧ pg.seriesId source = some row.seriesId := by
  have hfolder := hsources source hsource
  obtain ⟨hrow, hscope⟩ := List.mem_filter.mp hsource
  obtain ⟨hscope, hkind⟩ := Bool.and_eq_true_iff.mp hscope
  obtain ⟨row, hseries, hsame, hid⟩ := (hup.written hfolder).series_of_source
    (Postgres.mem_folderSources.mpr ⟨hrow, rfl, hkind⟩)
  exact ⟨row, mem_coveredSeries.mpr ⟨hseries, hsame ▸ hfolder⟩, hsame, hsame ▸ hscope, hid⟩

theorem filter_seriesSource {row : TvSeriesRow} (hrow : row ∈ coveredSeries catalog.tables)
    (hscope : inScope folder row.virtualFolderId = true) :
    (pg.seriesSource catalog folder).filter (pg.seriesId · = some row.seriesId) =
      seriesSources pg catalog row := by
  rw [seriesSources, Postgres.folderSources, Postgres.seriesSource, List.filter_filter,
    List.filter_filter]
  refine List.filter_congr fun source hsource => ?_
  rw [Bool.eq_iff_iff]
  simp only [Bool.and_eq_true, decide_eq_true_iff, beq_iff_eq]
  constructor
  · rintro ⟨hid, hsourceScope, hkind⟩
    obtain ⟨other, hother, hfolder, hotherScope, hotherId⟩ := exists_series hup hsources
      (List.mem_filter.mpr ⟨hsource, Bool.and_eq_true_iff.mpr ⟨hsourceScope, hkind⟩⟩)
    have hsame : row.seriesId = other.seriesId := Option.some_inj.mp (hid.symm.trans hotherId)
    rw [series_unique hcovered hrow hother hscope hotherScope hsame]
    exact ⟨hotherId, hfolder.symm, hkind⟩
  · rintro ⟨hid, hfolder, hkind⟩
    exact ⟨hid, hfolder ▸ hscope, hkind⟩

theorem row_of_group {group : Option String × List MediaItemRow}
    (hgroup : group ∈ groups pg.seriesId (pg.seriesSource catalog folder)) :
    ∃ row ∈ coveredSeries catalog.tables, inScope folder row.virtualFolderId = true ∧
      group = (some row.seriesId, seriesSources pg catalog row) := by
  obtain ⟨⟨source, hsource, hid⟩, hrows⟩ := mem_groups.mp hgroup
  obtain ⟨row, hrow, -, hscope, hseries⟩ := exists_series hup hsources hsource
  have hkey : group.1 = some row.seriesId := hid.symm.trans hseries
  refine ⟨row, hrow, hscope, Prod.ext hkey ?_⟩
  rw [hrows, hkey, filter_seriesSource hup hcovered hsources hrow hscope]

theorem group_of_row {row : TvSeriesRow} (hrow : row ∈ coveredSeries catalog.tables)
    (hscope : inScope folder row.virtualFolderId = true) :
    (some row.seriesId, seriesSources pg catalog row) ∈
      groups pg.seriesId (pg.seriesSource catalog folder) := by
  obtain ⟨hseries, hfolder⟩ := mem_coveredSeries.mp hrow
  obtain ⟨⟨source, hsource, hid⟩, -⟩ := (hup.written hfolder).source_of_series hseries rfl
  obtain ⟨hsource, hsame, hkind⟩ := Postgres.mem_folderSources.mp hsource
  refine mem_groups.mpr ⟨⟨source, List.mem_filter.mpr ⟨hsource, ?_⟩, hid⟩, ?_⟩
  · rw [hsame, hscope, hkind, Bool.true_and]
  · exact (filter_seriesSource hup hcovered hsources hrow hscope).symm

theorem groups_perm :
    (groups pg.seriesId (pg.seriesSource catalog folder)).Perm
      (((coveredSeries catalog.tables).filter fun row => inScope folder row.virtualFolderId).map
        fun row => (some row.seriesId, seriesSources pg catalog row)) := by
  have hnodup := seriesId_nodup hcovered
  rw [List.perm_ext_iff_of_nodup (nodup_groups _ _).of_map]
  · intro group
    rw [List.mem_map]
    constructor
    · intro hgroup
      obtain ⟨row, hrow, hscope, heq⟩ := row_of_group hup hcovered hsources hgroup
      exact ⟨row, List.mem_filter.mpr ⟨hrow, hscope⟩, heq.symm⟩
    · rintro ⟨row, hrow, rfl⟩
      obtain ⟨hrow, hscope⟩ := List.mem_filter.mp hrow
      exact group_of_row hup hcovered hsources hrow hscope
  · refine List.Nodup.of_map (fun group => group.1) ?_
    rw [List.map_map]
    have hsome := hnodup.map (Option.some_injective _)
    rw [List.map_map] at hsome
    exact hsome

theorem selectedGroups_perm (patterns : TvSeriesCatalogNamePatterns) :
    (pg.selectedGroups catalog folder patterns).Perm
      ((pg.selectedSeries catalog folder patterns).map fun row =>
        pg.seriesGroup catalog (some row.seriesId, seriesSources pg catalog row)) := by
  have hgroups := ((groups_perm hup hcovered hsources).map (pg.seriesGroup catalog)).filter
    fun group => pg.nameMatches patterns group.seriesName
  refine hgroups.trans (List.Perm.of_eq ?_)
  rw [List.map_map, List.filter_map, List.filter_filter, Postgres.selectedSeries]
  refine congrArg _ (List.filter_congr fun row hrow => ?_)
  obtain ⟨hseries, hfolder⟩ := mem_coveredSeries.mp hrow
  have hname := ((hup.written hfolder).source_of_series hseries rfl).2
  rw [Bool.and_comm]
  exact congrArg (inScope folder row.virtualFolderId && pg.nameMatches patterns ·) hname

omit hup hsources in
theorem projectedKeys_eq (patterns : TvSeriesCatalogNamePatterns) :
    (groups (·.seriesId) (pg.selectedSeries catalog folder patterns)).filterMap pg.projectedKey =
      (pg.selectedSeries catalog folder patterns).map fun row => ⟨row.seriesId, row.seriesName⟩ := by
  rw [groups_of_nodup (selectedSeries_nodup hcovered patterns), List.filterMap_map,
    ← List.filterMap_eq_map]
  rfl

theorem liveKeys_eq (patterns : TvSeriesCatalogNamePatterns) :
    pg.liveKeys catalog folder patterns = pg.projectedKeys catalog folder patterns ∧
      (pg.selectedGroups catalog folder patterns).length =
        (pg.selectedSeries catalog folder patterns).length := by
  have hgroups := selectedGroups_perm hup hcovered hsources patterns
  refine ⟨?_, hgroups.length_eq.trans (List.length_map _)⟩
  rw [Postgres.liveKeys, Postgres.projectedKeys, projectedKeys_eq hcovered]
  refine sortBy_eq_of_perm ((hgroups.filterMap groupKey).trans (List.Perm.of_eq ?_))
    fun _ _ _ _ => Postgres.eq_of_compareKeys
  rw [List.filterMap_map, ← List.filterMap_eq_map]
  refine List.filterMap_congr fun row hrow => ?_
  obtain ⟨hseries, hfolder⟩ := mem_coveredSeries.mp (List.mem_of_mem_filter hrow)
  have hname : pg.firstName (seriesSources pg catalog row) = some row.seriesName :=
    ((hup.written hfolder).source_of_series hseries rfl).2
  simp only [Function.comp_apply, groupKey, Postgres.seriesGroup, hname, Option.bind_some,
    Option.map_some]

omit hcovered in
theorem isInvalid_eq_false {source : MediaItemRow}
    (hsource : source ∈ pg.seriesSource catalog folder) : pg.isInvalid source = false := by
  obtain ⟨hrow, hkind⟩ := List.mem_filter.mp hsource
  exact (hup.written (hsources source hsource)).isInvalid_eq_false
    (Postgres.mem_folderSources.mpr ⟨hrow, rfl, (Bool.and_eq_true_iff.mp hkind).2⟩)

omit hcovered hsources in
theorem names_agree {row : TvSeriesRow} (hrow : row ∈ coveredSeries catalog.tables) :
    differ (pg.firstName (seriesSources pg catalog row)) ((pg.anchorName
      (seriesSources pg catalog row)).or (maxOf pg.compare
        ((seriesSources pg catalog row).filterMap pg.seriesName))) = false := by
  obtain ⟨hseries, hfolder⟩ := mem_coveredSeries.mp hrow
  have hwritten := hup.written hfolder
  obtain ⟨⟨source, hsource, hid⟩, -⟩ := hwritten.source_of_series hseries rfl
  have hname : ∀ other ∈ seriesSources pg catalog row, (pg.seriesName other).isSome = true := by
    intro other hother
    have hvalid := hwritten.isInvalid_eq_false (List.mem_of_mem_filter hother)
    simp only [Postgres.isInvalid, Bool.or_eq_false_iff] at hvalid
    cases hnone : pg.seriesName other with
    | none =>
      rw [hnone] at hvalid
      exact absurd hvalid.2 (by decide)
    | some name => rfl
  have hgroup : seriesSources pg catalog row = (pg.folderSources catalog.rows
      row.virtualFolderId).filter (pg.seriesId · = pg.seriesId source) := by
    rw [seriesSources, hid]
  obtain ⟨anchor, hanchor, hkind⟩ | hnames := hwritten.anchor_or_names_eq hsource hgroup
  · -- The least name of the anchors is the first and the last one.
    obtain ⟨name, hname⟩ := Option.isSome_iff_exists.mp (hname anchor hanchor)
    have hmedia : (anchor.item.mediaType == "Series") = true :=
      (Bool.and_eq_true_iff.mp (Bool.and_eq_true_iff.mp hkind).1).2
    have hmem : name ∈ ((seriesSources pg catalog row).filter
        (·.item.mediaType == "Series")).filterMap pg.seriesName :=
      List.mem_filterMap.mpr ⟨anchor, List.mem_filter.mpr ⟨hanchor, hmedia⟩, hname⟩
    obtain ⟨least, hleast⟩ := Option.isSome_iff_exists.mp
      (isSome_minOf (List.ne_nil_of_mem hmem) : (minOf pg.compare _).isSome = true)
    have hanchorName : pg.anchorName (seriesSources pg catalog row) = some least := hleast
    simp [Postgres.firstName, hanchorName, differ]
  · -- Without an anchor all names are one.
    have hmem : source ∈ seriesSources pg catalog row :=
      List.mem_filter.mpr ⟨hsource, decide_eq_true hid⟩
    obtain ⟨name, hsourceName⟩ := Option.isSome_iff_exists.mp (hname source hmem)
    have hin : name ∈ (seriesSources pg catalog row).filterMap pg.seriesName :=
      List.mem_filterMap.mpr ⟨source, hmem, hsourceName⟩
    have hall : ∀ other ∈ (seriesSources pg catalog row).filterMap pg.seriesName, other = name :=
      fun other hother => hnames other hother name hin
    have hfirst : minOf pg.compare ((seriesSources pg catalog row).filterMap pg.seriesName) =
        some name := minOf_eq_some hin hall
    have hlast : maxOf pg.compare ((seriesSources pg catalog row).filterMap pg.seriesName) =
        some name := minOf_eq_some hin hall
    rw [Postgres.firstName, hfirst, hlast]
    cases pg.anchorName (seriesSources pg catalog row) with
    | none => simp [differ]
    | some anchor => simp [differ]

omit hcovered hsources in
theorem folders_agree {row : TvSeriesRow} (hrow : row ∈ coveredSeries catalog.tables) :
    differ (minOf pg.compare (folderTexts (seriesSources pg catalog row)))
      (maxOf pg.compare (folderTexts (seriesSources pg catalog row))) = false ∧
    (seriesSources pg catalog row).any (pg.isForeign catalog) = false := by
  obtain ⟨hseries, hfolder⟩ := mem_coveredSeries.mp hrow
  have hwritten := hup.written hfolder
  have hsame : ∀ source ∈ seriesSources pg catalog row,
      source.item.virtualFolderId = row.virtualFolderId := fun source hsource =>
    (Postgres.mem_folderSources.mp (List.mem_of_mem_filter hsource)).2.1
  constructor
  · obtain ⟨⟨source, hsource, hid⟩, -⟩ := hwritten.source_of_series hseries rfl
    have hmem : source ∈ seriesSources pg catalog row :=
      List.mem_filter.mpr ⟨hsource, decide_eq_true hid⟩
    have hin : row.virtualFolderId.hyphenated ∈ folderTexts (seriesSources pg catalog row) :=
      List.mem_map.mpr ⟨source, hmem, by rw [hsame source hmem]⟩
    have hall : ∀ text ∈ folderTexts (seriesSources pg catalog row),
        text = row.virtualFolderId.hyphenated := by
      intro text htext
      obtain ⟨other, hother, rfl⟩ := List.mem_map.mp htext
      rw [hsame other hother]
    rw [maxOf, minOf_eq_some hin hall, minOf_eq_some hin hall]
    simp [differ]
  · rw [List.any_eq_false]
    intro source hsource
    rw [Bool.not_eq_true]
    exact hwritten.isForeign_eq_false (hsame source hsource)

omit hcovered in
theorem episodes_perm (seriesIds : List String) :
    (projectedEpisodes catalog folder seriesIds).Perm
      (pg.liveEpisodes catalog folder seriesIds) := by
  have hunique : ∀ row ∈ catalog.rows, ∀ other ∈ catalog.rows, row.item.id = other.item.id →
      row = other := fun row hrow other hother =>
    List.inj_on_of_nodup_map catalog.distinct hrow hother
  refine (List.perm_ext_iff_of_nodup ?_ (catalog.distinct.of_map.filter _)).mpr fun row => ?_
  · exact projectedEpisodes_nodup seriesIds
  · rw [projectedEpisodes, List.mem_filterMap, List.mem_filter]
    constructor
    · rintro ⟨member, hmember, hfind⟩
      obtain ⟨hmember, hselected⟩ := List.mem_filter.mp hmember
      simp only [Bool.and_eq_true] at hselected
      obtain ⟨⟨hfolder, hscope⟩, hcontains⟩ := hselected
      obtain ⟨source, hsource, hsame, hepisode, hmade⟩ :=
        (hup.written hfolder).row_of_member hmember rfl
      obtain ⟨hid, -, hseries, -⟩ := Postgres.memberRow_eq_ok hmade
      have hrow := List.mem_of_find?_eq_some hfind
      have hrowId := List.find?_some hfind
      rw [Bool.and_eq_true, beq_iff_eq] at hrowId
      obtain rfl : row = source := hunique row hrow source hsource (hrowId.1.trans hid)
      refine ⟨hrow, ?_⟩
      rw [hepisode, hsame, hscope, hseries, Option.any_some, hcontains]
      rfl
    · rintro ⟨hrow, hselected⟩
      simp only [Bool.and_eq_true, Option.any_eq_true] at hselected
      obtain ⟨⟨hepisode, hscope⟩, seriesId, hid, hcontains⟩ := hselected
      have hsource : row ∈ pg.seriesSource catalog folder := by
        refine List.mem_filter.mpr ⟨hrow, ?_⟩
        rw [hscope, Postgres.isSource, hepisode, Bool.true_or, Bool.true_and]
      have hfolder := hsources row hsource
      obtain ⟨member, hmember, hmade⟩ := (hup.written hfolder).member_of_row hrow rfl hepisode
      obtain ⟨hmemberId, hsame, hseries, -⟩ := Postgres.memberRow_eq_ok hmade
      have hseriesId : member.seriesId = seriesId := Option.some_inj.mp (hseries.symm.trans hid)
      have hvisible : row.missingSince.isNone = true := by
        simp only [Postgres.isEpisode, Postgres.isTvRow, Bool.and_eq_true] at hepisode
        exact hepisode.1.1
      refine ⟨member, List.mem_filter.mpr ⟨hmember, ?_⟩, ?_⟩
      · rw [hsame, hfolder, hscope, hseriesId, hcontains]
        rfl
      · refine find?_eq_some_of_unique hrow ?_ fun other hother hsame => ?_
        · rw [hmemberId, beq_self_eq_true, hvisible, Bool.true_and]
        · rw [Bool.and_eq_true, beq_iff_eq] at hsame
          exact hunique other hother row hrow (hsame.1.trans hmemberId)

omit hcovered in
theorem episodesOf_projectedEpisodes (seriesIds : List String) :
    pg.episodesOf (projectedEpisodes catalog folder seriesIds) =
      pg.episodesOf (pg.liveEpisodes catalog folder seriesIds) := by
  have hperm := episodes_perm hup hsources seriesIds
  refine congrArg (List.map _) (sortBy_eq_of_perm hperm fun row hrow other hother => ?_)
  have hmem : ∀ row ∈ projectedEpisodes catalog folder seriesIds, row ∈ catalog.rows :=
    fun row hrow => List.mem_of_mem_filter (hperm.mem_iff.mp hrow)
  exact Postgres.eq_of_compareRows (hmem row hrow) (hmem other hother)

theorem tvSeriesCatalogPageFromLive_eq (startIndex limit : Nat)
    (patterns : TvSeriesCatalogNamePatterns) :
    pg.tvSeriesCatalogPageFromLive catalog folder startIndex limit patterns =
      (pageBounds startIndex limit).map fun bounds =>
        let series := if limit = 0 then []
          else slice bounds.1 bounds.2 (pg.projectedKeys catalog folder patterns)
        some
          { series
            episodes := if series = [] then []
              else pg.episodesOf (projectedEpisodes catalog folder (series.map (·.id)))
            totalRecordCount := (pg.selectedSeries catalog folder patterns).length
            startIndex } := by
  have hvalid : (pg.seriesSource catalog folder).any pg.isInvalid = false := by
    rw [List.any_eq_false]
    intro source hsource
    rw [isInvalid_eq_false hup hsources hsource]
    exact Bool.false_ne_true
  have hgroups : ∀ group ∈ pg.grouped catalog folder, ∃ row ∈ coveredSeries catalog.tables,
      group = pg.seriesGroup catalog (some row.seriesId, seriesSources pg catalog row) := by
    intro group hgroup
    obtain ⟨sources, hsource, rfl⟩ := List.mem_map.mp hgroup
    obtain ⟨row, hrow, -, heq⟩ := row_of_group hup hcovered hsources hsource
    exact ⟨row, hrow, congrArg _ heq⟩
  have hnames : ((pg.grouped catalog folder).any fun group =>
      differ group.seriesName group.seriesNameLast) = false := by
    rw [List.any_eq_false]
    intro group hgroup
    obtain ⟨row, hrow, rfl⟩ := hgroups group hgroup
    rw [Bool.not_eq_true]
    exact names_agree hup hrow
  have hfolders : ((pg.grouped catalog folder).any fun group =>
      differ group.folderFirst group.folderLast) = false := by
    rw [List.any_eq_false]
    intro group hgroup
    obtain ⟨row, hrow, rfl⟩ := hgroups group hgroup
    rw [Bool.not_eq_true]
    exact (folders_agree hup hrow).1
  have hforeign : (pg.grouped catalog folder).any (·.foreignFolder) = false := by
    rw [List.any_eq_false]
    intro group hgroup
    obtain ⟨row, hrow, rfl⟩ := hgroups group hgroup
    rw [Bool.not_eq_true]
    exact (folders_agree hup hrow).2
  obtain ⟨hkeys, htotal⟩ := liveKeys_eq hup hcovered hsources patterns
  rw [Postgres.tvSeriesCatalogPageFromLive, hvalid, if_neg Bool.false_ne_true]
  cases pageBounds startIndex limit with
  | error e => rfl
  | ok bounds =>
    simp only [bind, Except.bind, Except.map, hnames, hfolders, hforeign, Bool.or_false,
      Bool.and_false, Bool.false_eq_true, if_false, hkeys, htotal,
      episodesOf_projectedEpisodes hup hsources]

omit hup hsources in
theorem tvSeriesCatalogSearchPage_eq (startIndex limit : Nat) (includeTotalRecordCount : Bool)
    (filter : TvSeriesCatalogNameFilter) :
    pg.tvSeriesCatalogSearchPage catalog folder startIndex limit includeTotalRecordCount filter =
      (pageBounds startIndex limit).map fun bounds =>
        let series := if limit = 0 then []
          else slice bounds.1 bounds.2 (pg.projectedKeys catalog folder (namePatterns filter))
        some
          { series
            episodes := if series = [] then []
              else pg.episodesOf (projectedEpisodes catalog folder (series.map (·.id)))
            totalRecordCount := if includeTotalRecordCount
              then (pg.selectedSeries catalog folder (namePatterns filter)).length else 0
            startIndex } := by
  have hlength : (pg.projectedKeys catalog folder (namePatterns filter)).length =
      (pg.selectedSeries catalog folder (namePatterns filter)).length := by
    rw [Postgres.projectedKeys, (sortBy_perm _ _).length_eq, projectedKeys_eq hcovered,
      List.length_map]
  have hdedup : ((pg.selectedSeries catalog folder (namePatterns filter)).map
      (·.seriesId)).dedup.length =
        (pg.selectedSeries catalog folder (namePatterns filter)).length := by
    rw [(selectedSeries_nodup hcovered _).dedup, List.length_map]
  rw [Postgres.tvSeriesCatalogSearchPage, hcovered, Bool.not_true, if_neg Bool.false_ne_true]
  cases hbounds : pageBounds startIndex limit with
  | error e => rfl
  | ok bounds =>
    rw [pageBounds] at hbounds
    split at hbounds
    · cases hbounds
      -- A page from the first row on is empty only if there are no rows.
      have hempty : slice startIndex (max limit 1)
          (pg.projectedKeys catalog folder (namePatterns filter)) = [] → startIndex = 0 →
          (pg.selectedSeries catalog folder (namePatterns filter)).length = 0 := by
        rintro hslice rfl
        rw [slice, List.drop_zero, List.take_eq_nil_iff] at hslice
        obtain hlimit | hslice := hslice
        · exact absurd hlimit (by omega)
        · rw [← hlength, hslice]
          rfl
      have htotal : (if slice startIndex (max limit 1)
          (pg.projectedKeys catalog folder (namePatterns filter)) ≠ [] then
            (pg.selectedSeries catalog folder (namePatterns filter)).length
          else if startIndex = 0 then 0
          else (pg.selectedSeries catalog folder (namePatterns filter)).length) =
            (pg.selectedSeries catalog folder (namePatterns filter)).length := by
        split
        · rfl
        · rename_i hfound
          split
          · rename_i hstart
            exact (hempty (not_not.mp hfound) hstart).symm
          · rfl
      simp only [bind, Except.bind, Except.map, hlength, hdedup, htotal]
      cases includeTotalRecordCount <;> rfl
    · cases hbounds

end Covered

/-- The projection answers as the live rows do, but for anchors in folders of another type: there
the live rows do not answer. -/
theorem projected_page_is_live_page_iff (hup : UpToDate pg catalog)
    (hcovered : pg.projectionCovered catalog folder = true) :
    AnswersAsLive pg catalog folder ↔
      (folder = none → ∀ row ∈ catalog.rows, pg.isAnchor row = true →
        pg.isForeign catalog row = false) := by
  constructor
  · rintro hanswers rfl row hrow hanchor
    refine eq_false_of_ne_true fun hforeign => ?_
    obtain ⟨live, hlive, -⟩ := hanswers 0 0 false ⟨none, none, none, none⟩ _
      (tvSeriesCatalogSearchPage_eq hcovered 0 0 false _)
    have hsource : row ∈ pg.seriesSource catalog none := by
      refine List.mem_filter.mpr ⟨hrow, ?_⟩
      rw [Postgres.isSource, hanchor, Bool.or_true]
      rfl
    have hgroup : (pg.grouped catalog none).any (·.foreignFolder) = true := by
      refine List.any_eq_true.mpr ⟨_, List.mem_map_of_mem (mem_groups_of_mem hsource), ?_⟩
      exact List.any_eq_true.mpr
        ⟨row, List.mem_filter.mpr ⟨hsource, decide_eq_true rfl⟩, hforeign⟩
    rw [Postgres.tvSeriesCatalogPageFromLive] at hlive
    split at hlive
    · cases hlive
    · simp only [hgroup, Option.isNone_none, Bool.or_true, Bool.and_true, if_true] at hlive
      cases hlive
  · intro hanchor startIndex limit includeTotalRecordCount filter page hpage
    have hsources : ∀ source ∈ pg.seriesSource catalog folder,
        catalog.tables.covered source.item.virtualFolderId = true :=
      fun _ hsource => covered_of_source hcovered hanchor hsource
    rw [tvSeriesCatalogSearchPage_eq hcovered] at hpage
    rw [tvSeriesCatalogPageFromLive_eq hup hcovered hsources]
    cases hbounds : pageBounds startIndex limit with
    | error e =>
      rw [hbounds] at hpage
      cases hpage
    | ok bounds =>
      rw [hbounds] at hpage
      cases hpage
      refine ⟨_, rfl, congrArg some ?_⟩
      cases includeTotalRecordCount <;> rfl

/-! Libraries of one series. -/

def plainPostgres : Postgres := { byteCollation with jsonText := fun _ => "" }

def shows : VirtualFolder := ⟨1, "Shows", some "tvshows", []⟩

def films : VirtualFolder := ⟨2, "Films", some "movies", []⟩

def harbourId : String := "0123456789abcdef0123456789abcdef"

def harbourRow (folder : VirtualFolder) (mediaType kind : String) : MediaItemRow where
  item := { itemNamed 7 "Harbour" with
    virtualFolderId := folder.id
    mediaType
    collectionType := some "tvshows" }
  metadata := .object [("PluginVodKind", .string kind), ("SeriesId", .string harbourId),
    ("SeriesName", .string "Harbour")]
  missingSince := none

def oneEpisode : TvCatalog where
  folders := [shows, films]
  rows := [harbourRow shows "Video" "episode"]
  tables :=
    { coverage := [⟨1, 3, 1, 1⟩]
      series := [⟨1, harbourId, "Harbour", 1⟩]
      members := [⟨7, 1, harbourId, lastNumber, lastNumber, "harbour", "Harbour",
        "/media/Harbour"⟩] }
  distinct := by decide
  inFolders := by decide
  distinctFolders := by decide
  keyed := by decide

def anchorAmongFilms : TvCatalog where
  folders := [shows, films]
  rows := [harbourRow films "Series" "series"]
  tables := { coverage := [⟨1, 3, 0, 0⟩], series := [], members := [] }
  distinct := by decide
  inFolders := by decide
  distinctFolders := by decide
  keyed := by decide

theorem upToDate_of_shows {catalog : TvCatalog}
    (hcoverage : catalog.tables.coverage.all (·.virtualFolderId == 1) = true)
    (h : plainPostgres.rebuildTvSeriesCatalogProjection catalog.folders catalog.rows ⟨[], [], []⟩
      1 = .ok (true, catalog.tables)) : UpToDate plainPostgres catalog := by
  intro folder hcovered
  obtain ⟨row, hrow, hfolder⟩ := List.any_eq_true.mp hcovered
  obtain rfl : 1 = folder :=
    (beq_iff_eq.mp (List.all_eq_true.mp hcoverage row hrow)).symm.trans
      (beq_iff_eq.mp (Bool.and_eq_true_iff.mp hfolder).1)
  exact ⟨_, _, h, rfl⟩

theorem upToDate_oneEpisode : UpToDate plainPostgres oneEpisode :=
  upToDate_of_shows (by decide) (by decide)

theorem upToDate_anchorAmongFilms : UpToDate plainPostgres anchorAmongFilms :=
  upToDate_of_shows (by decide) (by decide)

theorem projected_page_is_live_page_of_one_episode :
    AnswersAsLive plainPostgres oneEpisode none ↔
      ((none : Option Uuid) = none → ∀ row ∈ oneEpisode.rows, plainPostgres.isAnchor row = true →
        plainPostgres.isForeign oneEpisode row = false) :=
  projected_page_is_live_page_iff upToDate_oneEpisode (by decide)

theorem anchor_among_films_has_two_answers :
    UpToDate plainPostgres anchorAmongFilms ∧
      plainPostgres.projectionCovered anchorAmongFilms none = true ∧
      ¬AnswersAsLive plainPostgres anchorAmongFilms none := by
  refine ⟨upToDate_anchorAmongFilms, by decide, fun h => ?_⟩
  obtain ⟨live, hlive, -⟩ := h 0 1 true ⟨none, none, none, none⟩ (some ⟨[], [], 0, 0⟩)
    (by decide)
  have hnone : plainPostgres.tvSeriesCatalogPageFromLive anchorAmongFilms none 0 1
      (namePatterns ⟨none, none, none, none⟩) = .ok none := by decide
  rw [hnone] at hlive
  cases hlive

end Jellyrin.TvProjection
