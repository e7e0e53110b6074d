import Jellyrin.Defs.TvProjection.Catalog

/-! What a rebuild leaves in the tables. -/

namespace Jellyrin.TvProjection

open Items

variable {pg : Postgres} {catalog : TvCatalog} {folders : List VirtualFolder}
  {rows : List MediaItemRow} {before after : TvTables} {folder : Uuid}

variable {row : MediaItemRow}

namespace Postgres

theorem mem_folderSources :
    row ∈ pg.folderSources rows folder ↔
      row ∈ rows ∧ row.item.virtualFolderId = folder ∧ pg.isSource row = true := by
  rw [folderSources, List.mem_filter, Bool.and_eq_true, beq_iff_eq]

theorem mem_folderEpisodes :
    row ∈ pg.folderEpisodes rows folder ↔
      row ∈ rows ∧ row.item.virtualFolderId = folder ∧ pg.isEpisode row = true := by
  rw [folderEpisodes, List.mem_filter, Bool.and_eq_true, beq_iff_eq]

theorem seriesRow_eq_ok {group : Option String × List MediaItemRow} {row : TvSeriesRow}
    (h : pg.seriesRow folder group = .ok row) :
    row.virtualFolderId = folder ∧ group.1 = some row.seriesId ∧
      pg.firstName group.2 = some row.seriesName ∧
      row.episodeCount = group.2.countP (·.item.mediaType == "Video") := by
  rw [seriesRow] at h
  cases hid : group.1 with
  | none =>
    rw [hid] at h
    cases h
  | some id =>
    cases hname : pg.firstName group.2 with
    | none =>
      rw [hid, hname] at h
      cases h
    | some name =>
      rw [hid, hname] at h
      cases h
      exact ⟨rfl, rfl, rfl, rfl⟩

theorem isEpisode_of_isSource (h : pg.isSource row = true)
    (hvideo : (row.item.mediaType == "Video") = true) : pg.isEpisode row = true := by
  obtain hepisode | hanchor := Bool.or_eq_true_iff.mp h
  · exact hepisode
  · simp only [isAnchor, Bool.and_eq_true] at hanchor
    rw [isEpisode, hanchor.1.1, hvideo, Bool.true_and]

theorem memberRow_eq_ok {member : TvSeriesMember} (h : pg.memberRow row = .ok member) :
    member.itemId = row.item.id ∧ member.virtualFolderId = row.item.virtualFolderId ∧
      pg.seriesId row = some member.seriesId ∧
      pg.episodeNumber row.metadata "ParentIndexNumber" = .ok member.seasonNumber ∧
      pg.episodeNumber row.metadata "IndexNumber" = .ok member.episodeNumber ∧
      member.sortName = pg.lower row.item.name := by
  rw [memberRow] at h
  cases hseason : pg.episodeNumber row.metadata "ParentIndexNumber" with
  | error e =>
    rw [hseason] at h
    cases h
  | ok season =>
    cases hepisode : pg.episodeNumber row.metadata "IndexNumber" with
    | error e =>
      rw [hseason, hepisode] at h
      cases h
    | ok episode =>
      cases hid : pg.seriesId row with
      | none =>
        rw [hseason, hepisode, hid] at h
        cases h
      | some id =>
        rw [hseason, hepisode, hid] at h
        cases h
        exact ⟨rfl, rfl, rfl, rfl, rfl, rfl⟩

theorem rebuild_cases
    (h : pg.rebuildTvSeriesCatalogProjection folders rows before folder = .ok (true, after)) :
    pg.eligible folders rows folder = true ∧ ∃ series members,
      (groups pg.seriesId (pg.folderSources rows folder)).mapM (pg.seriesRow folder) = .ok series ∧
      (pg.folderEpisodes rows folder).mapM pg.memberRow = .ok members ∧
      after.series = (before.delete folder).series ++ series ∧
      after.members = (before.delete folder).members ++ members := by
  rw [rebuildTvSeriesCatalogProjection] at h
  split at h
  · rename_i heligible
    refine ⟨heligible, ?_⟩
    cases hseries : (groups pg.seriesId (pg.folderSources rows folder)).mapM
        (pg.seriesRow folder) with
    | error e =>
      rw [hseries] at h
      cases h
    | ok series =>
      cases hmembers : (pg.folderEpisodes rows folder).mapM pg.memberRow with
      | error e =>
        rw [hseries, hmembers] at h
        cases h
      | ok members =>
        rw [hseries, hmembers] at h
        change (if _ then _ else _) = _ at h
        split at h
        · cases h
          exact ⟨series, members, rfl, rfl, rfl, rfl⟩
        · cases h
  · cases h

end Postgres

structure Written (pg : Postgres) (catalog : TvCatalog) (folder : Uuid) : Prop where
  eligible : pg.eligible catalog.folders catalog.rows folder = true
  series : List.Forall₂ (fun group row => pg.seriesRow folder group = .ok row)
    (groups pg.seriesId (pg.folderSources catalog.rows folder))
    (catalog.tables.series.filter (·.virtualFolderId == folder))
  members : List.Forall₂ (fun row member => pg.memberRow row = .ok member)
    (pg.folderEpisodes catalog.rows folder)
    (catalog.tables.members.filter (·.virtualFolderId == folder))

theorem filter_delete_append {α : Type} {old new : List α} {key : α → Uuid} {folder : Uuid}
    (h : ∀ row ∈ new, key row = folder) :
    (old.filter (key · != folder) ++ new).filter (key · == folder) = new := by
  have hold : (old.filter (key · != folder)).filter (key · == folder) = [] := by
    rw [List.filter_eq_nil_iff]
    intro row hrow
    simpa using (List.mem_filter.mp hrow).2
  rw [List.filter_append, hold, List.nil_append, List.filter_eq_self]
  intro row hrow
  exact beq_iff_eq.mpr (h row hrow)

theorem exists_left_of_mem {α β : Type} {R : α → β → Prop} {l : List α} {l' : List β} {b : β}
    (h : List.Forall₂ R l l') (hb : b ∈ l') : ∃ a ∈ l, R a b := by
  induction h with
  | nil => cases hb
  | @cons a c as cs hac _ ih =>
    obtain rfl | hb := List.mem_cons.mp hb
    · exact ⟨a, List.mem_cons_self, hac⟩
    · obtain ⟨a', ha', hR⟩ := ih hb
      exact ⟨a', List.mem_cons_of_mem a ha', hR⟩

theorem exists_right_of_mem {α β : Type} {R : α → β → Prop} {l : List α} {l' : List β} {a : α}
    (h : List.Forall₂ R l l') (ha : a ∈ l) : ∃ b ∈ l', R a b := by
  obtain ⟨b, hb, hR⟩ := exists_left_of_mem h.flip ha
  exact ⟨b, hb, hR⟩

theorem UpToDate.written (h : UpToDate pg catalog) (hcovered : catalog.tables.covered folder = true) :
    Written pg catalog folder := by
  obtain ⟨before, after, hrebuild, hfolder⟩ := h folder hcovered
  obtain ⟨heligible, series, members, hseries, hmembers, hafter, hafter'⟩ :=
    Postgres.rebuild_cases hrebuild
  have hseries := forall₂_of_mapM hseries
  have hmembers := forall₂_of_mapM hmembers
  have hfolderSeries : catalog.tables.series.filter (·.virtualFolderId == folder) = series := by
    have htables : catalog.tables.series.filter (·.virtualFolderId == folder) =
        after.series.filter (·.virtualFolderId == folder) := congrArg TvTables.series hfolder
    rw [htables, hafter]
    refine filter_delete_append fun row hrow => ?_
    obtain ⟨group, -, hgroup⟩ := exists_left_of_mem hseries hrow
    exact (Postgres.seriesRow_eq_ok hgroup).1
  have hfolderMembers : catalog.tables.members.filter (·.virtualFolderId == folder) = members := by
    have htables : catalog.tables.members.filter (·.virtualFolderId == folder) =
        after.members.filter (·.virtualFolderId == folder) := congrArg TvTables.members hfolder
    rw [htables, hafter']
    refine filter_delete_append fun member hmember => ?_
    obtain ⟨row, hrow, hmade⟩ := exists_left_of_mem hmembers hmember
    obtain ⟨-, hfolder, -⟩ := Postgres.memberRow_eq_ok hmade
    rw [hfolder]
    exact (Postgres.mem_folderEpisodes.mp hrow).2.1
  exact ⟨heligible, hfolderSeries ▸ hseries, hfolderMembers ▸ hmembers⟩

namespace Written

variable (h : Written pg catalog folder)

include h

theorem source_of_series {row : TvSeriesRow} (hrow : row ∈ catalog.tables.series)
    (hfolder : row.virtualFolderId = folder) :
    (∃ source ∈ pg.folderSources catalog.rows folder, pg.seriesId source = some row.seriesId) ∧
      pg.firstName ((pg.folderSources catalog.rows folder).filter
        (pg.seriesId · = some row.seriesId)) = some row.seriesName := by
  obtain ⟨group, hgroup, hmade⟩ := exists_left_of_mem h.series
    (List.mem_filter.mpr ⟨hrow, beq_iff_eq.mpr hfolder⟩)
  obtain ⟨-, hid, hname, -⟩ := Postgres.seriesRow_eq_ok hmade
  obtain ⟨⟨source, hsource, hkey⟩, hrows⟩ := mem_groups.mp hgroup
  refine ⟨⟨source, hsource, hkey.trans hid⟩, ?_⟩
  rw [← hname, hrows, hid]

theorem series_of_source {source : MediaItemRow}
    (hsource : source ∈ pg.folderSources catalog.rows folder) :
    ∃ row ∈ catalog.tables.series, row.virtualFolderId = folder ∧
      pg.seriesId source = some row.seriesId := by
  obtain ⟨row, hrow, hmade⟩ := exists_right_of_mem h.series (mem_groups_of_mem hsource)
  obtain ⟨hfolder, hid, -⟩ := Postgres.seriesRow_eq_ok hmade
  exact ⟨row, (List.mem_filter.mp hrow).1, hfolder, hid⟩

theorem row_of_member {member : TvSeriesMember} (hmember : member ∈ catalog.tables.members)
    (hfolder : member.virtualFolderId = folder) :
    ∃ row ∈ catalog.rows, row.item.virtualFolderId = folder ∧ pg.isEpisode row = true ∧
      pg.memberRow row = .ok member := by
  obtain ⟨row, hrow, hmade⟩ := exists_left_of_mem h.members
    (List.mem_filter.mpr ⟨hmember, beq_iff_eq.mpr hfolder⟩)
  obtain ⟨hrow, hid, hepisode⟩ := Postgres.mem_folderEpisodes.mp hrow
  exact ⟨row, hrow, hid, hepisode, hmade⟩

theorem member_of_row (hrow : row ∈ catalog.rows) (hfolder : row.item.virtualFolderId = folder)
    (hepisode : pg.isEpisode row = true) :
    ∃ member ∈ catalog.tables.members, pg.memberRow row = .ok member := by
  obtain ⟨member, hmember, hmade⟩ := exists_right_of_mem h.members
    (Postgres.mem_folderEpisodes.mpr ⟨hrow, hfolder, hepisode⟩)
  exact ⟨member, (List.mem_filter.mp hmember).1, hmade⟩

theorem episodeCount_pos_iff {row : TvSeriesRow} (hrow : row ∈ catalog.tables.series)
    (hfolder : row.virtualFolderId = folder) :
    0 < row.episodeCount ↔ ∃ member ∈ catalog.tables.members,
      member.seriesId = row.seriesId ∧ member.virtualFolderId = folder := by
  obtain ⟨group, hgroup, hmade⟩ := exists_left_of_mem h.series
    (List.mem_filter.mpr ⟨hrow, beq_iff_eq.mpr hfolder⟩)
  obtain ⟨-, hid, -, hcount⟩ := Postgres.seriesRow_eq_ok hmade
  rw [hcount, List.countP_pos_iff, (mem_groups.mp hgroup).2, hid]
  constructor
  · rintro ⟨source, hsource, hvideo⟩
    obtain ⟨hsource, hsame⟩ := List.mem_filter.mp hsource
    obtain ⟨hinRows, hinFolder, hkind⟩ := Postgres.mem_folderSources.mp hsource
    obtain ⟨member, hmember, hmade⟩ :=
      h.member_of_row hinRows hinFolder (Postgres.isEpisode_of_isSource hkind hvideo)
    obtain ⟨-, hmemberFolder, hseries, -⟩ := Postgres.memberRow_eq_ok hmade
    exact ⟨member, hmember, Option.some_inj.mp (hseries.symm.trans (of_decide_eq_true hsame)),
      hmemberFolder.trans hinFolder⟩
  · rintro ⟨member, hmember, hsame, hmemberFolder⟩
    obtain ⟨source, hsource, hinFolder, hepisode, hmade⟩ := h.row_of_member hmember hmemberFolder
    obtain ⟨-, -, hseries, -⟩ := Postgres.memberRow_eq_ok hmade
    refine ⟨source, List.mem_filter.mpr ⟨Postgres.mem_folderSources.mpr ⟨hsource, hinFolder, ?_⟩,
      decide_eq_true (hseries.trans (congrArg some hsame))⟩, ?_⟩
    · rw [Postgres.isSource, hepisode, Bool.true_or]
    · exact (Bool.and_eq_true_iff.mp hepisode).2

theorem series_of_member {member : TvSeriesMember} (hmember : member ∈ catalog.tables.members)
    (hfolder : member.virtualFolderId = folder) :
    ∃ row ∈ catalog.tables.series, row.virtualFolderId = folder ∧
      row.seriesId = member.seriesId := by
  obtain ⟨source, hsource, hinFolder, hepisode, hmade⟩ := h.row_of_member hmember hfolder
  obtain ⟨-, -, hseries, -⟩ := Postgres.memberRow_eq_ok hmade
  have hkind : pg.isSource source = true := by rw [Postgres.isSource, hepisode, Bool.true_or]
  obtain ⟨row, hrow, hsame, hid⟩ :=
    h.series_of_source (Postgres.mem_folderSources.mpr ⟨hsource, hinFolder, hkind⟩)
  exact ⟨row, hrow, hsame, Option.some_inj.mp (hid.symm.trans hseries)⟩

theorem isForeign_eq_false (hfolder : row.item.virtualFolderId = folder) :
    (catalog.folders.any fun other =>
      other.id == row.item.virtualFolderId && !pg.isTvFolder other) = false := by
  have heligible := h.eligible
  simp only [Postgres.eligible, Bool.and_eq_true, List.any_eq_true, beq_iff_eq] at heligible
  obtain ⟨⟨⟨tvFolder, htvFolder, hid, htv⟩, -⟩, -⟩ := heligible
  rw [List.any_eq_false]
  intro other hother
  simp only [Bool.and_eq_true, beq_iff_eq, not_and]
  intro hsame
  have heq : other = tvFolder :=
    List.inj_on_of_nodup_map catalog.distinctFolders hother htvFolder
      (hsame.trans (hfolder.trans hid.symm))
  rw [heq, htv]
  exact Bool.false_ne_true

theorem isInvalid_eq_false {source : MediaItemRow}
    (hsource : source ∈ pg.folderSources catalog.rows folder) : pg.isInvalid source = false := by
  have heligible := h.eligible
  simp only [Postgres.eligible, Bool.and_eq_true, Bool.not_eq_true', List.any_eq_false,
    Bool.not_eq_true] at heligible
  exact heligible.1.2 source hsource

theorem anchor_or_names_eq {source : MediaItemRow}
    (hsource : source ∈ pg.folderSources catalog.rows folder) {group : List MediaItemRow}
    (hgroup : group = (pg.folderSources catalog.rows folder).filter
      (pg.seriesId · = pg.seriesId source)) :
    (∃ anchor ∈ group, pg.isAnchor anchor = true) ∨
      ∀ name ∈ group.filterMap pg.seriesName, ∀ other ∈ group.filterMap pg.seriesName,
        name = other := by
  have heligible := h.eligible
  simp only [Postgres.eligible, Bool.and_eq_true, Bool.not_eq_true', List.any_eq_false] at heligible
  have hnames := heligible.2 _ (mem_groups_of_mem hsource)
  rw [← hgroup, not_and_or, beq_iff_eq, decide_eq_true_iff, not_lt] at hnames
  obtain hanchor | hnames := hnames
  · obtain ⟨anchor, hanchor⟩ := List.countP_pos_iff.mp (Nat.pos_of_ne_zero hanchor)
    exact .inl ⟨anchor, hanchor⟩
  · refine .inr fun name hname other hother => ?_
    exact eq_of_length_le_one hnames (List.mem_dedup.mpr hname) (List.mem_dedup.mpr hother)

end Written


/-! Numbers that metadata gives. -/

/-- What a text says as a number of the database: digits, which a minus may precede. -/
def decimalInteger (text : String) : Option Int :=
  match (btrim text).toList with
  | '-' :: digits =>
    if digits ≠ [] ∧ digits.all Char.isDigit = true ∧ Nat.ofDigitChars 10 digits 0 ≤ 2 ^ 31 then
      some (-(Nat.ofDigitChars 10 digits 0 : Int))
    else none
  | digits =>
    if digits ≠ [] ∧ digits.all Char.isDigit = true ∧ Nat.ofDigitChars 10 digits 0 < 2 ^ 31 then
      some (Nat.ofDigitChars 10 digits 0)
    else none

/-- Digits do not go beyond the last number, and a minus does not stand before a number. -/
def IsPlainNumber (text : String) : Prop :=
  ((btrim text).toList.all Char.isDigit = true →
    Nat.ofDigitChars 10 (btrim text).toList 0 < 2 ^ 31) ∧
  ∀ digits, (btrim text).toList = '-' :: digits → digits ≠ [] →
    digits.all Char.isDigit = true → 2 ^ 31 < Nat.ofDigitChars 10 digits 0

theorem decimalInteger_of_minus {text : String} {digits : List Char}
    (h : (btrim text).toList = '-' :: digits) : decimalInteger text =
      if digits ≠ [] ∧ digits.all Char.isDigit = true ∧ Nat.ofDigitChars 10 digits 0 ≤ 2 ^ 31 then
        some (-(Nat.ofDigitChars 10 digits 0 : Int))
      else none := by
  simp only [decimalInteger, h]

theorem decimalInteger_of_not_minus {text : String} {cs : List Char} (hcs : (btrim text).toList = cs)
    (h : ∀ digits, cs ≠ '-' :: digits) : decimalInteger text =
      if cs ≠ [] ∧ cs.all Char.isDigit = true ∧ Nat.ofDigitChars 10 cs 0 < 2 ^ 31 then
        some (Nat.ofDigitChars 10 cs 0 : Int)
      else none := by
  rw [decimalInteger, hcs]
  split
  · exact absurd rfl (h _)
  · rfl

namespace Postgres

def expectedNumber (metadata : Json) (key : String) : Int :=
  ((pg.arrow metadata key).bind decimalInteger).getD lastNumber

theorem neg_ofDigitChars_ne_lastNumber {digits : List Char} :
    -(Nat.ofDigitChars 10 digits 0 : Int) ≠ lastNumber := by
  have hlast : lastNumber = 2147483647 := by decide
  omega

theorem parseUnsigned_of_digits {digits : List Char} (hne : digits ≠ [])
    (hall : digits.all Char.isDigit = true) :
    Text.parseUnsigned (2 ^ 31 - 1) (String.ofList digits) =
      if Nat.ofDigitChars 10 digits 0 < 2 ^ 31 then some (Nat.ofDigitChars 10 digits 0) else none := by
  have hplus : Text.unsignedDigits digits = digits := by
    rw [Text.unsignedDigits]
    rintro rest rfl
    exact absurd (List.all_eq_true.mp hall '+' List.mem_cons_self) (by decide)
  have hle : Nat.ofDigitChars 10 digits 0 ≤ 2 ^ 31 - 1 ↔ Nat.ofDigitChars 10 digits 0 < 2 ^ 31 := by
    omega
  simp only [Text.parseUnsigned, String.toList_ofList, hplus, List.isEmpty_iff, hne, hall,
    Bool.not_true, Bool.or_false, if_false, hle]

theorem episodeNumber_eq_expected_iff {metadata : Json} {key : String} :
    pg.episodeNumber metadata key = .ok (pg.expectedNumber metadata key) ↔
      ∀ text, pg.arrow metadata key = some text → IsPlainNumber text := by
  rw [episodeNumber, expectedNumber]
  cases harrow : pg.arrow metadata key with
  | none => exact iff_of_true rfl (by rintro text ⟨⟩)
  | some text =>
    obtain ⟨cs, hcs⟩ : ∃ cs, (btrim text).toList = cs := ⟨_, rfl⟩
    have hempty : btrim text ≠ "" ↔ cs ≠ [] := by
      rw [← hcs]
      simp
    have htext : btrim text = String.ofList cs := by rw [← hcs, String.ofList_toList]
    simp only [Option.some.injEq, forall_eq', Option.bind_some, IsPlainNumber, hcs, hempty]
    by_cases hminus : ∃ digits, cs = '-' :: digits
    case pos =>
      obtain ⟨digits, rfl⟩ := hminus
      have hnot : ('-' :: digits).all Char.isDigit = false := rfl
      rw [decimalInteger_of_minus hcs]
      simp only [hnot, Bool.false_eq_true, and_false, if_false, false_imp_iff, true_and,
        List.cons.injEq, forall_eq', Except.ok.injEq]
      by_cases hdigits : digits ≠ [] ∧ digits.all Char.isDigit = true
      · by_cases hrange : Nat.ofDigitChars 10 digits 0 ≤ 2 ^ 31
        · rw [if_pos ⟨hdigits.1, hdigits.2, hrange⟩, Option.getD_some]
          exact iff_of_false neg_ofDigitChars_ne_lastNumber.symm
            fun h => absurd (h hdigits.1 hdigits.2) (Nat.not_lt.mpr hrange)
        · rw [if_neg fun h => hrange h.2.2, Option.getD_none]
          exact iff_of_true rfl fun _ _ => Nat.not_le.mp hrange
      · rw [if_neg fun h => hdigits ⟨h.1, h.2.1⟩, Option.getD_none]
        exact iff_of_true rfl fun hne hall => absurd ⟨hne, hall⟩ hdigits
    case neg =>
      have hplain : ∀ digits, cs = '-' :: digits → digits ≠ [] → digits.all Char.isDigit = true →
          2 ^ 31 < Nat.ofDigitChars 10 digits 0 := fun digits heq => absurd ⟨digits, heq⟩ hminus
      rw [and_iff_left hplain]
      rw [decimalInteger_of_not_minus hcs fun digits heq => hminus ⟨digits, heq⟩]
      by_cases hdigits : cs ≠ [] ∧ cs.all Char.isDigit = true
      · rw [if_pos hdigits, htext, parseUnsigned_of_digits hdigits.1 hdigits.2]
        by_cases hrange : Nat.ofDigitChars 10 cs 0 < 2 ^ 31
        · rw [if_pos hrange, if_pos ⟨hdigits.1, hdigits.2, hrange⟩, Option.getD_some]
          exact iff_of_true rfl fun _ => hrange
        · rw [if_neg hrange]
          exact iff_of_false (by rintro ⟨⟩) fun h => hrange (h hdigits.2)
      · rw [if_neg hdigits, if_neg fun h => hdigits ⟨h.1, h.2.1⟩, Option.getD_none]
        refine iff_of_true rfl fun hall => ?_
        obtain rfl : cs = [] := not_not.mp fun hne => hdigits ⟨hne, hall⟩
        decide

theorem exists_of_isInvalid (h : pg.isInvalid row = false) :
    ∃ seriesId seriesName, pg.seriesId row = some seriesId ∧ pg.seriesName row = some seriesName := by
  simp only [isInvalid, Bool.or_eq_false_iff] at h
  obtain ⟨⟨hid, -⟩, hname⟩ := h
  cases hseriesId : pg.seriesId row with
  | none =>
    rw [hseriesId] at hid
    cases hid
  | some seriesId =>
    cases hseriesName : pg.seriesName row with
    | none =>
      rw [hseriesName] at hname
      cases hname
    | some seriesName => exact ⟨seriesId, seriesName, rfl, rfl⟩

theorem isInvalid_of_eligible (h : pg.eligible folders rows folder = true)
    (hrow : row ∈ pg.folderSources rows folder) : pg.isInvalid row = false := by
  simp only [eligible, Bool.and_eq_true, Bool.not_eq_true', List.any_eq_false,
    Bool.not_eq_true] at h
  exact h.1.2 row hrow

theorem mem_folderSources_of_episode (h : row ∈ pg.folderEpisodes rows folder) :
    row ∈ pg.folderSources rows folder := by
  obtain ⟨hrow, hfolder, hepisode⟩ := mem_folderEpisodes.mp h
  refine mem_folderSources.mpr ⟨hrow, hfolder, ?_⟩
  rw [isSource, hepisode, Bool.true_or]

theorem exists_seriesRows (h : pg.eligible folders rows folder = true) :
    ∃ series, (groups pg.seriesId (pg.folderSources rows folder)).mapM (pg.seriesRow folder) =
      .ok series := by
  refine exists_mapM_eq_ok fun group hgroup => ?_
  obtain ⟨row, hmem, hrow, hkey⟩ := exists_mem_of_mem_groups hgroup
  obtain ⟨seriesId, seriesName, hid, hname⟩ :=
    exists_of_isInvalid (isInvalid_of_eligible h hrow)
  have hfirst : (pg.firstName group.2).isSome = true := by
    rw [firstName, Option.isSome_or, Bool.or_eq_true]
    refine .inr (isSome_minOf fun hnil => ?_)
    have hmem : seriesName ∈ group.2.filterMap pg.seriesName :=
      List.mem_filterMap.mpr ⟨row, hmem, hname⟩
    rw [hnil] at hmem
    exact absurd hmem List.not_mem_nil
  obtain ⟨name, hfirst⟩ := Option.isSome_iff_exists.mp hfirst
  rw [seriesRow, ← hkey, hid, hfirst]
  exact ⟨_, rfl⟩

theorem memberRow_eq (h : pg.isInvalid row = false) :
    ∃ seriesId, pg.seriesId row = some seriesId ∧ pg.memberRow row = (do
      let seasonNumber ← pg.episodeNumber row.metadata "ParentIndexNumber"
      let episodeNumber ← pg.episodeNumber row.metadata "IndexNumber"
      .ok ⟨row.item.id, row.item.virtualFolderId, seriesId, seasonNumber, episodeNumber,
        pg.lower row.item.name, row.item.name, row.item.path⟩) := by
  obtain ⟨seriesId, -, hid, -⟩ := exists_of_isInvalid h
  refine ⟨seriesId, hid, ?_⟩
  rw [memberRow, hid]
  rfl

def HasNumbers (pg : Postgres) (row : MediaItemRow) : Prop :=
  ∃ member, pg.memberRow row = .ok member ∧
    member.seasonNumber = pg.expectedNumber row.metadata "ParentIndexNumber" ∧
    member.episodeNumber = pg.expectedNumber row.metadata "IndexNumber"

def HasPlainNumbers (pg : Postgres) (row : MediaItemRow) : Prop :=
  ∀ key ∈ ["ParentIndexNumber", "IndexNumber"], ∀ text,
    pg.arrow row.metadata key = some text → IsPlainNumber text

theorem hasNumbers_iff (h : pg.isInvalid row = false) :
    pg.HasNumbers row ↔ pg.HasPlainNumbers row := by
  obtain ⟨seriesId, -, hmember⟩ := memberRow_eq h
  simp only [HasPlainNumbers, List.forall_mem_cons, List.not_mem_nil, false_imp_iff, implies_true,
    and_true, ← episodeNumber_eq_expected_iff]
  rw [HasNumbers, hmember]
  constructor
  · rintro ⟨member, hok, hseason, hepisode⟩
    obtain ⟨season, hseasonOk, hok⟩ := exists_of_bind_eq_ok hok
    obtain ⟨episode, hepisodeOk, hok⟩ := exists_of_bind_eq_ok hok
    cases hok
    exact ⟨hseasonOk.trans (congrArg _ hseason), hepisodeOk.trans (congrArg _ hepisode)⟩
  · rintro ⟨hseason, hepisode⟩
    rw [hseason, hepisode]
    exact ⟨_, rfl, rfl, rfl⟩

end Postgres

def HasStaleMember (pg : Postgres) (catalog : TvCatalog) (folder : Uuid) : Prop :=
  ∃ member ∈ catalog.tables.members, member.virtualFolderId ≠ folder ∧
    ∃ row ∈ pg.folderEpisodes catalog.rows folder, row.item.id = member.itemId

/-- The rebuild fails over stale members at most, and writes the numbers of the metadata. -/
structure SurvivesMetadata (pg : Postgres) (catalog : TvCatalog) (folder : Uuid) : Prop where
  onlyStale : ∀ error, pg.rebuildTvSeriesCatalogProjection catalog.folders catalog.rows
    catalog.tables folder = .error error → error = .uniqueViolation ∧ HasStaleMember pg catalog folder
  numbers : pg.eligible catalog.folders catalog.rows folder = true →
    ∀ row ∈ pg.folderEpisodes catalog.rows folder, pg.HasNumbers row
  written : ∀ covered after, pg.rebuildTvSeriesCatalogProjection catalog.folders catalog.rows
    catalog.tables folder = .ok (covered, after) → ∀ member ∈ after.members,
      member.virtualFolderId = folder → covered = true ∧
        ∃ row ∈ pg.folderEpisodes catalog.rows folder, pg.memberRow row = .ok member

theorem nodup_delete_append {α κ : Type} {old new : List α} {owner : α → Uuid} {key : α → κ}
    {folder : Uuid} (hold : (old.map key).Nodup) (hnew : (new.map key).Nodup)
    (hapart : ∀ row ∈ old, owner row ≠ folder → ∀ row' ∈ new, key row ≠ key row') :
    ((old.filter (owner · != folder) ++ new).map key).Nodup := by
  rw [List.map_append, List.nodup_append]
  refine ⟨hold.sublist (List.filter_sublist.map key), hnew, ?_⟩
  rintro _ hkey _ hkey' rfl
  obtain ⟨row, hkept, rfl⟩ := List.mem_map.mp hkey
  obtain ⟨row', hrow', heq⟩ := List.mem_map.mp hkey'
  obtain ⟨hrow, hother⟩ := List.mem_filter.mp hkept
  exact hapart row hrow (bne_iff_ne.mp hother) row' hrow' heq.symm

namespace Postgres

variable {series : List TvSeriesRow} {members : List TvSeriesMember}

theorem nodup_series (hold : (before.series.map fun row =>
      (row.virtualFolderId, row.seriesId)).Nodup)
    (h : List.Forall₂ (fun group row => pg.seriesRow folder group = .ok row)
      (groups pg.seriesId (pg.folderSources rows folder)) series) :
    (((before.delete folder).series ++ series).map fun row =>
      (row.virtualFolderId, row.seriesId)).Nodup := by
  have hfolder : ∀ row ∈ series, row.virtualFolderId = folder := by
    intro row hrow
    obtain ⟨group, -, hgroup⟩ := exists_left_of_mem h hrow
    exact (seriesRow_eq_ok hgroup).1
  refine nodup_delete_append hold ?_ fun row _ hother row' hrow' heq => hother ?_
  · have hids := nodup_groups pg.seriesId (pg.folderSources rows folder)
    rw [← map_eq_map_of_forall₂ h fun group row hrow => (seriesRow_eq_ok hrow).2.1.symm] at hids
    have hpairs : ((series.map fun row => (row.virtualFolderId, row.seriesId)).map
        fun pair => some pair.2).Nodup := by
      rw [List.map_map]
      exact hids
    exact hpairs.of_map _
  · rw [← hfolder row' hrow']
    exact (Prod.mk.inj heq).1

theorem nodup_members (hold : (before.members.map (·.itemId)).Nodup)
    (hrows : (rows.map (·.item.id)).Nodup)
    (h : List.Forall₂ (fun row member => pg.memberRow row = .ok member)
      (pg.folderEpisodes rows folder) members)
    (hstale : ∀ member ∈ before.members, member.virtualFolderId ≠ folder →
      ∀ row ∈ pg.folderEpisodes rows folder, row.item.id ≠ member.itemId) :
    (((before.delete folder).members ++ members).map (·.itemId)).Nodup := by
  have hids : (pg.folderEpisodes rows folder).map (·.item.id) = members.map (·.itemId) :=
    (map_eq_map_of_forall₂ h fun row member hmember => (memberRow_eq_ok hmember).1).symm
  refine nodup_delete_append hold ?_ fun member hmember hother member' hmember' heq => ?_
  · rw [← hids]
    exact hrows.sublist (List.filter_sublist.map _)
  · obtain ⟨row, hrow, hmade⟩ := exists_left_of_mem h hmember'
    exact hstale member hmember hother row hrow ((memberRow_eq_ok hmade).1.symm.trans heq.symm)

theorem rebuild_of_eligible (h : pg.eligible catalog.folders catalog.rows folder = true)
    {members : List TvSeriesMember}
    (hmembers : (pg.folderEpisodes catalog.rows folder).mapM pg.memberRow = .ok members) :
    (∃ after, pg.rebuildTvSeriesCatalogProjection catalog.folders catalog.rows catalog.tables
        folder = .ok (true, after)) ∨
      pg.rebuildTvSeriesCatalogProjection catalog.folders catalog.rows catalog.tables folder =
        .error .uniqueViolation ∧ HasStaleMember pg catalog folder := by
  obtain ⟨series, hseries⟩ := exists_seriesRows h
  rw [rebuildTvSeriesCatalogProjection, if_pos h, hseries, ok_bind, hmembers, ok_bind]
  dsimp only
  split_ifs with hkeyed
  · exact .inl ⟨_, rfl⟩
  · refine .inr ⟨rfl, ?_⟩
    by_contra hstale
    have hfresh : ∀ member ∈ catalog.tables.members, member.virtualFolderId ≠ folder →
        ∀ row ∈ pg.folderEpisodes catalog.rows folder, row.item.id ≠ member.itemId :=
      fun member hmember hother row hrow heq =>
        hstale ⟨member, hmember, hother, row, hrow, heq⟩
    refine hkeyed ⟨?_, nodup_series catalog.keyed.2.1 (forall₂_of_mapM hseries),
      nodup_members catalog.keyed.2.2 catalog.distinct (forall₂_of_mapM hmembers) hfresh⟩
    exact nodup_delete_append catalog.keyed.1 (List.nodup_singleton _)
      fun row _ hother row' hrow' => (List.mem_singleton.mp hrow') ▸ hother

theorem rebuild_of_not_eligible (h : pg.eligible catalog.folders catalog.rows folder = false) :
    pg.rebuildTvSeriesCatalogProjection catalog.folders catalog.rows catalog.tables folder =
      .ok (false, catalog.tables.delete folder) := by
  rw [rebuildTvSeriesCatalogProjection, if_neg (by rw [h]; exact Bool.false_ne_true)]

theorem written_of_rebuild {covered : Bool}
    (h : pg.rebuildTvSeriesCatalogProjection catalog.folders catalog.rows catalog.tables folder =
      .ok (covered, after)) {member : TvSeriesMember} (hmember : member ∈ after.members)
    (hfolder : member.virtualFolderId = folder) :
    covered = true ∧ ∃ row ∈ pg.folderEpisodes catalog.rows folder, pg.memberRow row = .ok member := by
  have hkept : member ∉ (catalog.tables.delete folder).members := fun hmem =>
    bne_iff_ne.mp (List.mem_filter.mp hmem).2 hfolder
  cases hcovered : covered with
  | false =>
    subst hcovered
    cases heligible : pg.eligible catalog.folders catalog.rows folder with
    | false =>
      rw [rebuild_of_not_eligible heligible] at h
      cases h
      exact absurd hmember hkept
    | true =>
      rw [rebuildTvSeriesCatalogProjection, if_pos heligible] at h
      obtain ⟨series, -, h⟩ := exists_of_bind_eq_ok h
      obtain ⟨members, -, h⟩ := exists_of_bind_eq_ok h
      change (if _ then _ else _) = _ at h
      split at h
      · cases h
      · cases h
  | true =>
    subst hcovered
    obtain ⟨-, series, members, -, hmembers, -, hafter⟩ := rebuild_cases h
    rw [hafter] at hmember
    obtain ⟨row, hrow, hmade⟩ := exists_left_of_mem (forall₂_of_mapM hmembers)
      ((List.mem_append.mp hmember).resolve_left hkept)
    exact ⟨rfl, row, hrow, hmade⟩

end Postgres

def episodeOfSeason (number : String) : TvCatalog where
  folders := [⟨1, "Shows", some "tvshows", []⟩]
  rows := [{
    item := { itemNamed 7 "Pilot" with
      virtualFolderId := 1
      collectionType := some "tvshows" }
    metadata := .object [("ParentIndexNumber", .string number),
      ("SeriesId", .string "0123456789abcdef0123456789abcdef"), ("SeriesName", .string "Harbour")]
    missingSince := none }]
  tables := ⟨[], [], []⟩
  distinct := List.nodup_singleton _
  inFolders := List.forall_mem_singleton.mpr List.mem_cons_self
  distinctFolders := by decide
  keyed := by decide

end Jellyrin.TvProjection
