import Jellyrin.Defs.Catalog.LocalScan

/-! Folders that do not overlap: every path belongs to one, its home.  Scans of such folders cannot
meet, and each leaves its folder as the files are. -/

namespace Jellyrin.Catalog

open HashMap Transition

variable {fmt : TextFormats} {home : String → Uuid} {items items' : HashMap Uuid MediaItemRow}
  {deletions : Finset String} {s t : LocalLibrary} {folderId : Uuid}

/-! The item of a file. -/

variable {id : Uuid}

theorem exactId_eq_some {path : String} (h : exactId path items = some id) :
    ∃ item, items.lookup id = some item ∧ item.path = path := by
  obtain ⟨entry, hentry, rfl⟩ := Option.map_eq_some_iff.mp h
  obtain ⟨hmem, hpath⟩ := List.mem_filter.mp (mem_of_minOf hentry)
  exact ⟨entry.2, mem_entries_iff.mp hmem, of_decide_eq_true hpath⟩

variable {item : MediaItemRow}

theorem exactId_eq_none {path : String} (h : exactId path items = none)
    (hitem : items.lookup id = some item) : item.path ≠ path := by
  intro hpath
  have hmem : (⟨id, item⟩ : ItemEntry) ∈ items.entries.filter fun entry => entry.2.path = path :=
    List.mem_filter.mpr ⟨mem_entries_iff.mpr hitem, decide_eq_true hpath⟩
  rw [eq_nil_of_minOf (Option.map_eq_none_iff.mp h)] at hmem
  cases hmem

theorem exactId_of_visible {path : String} (hitem : items.lookup id = some item)
    (hpath : item.path = path) (hvisible : item.missingSince = none)
    (hunique : ∀ other otherItem, items.lookup other = some otherItem → otherItem.path = path →
      otherItem.missingSince = none → other = id) : exactId path items = some id := by
  have hmem : (⟨id, item⟩ : ItemEntry) ∈ items.entries.filter fun entry => entry.2.path = path :=
    List.mem_filter.mpr ⟨mem_entries_iff.mpr hitem, decide_eq_true hpath⟩
  have horiented : Std.OrientedCmp fun a b : ItemEntry =>
      compare a.2.missingSince b.2.missingSince :=
    inferInstanceAs (Std.OrientedCmp (compareOn fun a : ItemEntry => a.2.missingSince))
  rw [exactId, minOf_eq_some_of_lt hmem]
  · rfl
  · intro entry hentry hne
    obtain ⟨hlookup, hsame⟩ := List.mem_filter.mp hentry
    have hlookup := mem_entries_iff.mp hlookup
    cases hmissing : entry.2.missingSince with
    | some since =>
      rw [hvisible]
      rfl
    | none =>
      have hid := hunique entry.1 entry.2 hlookup (of_decide_eq_true hsame) hmissing
      obtain ⟨other, otherItem⟩ := entry
      obtain rfl : other = id := hid
      rw [hitem] at hlookup
      cases hlookup
      exact absurd rfl hne

theorem isCandidate_iff {values : String × Int × Int} {path : String} :
    isCandidate folderId values path item = true ↔ item.virtualFolderId = folderId ∧
      item.values = some values ∧ item.path ≠ path ∧ item.missingSince.isSome := by
  simp only [isCandidate, Bool.and_eq_true, decide_eq_true_eq, and_assoc]

variable {file : LocalMediaFile}

theorem identityId_eq_some (h : identityId folderId file items = some id) :
    ∃ item, items.lookup id = some item ∧ item.virtualFolderId = folderId ∧
      item.values = file.values ∧ item.path ≠ file.path ∧ item.missingSince.isSome := by
  rw [identityId] at h
  split at h
  · cases h
  · rename_i values hvalues
    obtain ⟨entry, hentry, rfl⟩ := Option.map_eq_some_iff.mp h
    obtain ⟨hmem, hcandidate⟩ := List.mem_filter.mp (mem_of_minOf hentry)
    obtain ⟨hfolder, hsame, hpath, hmissing⟩ := isCandidate_iff.mp hcandidate
    exact ⟨entry.2, mem_entries_iff.mp hmem, hfolder, hsame.trans hvalues.symm, hpath, hmissing⟩

theorem knownId_spec {newId : Uuid} (hid : (knownId folderId file items).getD newId = id) :
    (∃ item, items.lookup id = some item ∧ item.path = file.path) ∨
      (∀ other item, items.lookup other = some item → item.path ≠ file.path) ∧
        ((∃ item, items.lookup id = some item ∧ item.virtualFolderId = folderId ∧
          item.missingSince.isSome) ∨ knownId folderId file items = none) := by
  rw [knownId] at hid ⊢
  cases hexact : exactId file.path items with
  | some exact =>
    rw [hexact] at hid
    obtain rfl : exact = id := hid
    exact .inl (exactId_eq_some hexact)
  | none =>
    rw [hexact] at hid
    refine .inr ⟨fun other item hitem => exactId_eq_none hexact hitem, ?_⟩
    cases hidentity : identityId folderId file items with
    | none => exact .inr rfl
    | some identity =>
      rw [hidentity] at hid
      obtain rfl : identity = id := hid
      obtain ⟨item, hitem, hfolder, -, -, hmissing⟩ := identityId_eq_some hidentity
      exact .inl ⟨item, hitem, hfolder, hmissing⟩

/-! Items that become missing. -/

/-- The items are as before, but for those that are gone, which are missing. -/
structure Hides (gone : Uuid → MediaItemRow → Prop) (items items' : HashMap Uuid MediaItemRow) :
    Prop where
  back : ∀ id item', items'.lookup id = some item' → ∃ item, items.lookup id = some item ∧
    item'.virtualFolderId = item.virtualFolderId ∧ item'.path = item.path ∧
    item'.values = item.values ∧ (item.missingSince.isSome → item'.missingSince.isSome) ∧
    (item'.missingSince = none → item' = item ∧ ¬ gone id item)
  keep : ∀ id item, items.lookup id = some item → ¬ gone id item → items'.lookup id = some item

theorem hides_map {gone : Uuid → MediaItemRow → Bool} {now : Int}
    (h : ∀ id, items'.lookup id = (items.lookup id).map fun item =>
      if gone id item then { item with missingSince := some now } else item) :
    Hides (fun id item => gone id item = true) items items' where
  back := by
    intro id item' hitem'
    rw [h] at hitem'
    obtain ⟨item, hitem, rfl⟩ := Option.map_eq_some_iff.mp hitem'
    cases hgone : gone id item with
    | true => exact ⟨item, hitem, rfl, rfl, rfl, fun _ => rfl, nofun⟩
    | false => exact ⟨item, hitem, rfl, rfl, rfl, fun h => h, fun _ => ⟨rfl, by simp [hgone]⟩⟩
  keep := by
    intro id item hitem hgone
    rw [h, hitem, Option.map_some, if_neg hgone]

theorem hides_markMissing (now : Int) (stale : MediaItemRow → Bool) (catalogue : Catalogue) :
    Hides (fun _ item => (item.missingSince.isNone && stale item) = true) catalogue.items
      (markMissing now stale catalogue).items :=
  hides_map fun id => lookup_mapValues _ _ id

/-! What every step keeps. -/

def IsShown (path : String) (items : HashMap Uuid MediaItemRow) : Prop :=
  ∃ id item, items.lookup id = some item ∧ item.missingSince = none ∧ item.path = path

/-- Every item is at home; visible items have paths of their own, none of which is deleted. -/
structure Clean (home : String → Uuid) (deletions : Finset String)
    (items : HashMap Uuid MediaItemRow) : Prop where
  atHome : ∀ id item, items.lookup id = some item → item.virtualFolderId = home item.path
  distinct : ∀ id item other otherItem, items.lookup id = some item →
    items.lookup other = some otherItem → item.missingSince = none →
    otherItem.missingSince = none → item.path = otherItem.path → id = other
  notDeleted : ∀ id item, items.lookup id = some item → item.missingSince = none →
    item.path ∉ deletions

structure ScanTask.Fits (home : String → Uuid) (deletions : Finset String)
    (items : HashMap Uuid MediaItemRow) (folderId : Uuid) (task : ScanTask) : Prop where
  atHome : ∀ file ∈ task.listed, home file.path = folderId
  files : ∀ file ∈ task.files, file ∈ task.listed
  indexed : ∀ indexed, task.indexed = some indexed →
    home indexed.file.path = folderId ∧ indexed.file.path ∉ deletions
  /-- The item that was chosen is still one that may take the file. -/
  chosen : ∀ file id current, task.indexed = some (.chosen file id current) →
    (∀ item, items.lookup id = some item →
      item.virtualFolderId = folderId ∧ (item.path = file.path ∨ item.missingSince.isSome)) ∧
    ∀ other item, items.lookup other = some item → item.missingSince = none →
      item.path = file.path → other = id
  listed : ∀ path ∈ task.foundPaths, ∃ file ∈ task.listed,
    file.path = path ∧ file.toMediaFile.isSome
  seen : ∀ file ∈ task.listed, file.toMediaFile.isSome →
    file ∈ task.files ∨ file.path ∈ task.foundPaths ∨ file.path ∈ deletions
  found : ∀ path ∈ task.foundPaths,
    (∃ indexed, task.indexed = some indexed ∧ indexed.file.path = path) ∨ IsShown path items ∨
      path ∈ deletions

structure LocalLibrary.Fits (home : String → Uuid) (s : LocalLibrary) : Prop where
  clean : Clean home s.deletions s.catalogue.items
  scans : ∀ folderId task, s.scans.lookup folderId = some task →
    task.Fits home s.deletions s.catalogue.items folderId
  waiting : ∀ waiting ∈ s.waiting,
    home waiting.file.path = waiting.folderId ∧ waiting.file.path ∉ s.deletions
  /-- No two scans have chosen one item. -/
  apart : ∀ folderId otherId task other id, s.scans.lookup folderId = some task →
    s.scans.lookup otherId = some other → task.hasChosen id = true → other.hasChosen id = true →
      folderId = otherId

/-- Scans stay in the folder that is the home of their files, and nobody deletes an item whose file
is being indexed. -/
def StaysHome (home : String → Uuid) (s : LocalLibrary) : ScanAction → Prop
  | .beginScan folderId disk => ∀ folder, s.catalogue.folders.lookup folderId = some folder →
    ∀ file ∈ (folder.locations.filterMap disk).flatten, home file.path = folderId
  | .checkSingleFile folderId file => home file.path = folderId
  | .delete ids _ => ∀ id ∈ ids, ∀ item, s.catalogue.items.lookup id = some item →
    item.missingSince = none →
      (∀ waiting ∈ s.waiting, waiting.file.path ≠ item.path) ∧
        ∀ folderId task indexed, s.scans.lookup folderId = some task →
          task.indexed = some indexed → indexed.file.path ≠ item.path
  | _ => True

theorem Clean.hide {gone : Uuid → MediaItemRow → Prop} {deletions' : Finset String}
    (h : Clean home deletions items) (hides : Hides gone items items')
    (hdeletions : ∀ path ∈ deletions', path ∈ deletions ∨ ∃ id item,
      items.lookup id = some item ∧ item.missingSince = none ∧ gone id item ∧ item.path = path) :
    Clean home deletions' items' where
  atHome := by
    intro id item' hitem'
    obtain ⟨item, hitem, hfolder, hpath, -⟩ := hides.back id item' hitem'
    rw [hfolder, hpath]
    exact h.atHome id item hitem
  distinct := by
    intro id item' other otherItem' hitem' hother' hvisible' hshown' hpath
    obtain ⟨item, hitem, -, -, -, -, hsame⟩ := hides.back id item' hitem'
    obtain ⟨otherItem, hother, -, -, -, -, hotherSame⟩ := hides.back other otherItem' hother'
    obtain ⟨rfl, -⟩ := hsame hvisible'
    obtain ⟨rfl, -⟩ := hotherSame hshown'
    exact h.distinct id _ other _ hitem hother hvisible' hshown' hpath
  notDeleted := by
    intro id item' hitem' hvisible hmem
    obtain ⟨item, hitem, -, -, -, -, hsame⟩ := hides.back id item' hitem'
    obtain ⟨rfl, hgone⟩ := hsame hvisible
    obtain hold | ⟨other, otherItem, hother, hshown, hotherGone, hpath⟩ := hdeletions _ hmem
    · exact h.notDeleted id _ hitem hvisible hold
    · obtain rfl := h.distinct other _ id _ hother hitem hshown hvisible hpath
      rw [hother] at hitem
      cases hitem
      exact hgone hotherGone

variable {task : ScanTask}

theorem ScanTask.Fits.hide {gone : Uuid → MediaItemRow → Prop} {deletions' : Finset String}
    (h : task.Fits home deletions items folderId) (hides : Hides gone items items')
    (hdeletions : deletions ⊆ deletions')
    (hindexed : ∀ indexed, task.indexed = some indexed → indexed.file.path ∉ deletions')
    (hfound : ∀ path ∈ task.foundPaths, ∀ id item, items.lookup id = some item →
      item.missingSince = none → item.path = path → gone id item → path ∈ deletions') :
    task.Fits home deletions' items' folderId where
  atHome := h.atHome
  files := h.files
  indexed indexed heq := ⟨(h.indexed indexed heq).1, hindexed indexed heq⟩
  chosen := by
    intro file id current heq
    obtain ⟨htakes, hunique⟩ := h.chosen file id current heq
    constructor
    · intro item' hitem'
      obtain ⟨item, hitem, hfolder, hpath, -, hmissing, -⟩ := hides.back id item' hitem'
      obtain ⟨hhome, hor⟩ := htakes item hitem
      rw [hfolder, hpath]
      exact ⟨hhome, hor.imp_right hmissing⟩
    · intro other item' hitem' hvisible hpath
      obtain ⟨item, hitem, -, -, -, -, hsame⟩ := hides.back other item' hitem'
      obtain ⟨rfl, -⟩ := hsame hvisible
      exact hunique other _ hitem hvisible hpath
  listed := h.listed
  seen file hfile hmedia := (h.seen file hfile hmedia).imp_right fun hor =>
    hor.imp_right fun hmem => hdeletions hmem
  found := by
    intro path hpath
    obtain hbusy | ⟨id, item, hitem, hvisible, hsame⟩ | hdeleted := h.found path hpath
    · exact .inl hbusy
    · by_cases hgone : gone id item
      · exact .inr (.inr (hfound path hpath id item hitem hvisible hsame hgone))
      · exact .inr (.inl ⟨id, item, hides.keep id item hitem hgone, hvisible, hsame⟩)
    · exact .inr (.inr (hdeletions hdeleted))

/-! The transaction of a scan. -/

theorem postgresUpsertLocalMediaItem_spec {catalogue catalogue' : Catalogue}
    {folder : VirtualFolder} {current : Json}
    (h : postgresUpsertLocalMediaItem fmt id folderId folder file current catalogue =
      some catalogue') :
    ∃ item, catalogue'.items = catalogue.items.insert id item ∧ item.virtualFolderId = folderId ∧
      item.path = file.path ∧ item.values = file.values ∧ item.missingSince = none ∧
      catalogue'.playbackStates = catalogue.playbackStates ∧
      catalogue'.listEntries = catalogue.listEntries := by
  obtain ⟨-, -, h⟩ := Option.bind_eq_some_iff.mp h
  obtain ⟨-, -, h⟩ := Option.bind_eq_some_iff.mp h
  obtain ⟨rows, -, h⟩ := Option.bind_eq_some_iff.mp h
  cases h
  exact ⟨_, rfl, rfl, rfl, rfl, rfl, rfl, rfl⟩

theorem Clean.insert (h : Clean home deletions items)
    (hhome : item.virtualFolderId = home item.path) (hdeleted : item.path ∉ deletions)
    (hunique : ∀ other otherItem, items.lookup other = some otherItem →
      otherItem.missingSince = none → otherItem.path = item.path → other = id) :
    Clean home deletions (items.insert id item) where
  atHome := by
    intro other otherItem hother
    obtain ⟨rfl, rfl⟩ | ⟨-, hold⟩ := lookup_insert_eq_some.mp hother
    · exact hhome
    · exact h.atHome other otherItem hold
  distinct := by
    intro a aItem b bItem ha hb hvisible hshown hpath
    obtain ⟨rfl, rfl⟩ | ⟨-, haOld⟩ := lookup_insert_eq_some.mp ha <;>
      obtain ⟨rfl, rfl⟩ | ⟨-, hbOld⟩ := lookup_insert_eq_some.mp hb
    · rfl
    · exact (hunique b bItem hbOld hshown hpath.symm).symm
    · exact hunique a aItem haOld hvisible hpath
    · exact h.distinct a aItem b bItem haOld hbOld hvisible hshown hpath
  notDeleted := by
    intro other otherItem hother hvisible
    obtain ⟨rfl, rfl⟩ | ⟨-, hold⟩ := lookup_insert_eq_some.mp hother
    · exact hdeleted
    · exact h.notDeleted other otherItem hold hvisible

theorem hasChosen_iff :
    task.hasChosen id = true ↔ ∃ file current, task.indexed = some (.chosen file id current) := by
  rw [ScanTask.hasChosen]
  split
  · rename_i file other current heq
    constructor
    · intro hsame
      obtain rfl := of_decide_eq_true hsame
      exact ⟨file, current, heq⟩
    · rintro ⟨file', current', heq'⟩
      rw [heq] at heq'
      cases heq'
      exact decide_eq_true rfl
  · rename_i hnone
    constructor
    · nofun
    · rintro ⟨file, current, heq⟩
      exact absurd heq (hnone file id current)

theorem ScanTask.Fits.home_of_found {path : String} (h : task.Fits home deletions items folderId)
    (hpath : path ∈ task.foundPaths) : home path = folderId := by
  obtain ⟨file, hfile, rfl, -⟩ := h.listed path hpath
  exact h.atHome file hfile

theorem ScanTask.Fits.insert_other {otherId : Uuid} (h : task.Fits home deletions items otherId)
    (hclean : Clean home deletions items) (hne : folderId ≠ otherId)
    (hhome : home item.path = folderId)
    (hold : ∀ old, items.lookup id = some old → old.virtualFolderId = folderId)
    (hapart : task.hasChosen id ≠ true) :
    task.Fits home deletions (items.insert id item) otherId where
  atHome := h.atHome
  files := h.files
  indexed := h.indexed
  chosen := by
    intro file chosenId current heq
    have hother : chosenId ≠ id := by
      rintro rfl
      exact hapart (hasChosen_iff.mpr ⟨file, current, heq⟩)
    obtain ⟨htakes, hunique⟩ := h.chosen file chosenId current heq
    constructor
    · intro chosenItem hlookup
      obtain ⟨hsame, -⟩ | ⟨-, hlookup⟩ := lookup_insert_eq_some.mp hlookup
      · exact absurd hsame hother
      · exact htakes chosenItem hlookup
    · intro other otherItem hlookup hvisible hpath
      obtain ⟨rfl, rfl⟩ | ⟨-, hlookup⟩ := lookup_insert_eq_some.mp hlookup
      · rw [hpath] at hhome
        exact absurd (hhome.symm.trans (h.indexed _ heq).1) hne
      · exact hunique other otherItem hlookup hvisible hpath
  listed := h.listed
  seen := h.seen
  found := by
    intro path hpath
    obtain hbusy | ⟨other, otherItem, hlookup, hvisible, rfl⟩ | hdeleted := h.found path hpath
    · exact .inl hbusy
    · have hstays : other ≠ id := by
        rintro rfl
        have hfolder := hclean.atHome other otherItem hlookup
        rw [hold otherItem hlookup, h.home_of_found hpath] at hfolder
        exact hne hfolder
      refine .inr (.inl ⟨other, otherItem, ?_, hvisible, rfl⟩)
      exact lookup_insert_eq_some.mpr (.inr ⟨hstays, hlookup⟩)
    · exact .inr (.inr hdeleted)

theorem ScanTask.Fits.insert_self {current : Json} (h : task.Fits home deletions items folderId)
    (heq : task.indexed = some (.chosen file id current)) (hpath : item.path = file.path)
    (hvisible : item.missingSince = none) :
    { task with indexed := none }.Fits home deletions (items.insert id item) folderId where
  atHome := h.atHome
  files := h.files
  indexed _ heq := nomatch heq
  chosen _ _ _ heq := nomatch heq
  listed := h.listed
  seen := h.seen
  found := by
    have hshown : IsShown file.path (items.insert id item) :=
      ⟨id, item, lookup_insert_eq_some.mpr (.inl ⟨rfl, rfl⟩), hvisible, hpath⟩
    intro path hmem
    obtain ⟨indexed, hindexed, rfl⟩ | ⟨other, otherItem, hlookup, hother, rfl⟩ | hdeleted :=
      h.found path hmem
    · rw [heq] at hindexed
      cases hindexed
      exact .inr (.inl hshown)
    · by_cases hsame : other = id
      · subst hsame
        obtain hfile | hmissing := ((h.chosen file other current heq).1 otherItem hlookup).2
        · rw [hfile]
          exact .inr (.inl hshown)
        · rw [hother] at hmissing
          cases hmissing
      · refine .inr (.inl ⟨other, otherItem, ?_, hother, rfl⟩)
        exact lookup_insert_eq_some.mpr (.inr ⟨hsame, hlookup⟩)
    · exact .inr (.inr hdeleted)

/-! Steps. -/

inductive Outcome (fmt : TextFormats) (s : LocalLibrary) : ScanAction → LocalLibrary → Prop
  | beginScan {folderId : Uuid} {disk : String → Option (List DiskFile)} (folder : VirtualFolder)
      (hfree : folderId ∉ s.scans) (hfolder : s.catalogue.folders.lookup folderId = some folder) :
      Outcome fmt s (.beginScan folderId disk) { s with
        scans := s.scans.insert folderId {
          folder
          listed := (folder.locations.filterMap disk).flatten
          files := (folder.locations.filterMap disk).flatten
          foundPaths := ∅
          indexed := none
          canReconcileStale := folder.locations.all fun location => (disk location).isSome } }
  | checkFile {folderId : Uuid} (task task' : ScanTask)
      (htask : s.scans.lookup folderId = some task)
      (htask' : task.checkFile s.deletions = some task') :
      Outcome fmt s (.checkFile folderId) { s with scans := s.scans.insert folderId task' }
  | chooseItem {folderId : Uuid} (task : ScanTask) (file : LocalMediaFile) (newId id : Uuid)
      (current : Json) (htask : s.scans.lookup folderId = some task)
      (heq : task.indexed = some (.checked file newId))
      (hid : (knownId folderId file s.catalogue.items).getD newId = id)
      (hguard : (knownId folderId file s.catalogue.items).isSome || s.isFresh newId) :
      Outcome fmt s (.chooseItem folderId) { s with
        scans := s.scans.insert folderId { task with indexed := some (.chosen file id current) } }
  | upsertItem {folderId : Uuid} (task : ScanTask) (file : LocalMediaFile) (id : Uuid)
      (current : Json) (item : MediaItemRow) (catalogue : Catalogue)
      (htask : s.scans.lookup folderId = some task)
      (heq : task.indexed = some (.chosen file id current))
      (hitems : catalogue.items = s.catalogue.items.insert id item)
      (hfolder : item.virtualFolderId = folderId) (hpath : item.path = file.path)
      (hvalues : item.values = file.values) (hvisible : item.missingSince = none)
      (hstates : catalogue.playbackStates = s.catalogue.playbackStates)
      (hentries : catalogue.listEntries = s.catalogue.listEntries) :
      Outcome fmt s (.upsertItem folderId) { s with
        catalogue
        scans := s.scans.insert folderId { task with indexed := none } }
  | finishScan {folderId : Uuid} {now : Int} (task : ScanTask)
      (htask : s.scans.lookup folderId = some task) (hindexed : task.indexed = none)
      (hfiles : task.files = []) :
      Outcome fmt s (.finishScan folderId now) { s with
        catalogue := markMissing now (fun item => task.canReconcileStale &&
          item.virtualFolderId = folderId && item.path ∉ task.foundPaths) s.catalogue
        scans := s.scans.erase folderId }
  | dropScan {folderId : Uuid} :
      Outcome fmt s (.dropScan folderId) { s with scans := s.scans.erase folderId }
  | checkSingleFile {folderId : Uuid} {file : DiskFile} (folder : VirtualFolder)
      (media : LocalMediaFile) (hdeleted : file.path ∉ s.deletions)
      (hmedia : file.toMediaFile = some media) :
      Outcome fmt s (.checkSingleFile folderId file) { s with
        waiting := ⟨folderId, folder, media, file.newId⟩ :: s.waiting }
  | beginSingleFile {index : Nat} (waiting : WaitingFile)
      (hwaiting : s.waiting[index]? = some waiting) (hfree : waiting.folderId ∉ s.scans) :
      Outcome fmt s (.beginSingleFile index) { s with
        scans := s.scans.insert waiting.folderId {
          folder := waiting.folder
          listed := []
          files := []
          foundPaths := ∅
          indexed := some (.checked waiting.file waiting.newId)
          canReconcileStale := false }
        waiting := s.waiting.eraseIdx index }
  | markMissing {folderId : Uuid} {path : String} {now : Int} (hfree : folderId ∉ s.scans) :
      Outcome fmt s (.markMissing folderId path now) { s with
        catalogue := markMissing now (fun item => item.path = path &&
          item.virtualFolderId = folderId) s.catalogue }
  | delete {ids : List Uuid} {now : Int} : Outcome fmt s (.delete ids now) (deleteMediaItems ids now s)

theorem outcome_of_step {start : Catalogue} {action : ScanAction}
    (h : (scanMachine fmt start deletions).step s action = some t) : Outcome fmt s action t := by
  change scanStep fmt s action = some t at h
  cases action with
  | beginScan folderId disk =>
    obtain ⟨_, hguard, h⟩ := Option.bind_eq_some_iff.mp h
    obtain ⟨folder, hfolder, h⟩ := Option.bind_eq_some_iff.mp h
    cases h
    exact .beginScan folder ((Option.guard_eq_some' _).mp hguard) hfolder
  | checkFile folderId =>
    obtain ⟨task, htask, h⟩ := Option.bind_eq_some_iff.mp h
    obtain ⟨task', htask', h⟩ := Option.bind_eq_some_iff.mp h
    cases h
    exact .checkFile task task' htask htask'
  | chooseItem folderId =>
    obtain ⟨task, htask, h⟩ := Option.bind_eq_some_iff.mp h
    dsimp only at h
    split at h
    · rename_i file newId heq
      obtain ⟨_, hguard, h⟩ := Option.bind_eq_some_iff.mp h
      cases h
      exact .chooseItem task file newId _ _ htask heq rfl ((Option.guard_eq_some' _).mp hguard)
    · cases h
  | upsertItem folderId =>
    obtain ⟨task, htask, h⟩ := Option.bind_eq_some_iff.mp h
    split at h
    · rename_i file id current heq
      obtain ⟨catalogue, hcatalogue, h⟩ := Option.bind_eq_some_iff.mp h
      cases h
      obtain ⟨item, hitems, hfolder, hpath, hvalues, hvisible, hstates, hentries⟩ :=
        postgresUpsertLocalMediaItem_spec hcatalogue
      exact .upsertItem task file id current item catalogue htask heq hitems hfolder hpath hvalues
        hvisible hstates hentries
    · cases h
  | finishScan folderId now =>
    obtain ⟨task, htask, h⟩ := Option.bind_eq_some_iff.mp h
    obtain ⟨_, hguard, h⟩ := Option.bind_eq_some_iff.mp h
    cases h
    obtain ⟨hindexed, hfiles⟩ := Bool.and_eq_true_iff.mp ((Option.guard_eq_some' _).mp hguard)
    exact .finishScan task htask (Option.isNone_iff_eq_none.mp hindexed) (List.isEmpty_iff.mp hfiles)
  | dropScan folderId =>
    cases h
    exact .dropScan
  | checkSingleFile folderId file =>
    obtain ⟨_, hguard, h⟩ := Option.bind_eq_some_iff.mp h
    obtain ⟨media, hmedia, h⟩ := Option.bind_eq_some_iff.mp h
    obtain ⟨folder, -, h⟩ := Option.bind_eq_some_iff.mp h
    obtain ⟨-, -, h⟩ := Option.bind_eq_some_iff.mp h
    cases h
    exact .checkSingleFile folder media ((Option.guard_eq_some' _).mp hguard) hmedia
  | beginSingleFile index =>
    obtain ⟨waiting, hwaiting, h⟩ := Option.bind_eq_some_iff.mp h
    obtain ⟨_, hguard, h⟩ := Option.bind_eq_some_iff.mp h
    cases h
    exact .beginSingleFile waiting hwaiting ((Option.guard_eq_some' _).mp hguard)
  | markMissing folderId path now =>
    obtain ⟨_, hguard, h⟩ := Option.bind_eq_some_iff.mp h
    cases h
    exact .markMissing ((Option.guard_eq_some' _).mp hguard)
  | delete ids now =>
    cases h
    exact .delete

theorem toMediaFile_path {file : DiskFile} {media : LocalMediaFile}
    (h : file.toMediaFile = some media) : media.path = file.path := by
  obtain ⟨name, -, h⟩ := Option.bind_eq_some_iff.mp h
  obtain ⟨mediaType, -, h⟩ := Option.bind_eq_some_iff.mp h
  cases h
  rfl

theorem hasChosen_of_indexed_none (h : task.indexed = none) (id : Uuid) :
    task.hasChosen id = false := by
  rw [ScanTask.hasChosen, h]

theorem ScanTask.Fits.begin {files : List DiskFile} (folder : VirtualFolder) (reconcile : Bool)
    (h : ∀ file ∈ files, home file.path = folderId) :
    ScanTask.Fits home deletions items folderId {
      folder, files, listed := files, foundPaths := ∅, indexed := none
      canReconcileStale := reconcile } where
  atHome := h
  files _ hfile := hfile
  indexed _ heq := nomatch heq
  chosen _ _ _ heq := nomatch heq
  listed path hpath := absurd hpath (Finset.notMem_empty path)
  seen _ hfile _ := .inl hfile
  found path hpath := absurd hpath (Finset.notMem_empty path)

theorem ScanTask.Fits.single (folder : VirtualFolder) (newId : Uuid)
    (h : home file.path = folderId ∧ file.path ∉ deletions) :
    ScanTask.Fits home deletions items folderId {
      folder, files := [], listed := [], foundPaths := ∅
      indexed := some (.checked file newId), canReconcileStale := false } where
  atHome file hfile := absurd hfile List.not_mem_nil
  files file hfile := hfile
  indexed := by
    rintro indexed ⟨⟩
    exact h
  chosen _ _ _ heq := nomatch heq
  listed path hpath := absurd hpath (Finset.notMem_empty path)
  seen file hfile := absurd hfile List.not_mem_nil
  found path hpath := absurd hpath (Finset.notMem_empty path)

theorem ScanTask.Fits.skip {file : DiskFile} {files : List DiskFile}
    (h : task.Fits home deletions items folderId) (hfiles : task.files = file :: files)
    (hskip : file.toMediaFile.isSome → file.path ∈ deletions) :
    { task with files }.Fits home deletions items folderId where
  atHome := h.atHome
  files other hother := h.files other (hfiles ▸ List.mem_cons_of_mem file hother)
  indexed := h.indexed
  chosen := h.chosen
  listed := h.listed
  seen := by
    intro other hother hmedia
    obtain hwaits | hseen := h.seen other hother hmedia
    · rw [hfiles] at hwaits
      obtain rfl | hrest := List.mem_cons.mp hwaits
      · exact .inr (.inr (hskip hmedia))
      · exact .inl hrest
    · exact .inr hseen
  found := h.found

theorem ScanTask.Fits.take {file : DiskFile} {files : List DiskFile} {media : LocalMediaFile}
    (h : task.Fits home deletions items folderId) (hnone : task.indexed = none)
    (hfiles : task.files = file :: files) (hdeleted : file.path ∉ deletions)
    (hmedia : file.toMediaFile = some media) :
    ScanTask.Fits home deletions items folderId { task with
      files
      foundPaths := insert file.path task.foundPaths
      indexed := some (.checked media file.newId) } where
  atHome := h.atHome
  files other hother := h.files other (hfiles ▸ List.mem_cons_of_mem file hother)
  indexed := by
    rintro indexed ⟨⟩
    rw [IndexedFile.file, toMediaFile_path hmedia]
    exact ⟨h.atHome file (h.files file (hfiles ▸ List.mem_cons_self)), hdeleted⟩
  chosen _ _ _ heq := nomatch heq
  listed := by
    intro path hpath
    obtain rfl | hpath := Finset.mem_insert.mp hpath
    · exact ⟨file, h.files file (hfiles ▸ List.mem_cons_self), rfl, by rw [hmedia]; rfl⟩
    · exact h.listed path hpath
  seen := by
    intro other hother hsome
    obtain hwaits | hfound | hgone := h.seen other hother hsome
    · rw [hfiles] at hwaits
      obtain rfl | hrest := List.mem_cons.mp hwaits
      · exact .inr (.inl (Finset.mem_insert_self other.path task.foundPaths))
      · exact .inl hrest
    · exact .inr (.inl (Finset.mem_insert_of_mem hfound))
    · exact .inr (.inr hgone)
  found := by
    intro path hpath
    obtain rfl | hpath := Finset.mem_insert.mp hpath
    · exact .inl ⟨_, rfl, toMediaFile_path hmedia⟩
    · obtain ⟨indexed, hindexed, -⟩ | hrest := h.found path hpath
      · rw [hnone] at hindexed
        cases hindexed
      · exact .inr hrest

theorem ScanTask.Fits.checkFile {task' : ScanTask} (h : task.Fits home deletions items folderId)
    (hstep : task.checkFile deletions = some task') :
    task'.Fits home deletions items folderId ∧ ∀ id, task'.hasChosen id = false := by
  rw [ScanTask.checkFile] at hstep
  split at hstep
  · rename_i file files hnone hfiles
    split at hstep
    · rename_i hdeleted
      cases hstep
      exact ⟨h.skip hfiles fun _ => hdeleted, hasChosen_of_indexed_none hnone⟩
    · rename_i hdeleted
      split at hstep
      · rename_i hmedia
        cases hstep
        refine ⟨h.skip hfiles fun hsome => ?_, hasChosen_of_indexed_none hnone⟩
        rw [hmedia] at hsome
        cases hsome
      · rename_i media hmedia
        cases hstep
        exact ⟨h.take hnone hfiles hdeleted hmedia, fun _ => rfl⟩
  · cases hstep

theorem ScanTask.Fits.choose {newId : Uuid} (h : task.Fits home deletions items folderId)
    (hclean : Clean home deletions items) (heq : task.indexed = some (.checked file newId))
    (hid : (knownId folderId file items).getD newId = id)
    (hfresh : knownId folderId file items = none → id ∉ items) (current : Json) :
    ScanTask.Fits home deletions items folderId
      { task with indexed := some (.chosen file id current) } where
  atHome := h.atHome
  files := h.files
  indexed := by
    rintro indexed ⟨⟩
    have hchecked := h.indexed _ heq
    exact hchecked
  chosen := by
    rintro file id current ⟨⟩
    have hhome := (h.indexed _ heq).1
    obtain ⟨item, hitem, hpath⟩ | ⟨hnone, htaken⟩ := knownId_spec hid
    · constructor
      · intro other hother
        rw [hitem] at hother
        cases hother
        have hfolder := hclean.atHome id item hitem
        rw [hpath] at hfolder
        exact ⟨hfolder.trans hhome, .inl hpath⟩
      · intro other otherItem hother hvisible hsame
        have hexact := exactId_of_visible hother hsame hvisible fun third thirdItem hthird hthere
            hshown => hclean.distinct third thirdItem other otherItem hthird hother hshown hvisible
              (hthere.trans hsame.symm)
        rw [knownId, hexact] at hid
        exact hid
    · constructor
      · intro item hitem
        obtain ⟨old, hold, hfolder, hmissing⟩ | hunknown := htaken
        · rw [hold] at hitem
          cases hitem
          exact ⟨hfolder, .inr hmissing⟩
        · exact absurd (mem_of_lookup hitem) (hfresh hunknown)
      · intro other item hother _ hsame
        exact absurd hsame (hnone other item hother)
  listed := h.listed
  seen := h.seen
  found := by
    intro path hpath
    obtain ⟨indexed, hindexed, hsame⟩ | hrest := h.found path hpath
    · rw [heq] at hindexed
      cases hindexed
      exact .inl ⟨_, rfl, hsame⟩
    · exact .inr hrest

theorem LocalLibrary.Fits.setScan (h : s.Fits home)
    (htask : task.Fits home s.deletions s.catalogue.items folderId)
    (hapart : ∀ otherId other id, s.scans.lookup otherId = some other → otherId ≠ folderId →
      task.hasChosen id = true → other.hasChosen id = false) :
    { s with scans := s.scans.insert folderId task }.Fits home where
  clean := h.clean
  scans := by
    intro otherId other hlookup
    obtain ⟨rfl, rfl⟩ | ⟨-, hlookup⟩ := lookup_insert_eq_some.mp hlookup
    · exact htask
    · exact h.scans otherId other hlookup
  waiting := h.waiting
  apart := by
    intro aId bId a b id ha hb hchosen hother
    obtain ⟨rfl, rfl⟩ | ⟨haNe, haOld⟩ := lookup_insert_eq_some.mp ha <;>
      obtain ⟨rfl, rfl⟩ | ⟨hbNe, hbOld⟩ := lookup_insert_eq_some.mp hb
    · rfl
    · rw [hapart bId b id hbOld hbNe hchosen] at hother
      cases hother
    · rw [hapart aId a id haOld haNe hother] at hchosen
      cases hchosen
    · exact h.apart aId bId a b id haOld hbOld hchosen hother

theorem LocalLibrary.Fits.dropScan (h : s.Fits home) :
    { s with scans := s.scans.erase folderId }.Fits home where
  clean := h.clean
  scans otherId other hlookup := h.scans otherId other (lookup_erase_eq_some.mp hlookup).2
  waiting := h.waiting
  apart aId bId a b id ha hb hchosen hother :=
    h.apart aId bId a b id (lookup_erase_eq_some.mp ha).2 (lookup_erase_eq_some.mp hb).2 hchosen
      hother

theorem LocalLibrary.Fits.markMissing (h : s.Fits home) (folderId : Uuid) (now : Int)
    {stale : MediaItemRow → Bool}
    (hstale : ∀ item, stale item = true → item.virtualFolderId = folderId ∧
      ∀ task, s.scans.lookup folderId = some task → item.path ∉ task.foundPaths) :
    { s with catalogue := Catalog.markMissing now stale s.catalogue }.Fits home where
  clean := h.clean.hide (hides_markMissing now stale s.catalogue) fun _ hpath => .inl hpath
  scans := by
    intro otherId task htask
    have hfits := h.scans otherId task htask
    refine hfits.hide (hides_markMissing now stale s.catalogue) (Finset.Subset.refl _)
      (fun indexed heq => (hfits.indexed indexed heq).2) ?_
    rintro path hpath id item hitem - rfl hgone
    obtain ⟨hfolder, hunfound⟩ := hstale item (Bool.and_eq_true_iff.mp hgone).2
    rw [h.clean.atHome id item hitem, hfits.home_of_found hpath] at hfolder
    subst hfolder
    exact absurd hpath (hunfound task htask)
  waiting := h.waiting
  apart := h.apart

theorem LocalLibrary.Fits.chooseItem (h : s.Fits home) {newId : Uuid} {current : Json}
    (htask : s.scans.lookup folderId = some task)
    (heq : task.indexed = some (.checked file newId))
    (hid : (knownId folderId file s.catalogue.items).getD newId = id)
    (hguard : (knownId folderId file s.catalogue.items).isSome || s.isFresh newId) :
    LocalLibrary.Fits home { s with
      scans := s.scans.insert folderId { task with indexed := some (.chosen file id current) } } := by
  have hfits := h.scans folderId task htask
  have hfresh : knownId folderId file s.catalogue.items = none → s.isFresh id = true := by
    intro hnone
    rw [hnone] at hid hguard
    rw [← hid]
    exact hguard
  have hchosen : ScanTask.Fits home s.deletions s.catalogue.items folderId
      { task with indexed := some (.chosen file id current) } := by
    refine hfits.choose h.clean heq hid (fun hnone => ?_) current
    exact of_decide_eq_true (Bool.and_eq_true_iff.mp (hfresh hnone)).1
  refine h.setScan hchosen fun otherId other chosenId hother hne hsame => ?_
  obtain rfl : id = chosenId := of_decide_eq_true hsame
  by_contra hboth
  obtain ⟨otherFile, otherCurrent, hotherIndexed⟩ := hasChosen_iff.mp (Bool.not_eq_false _ ▸ hboth)
  cases hknown : knownId folderId file s.catalogue.items with
  | some known =>
    -- An item cannot be at home in two folders.
    obtain ⟨item, hitem⟩ : ∃ item, s.catalogue.items.lookup id = some item := by
      obtain ⟨item, hitem, -⟩ | ⟨-, ⟨item, hitem, -⟩ | hnone⟩ := knownId_spec hid
      · exact ⟨item, hitem⟩
      · exact ⟨item, hitem⟩
      · rw [hknown] at hnone
        cases hnone
    have hhere := ((hchosen.chosen file id current rfl).1 item hitem).1
    have hthere := (((h.scans otherId other hother).chosen _ _ _ hotherIndexed).1 item hitem).1
    exact hne (hthere.symm.trans hhere)
  | none =>
    have hnobody := (Bool.and_eq_true_iff.mp (hfresh hknown)).2
    rw [Bool.not_eq_true', ← Bool.not_eq_true, any_eq_true] at hnobody
    exact hnobody ⟨otherId, other, hother, by simpa using hboth⟩

theorem LocalLibrary.Fits.beginSingleFile (h : s.Fits home) {index : Nat} {waiting : WaitingFile}
    (hwaiting : s.waiting[index]? = some waiting) :
    LocalLibrary.Fits home { s with
      scans := s.scans.insert waiting.folderId {
        folder := waiting.folder
        listed := []
        files := []
        foundPaths := ∅
        indexed := some (.checked waiting.file waiting.newId)
        canReconcileStale := false }
      waiting := s.waiting.eraseIdx index } := by
  have hmem := List.mem_of_getElem? hwaiting
  have hfewer : LocalLibrary.Fits home { s with waiting := s.waiting.eraseIdx index } :=
    ⟨h.clean, h.scans, fun other hother => h.waiting other (List.mem_of_mem_eraseIdx hother), h.apart⟩
  refine hfewer.setScan (ScanTask.Fits.single waiting.folder _ (h.waiting waiting hmem)) ?_
  intro otherId other id _ _ hchosen
  cases hchosen

theorem LocalLibrary.Fits.upsert (h : s.Fits home) {current : Json} {catalogue : Catalogue}
    (htask : s.scans.lookup folderId = some task)
    (heq : task.indexed = some (.chosen file id current))
    (hitems : catalogue.items = s.catalogue.items.insert id item)
    (hfolder : item.virtualFolderId = folderId) (hpath : item.path = file.path)
    (hvisible : item.missingSince = none) :
    LocalLibrary.Fits home { s with
      catalogue
      scans := s.scans.insert folderId { task with indexed := none } } := by
  have hfits := h.scans folderId task htask
  obtain ⟨hhome, hdeleted⟩ : home file.path = folderId ∧ file.path ∉ s.deletions :=
    hfits.indexed _ heq
  obtain ⟨htakes, hunique⟩ := hfits.chosen file id current heq
  have hclean : Clean home s.deletions catalogue.items := by
    rw [hitems]
    refine h.clean.insert ?_ ?_ ?_
    · rw [hfolder, hpath, hhome]
    · rwa [hpath]
    · rw [hpath]
      exact hunique
  have hself : { task with indexed := none }.Fits home s.deletions catalogue.items folderId := by
    rw [hitems]
    exact hfits.insert_self heq hpath hvisible
  have hothers : ∀ otherId other, s.scans.lookup otherId = some other → otherId ≠ folderId →
      other.Fits home s.deletions catalogue.items otherId := by
    intro otherId other hother hne
    rw [hitems]
    refine (h.scans otherId other hother).insert_other h.clean hne.symm ?_
      (fun old hold => (htakes old hold).1) ?_
    · rw [hpath, hhome]
    · intro hchosen
      exact hne (h.apart otherId folderId other task id hother htask hchosen
        (hasChosen_iff.mpr ⟨file, current, heq⟩))
  constructor
  · exact hclean
  · intro otherId other hlookup
    obtain ⟨rfl, rfl⟩ | ⟨hne, hlookup⟩ := lookup_insert_eq_some.mp hlookup
    · exact hself
    · exact hothers otherId other hlookup hne
  · exact h.waiting
  · have hnone : ∀ id, { task with indexed := none }.hasChosen id = false := fun _ => rfl
    intro aId bId a b chosenId ha hb hchosen hother
    obtain ⟨rfl, rfl⟩ | ⟨-, ha⟩ := lookup_insert_eq_some.mp ha
    · rw [hnone] at hchosen
      cases hchosen
    · obtain ⟨rfl, rfl⟩ | ⟨-, hb⟩ := lookup_insert_eq_some.mp hb
      · rw [hnone] at hother
        cases hother
      · exact h.apart aId bId a b chosenId ha hb hchosen hother

def IsDeleted (ids : List Uuid) (items : HashMap Uuid MediaItemRow) (id : Uuid) : Prop :=
  id ∈ ids ∧ ∃ item, items.lookup id = some item ∧ item.missingSince = none

def visibleEntries (ids : List Uuid) (items : HashMap Uuid MediaItemRow) : List ItemEntry :=
  items.entries.filter fun entry => entry.2.missingSince.isNone && ids.contains entry.1

theorem mem_visibleEntries {ids : List Uuid} {entry : ItemEntry} :
    entry ∈ visibleEntries ids items ↔
      items.lookup entry.1 = some entry.2 ∧ entry.2.missingSince = none ∧ entry.1 ∈ ids := by
  rw [visibleEntries, List.mem_filter, mem_entries_iff, Bool.and_eq_true, Option.isNone_iff_eq_none,
    List.contains_iff_mem]

theorem isDeleted_iff {ids : List Uuid} :
    id ∈ (visibleEntries ids items).map (·.1) ↔ IsDeleted ids items id := by
  rw [List.mem_map]
  constructor
  · rintro ⟨entry, hentry, rfl⟩
    obtain ⟨hlookup, hvisible, hmem⟩ := mem_visibleEntries.mp hentry
    exact ⟨hmem, entry.2, hlookup, hvisible⟩
  · rintro ⟨hmem, item, hlookup, hvisible⟩
    exact ⟨⟨id, item⟩, mem_visibleEntries.mpr ⟨hlookup, hvisible, hmem⟩, rfl⟩

theorem hides_deleteMediaItems (ids : List Uuid) (now : Int) (s : LocalLibrary) :
    Hides (fun id _ => IsDeleted ids s.catalogue.items id) s.catalogue.items
      (deleteMediaItems ids now s).catalogue.items := by
  have hmap : ∀ id, (deleteMediaItems ids now s).catalogue.items.lookup id =
      (s.catalogue.items.lookup id).map fun item =>
        if ((visibleEntries ids s.catalogue.items).map (·.1)).contains id then
          { item with missingSince := some now } else item := fun id => lookup_mapEntries _ _ id
  have h := hides_map hmap
  simp only [List.contains_iff_mem, isDeleted_iff] at h
  exact h

theorem mem_deletions_deleteMediaItems {ids : List Uuid} {now : Int} {path : String} :
    path ∈ (deleteMediaItems ids now s).deletions ↔ path ∈ s.deletions ∨
      ∃ id item, s.catalogue.items.lookup id = some item ∧ item.missingSince = none ∧ id ∈ ids ∧
        item.path = path := by
  have hunion : (deleteMediaItems ids now s).deletions =
      s.deletions ∪ ((visibleEntries ids s.catalogue.items).map (·.2.path)).toFinset := rfl
  rw [hunion, Finset.mem_union, List.mem_toFinset, List.mem_map]
  refine or_congr_right ⟨?_, ?_⟩
  · rintro ⟨entry, hentry, rfl⟩
    obtain ⟨hlookup, hvisible, hmem⟩ := mem_visibleEntries.mp hentry
    exact ⟨entry.1, entry.2, hlookup, hvisible, hmem, rfl⟩
  · rintro ⟨id, item, hlookup, hvisible, hmem, rfl⟩
    exact ⟨⟨id, item⟩, mem_visibleEntries.mpr ⟨hlookup, hvisible, hmem⟩, rfl⟩

theorem LocalLibrary.Fits.delete (h : s.Fits home) {ids : List Uuid} {now : Int}
    (hstays : StaysHome home s (.delete ids now)) : (deleteMediaItems ids now s).Fits home := by
  have hides := hides_deleteMediaItems ids now s
  constructor
  · refine h.clean.hide hides fun path hpath => ?_
    obtain hold | ⟨id, item, hitem, hvisible, hmem, rfl⟩ :=
      mem_deletions_deleteMediaItems.mp hpath
    · exact .inl hold
    · exact .inr ⟨id, item, hitem, hvisible, ⟨hmem, item, hitem, hvisible⟩, rfl⟩
  · intro folderId task htask
    have hfits := h.scans folderId task htask
    refine hfits.hide hides (fun path hpath => mem_deletions_deleteMediaItems.mpr (.inl hpath)) ?_ ?_
    · intro indexed hindexed hpath
      obtain hold | ⟨id, item, hitem, hvisible, hmem, hsame⟩ :=
        mem_deletions_deleteMediaItems.mp hpath
      · exact (hfits.indexed indexed hindexed).2 hold
      · exact (hstays id hmem item hitem hvisible).2 folderId task indexed htask hindexed hsame.symm
    · rintro path - id item hitem hvisible rfl hgone
      exact mem_deletions_deleteMediaItems.mpr (.inr ⟨id, item, hitem, hvisible, hgone.1, rfl⟩)
  · intro waiting hwaiting
    refine ⟨(h.waiting waiting hwaiting).1, fun hpath => ?_⟩
    obtain hold | ⟨id, item, hitem, hvisible, hmem, hsame⟩ :=
      mem_deletions_deleteMediaItems.mp hpath
    · exact (h.waiting waiting hwaiting).2 hold
    · exact (hstays id hmem item hitem hvisible).1 waiting hwaiting hsame.symm
  · exact h.apart

theorem LocalLibrary.Fits.step {action : ScanAction} (h : s.Fits home)
    (hstays : StaysHome home s action) (hstep : Outcome fmt s action t) : t.Fits home := by
  cases hstep with
  | beginScan folder hfree hfolder =>
    refine h.setScan (ScanTask.Fits.begin folder _ (hstays folder hfolder)) ?_
    intro otherId other id _ _ hchosen
    cases hchosen
  | checkFile task task' htask htask' =>
    obtain ⟨hfits, hnone⟩ := (h.scans _ task htask).checkFile htask'
    refine h.setScan hfits ?_
    intro otherId other id _ _ hchosen
    rw [hnone] at hchosen
    cases hchosen
  | chooseItem task file newId id current htask heq hid hguard =>
    exact h.chooseItem htask heq hid hguard
  | upsertItem task file id current item catalogue htask heq hitems hfolder hpath _ hvisible _ _ =>
    exact h.upsert htask heq hitems hfolder hpath hvisible
  | @finishScan folderId now task htask hindexed hfiles =>
    refine LocalLibrary.Fits.dropScan (h.markMissing folderId now ?_)
    intro item hstale
    simp only [Bool.and_eq_true, decide_eq_true_eq] at hstale
    refine ⟨hstale.1.2, fun other hother => ?_⟩
    rw [htask] at hother
    cases hother
    exact hstale.2
  | dropScan => exact h.dropScan
  | checkSingleFile folder media hdeleted hmedia =>
    refine ⟨h.clean, h.scans, List.forall_mem_cons.mpr ⟨?_, h.waiting⟩, h.apart⟩
    rw [toMediaFile_path hmedia]
    exact ⟨hstays, hdeleted⟩
  | beginSingleFile waiting hwaiting hfree => exact h.beginSingleFile hwaiting
  | @markMissing folderId path now hfree =>
    refine h.markMissing folderId now fun item hstale => ?_
    simp only [Bool.and_eq_true, decide_eq_true_eq] at hstale
    exact ⟨hstale.2, fun task htask => absurd (mem_of_lookup htask) hfree⟩
  | delete => exact h.delete hstays

end Jellyrin.Catalog
