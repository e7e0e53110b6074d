import Jellyrin.Defs.Catalog.LocalScanLaws

/-! Runs of scans of folders that do not overlap. -/

namespace Jellyrin.Catalog

open HashMap Transition

variable {fmt : TextFormats} {home : String → Uuid} {items items' : HashMap Uuid MediaItemRow}
  {deletions : Finset String} {s t : LocalLibrary} {folderId : Uuid} {start : Catalogue}

theorem fits_of_reaches (hstart : Clean home deletions start.items)
    (h : (scanMachine fmt start deletions).Reaches (StaysHome home) s) : s.Fits home := by
  have hinit : (scanMachine fmt start deletions).init.Fits home := {
    clean := hstart
    scans := fun _ _ hlookup => nomatch hlookup
    waiting := fun _ hwaiting => nomatch hwaiting
    apart := fun _ _ _ _ _ hlookup => nomatch hlookup }
  exact Machine.Steps.invariant
    (fun s action t hfits hstays hstep => hfits.step hstays (outcome_of_step hstep)) h hinit

theorem ScanTask.Fits.isShown_of_done {task : ScanTask} {file : DiskFile}
    (h : task.Fits home deletions items folderId) (hindexed : task.indexed = none)
    (hfiles : task.files = []) (hfile : file ∈ task.listed) (hmedia : file.toMediaFile.isSome)
    (hdeleted : file.path ∉ deletions) : file.path ∈ task.foundPaths ∧ IsShown file.path items := by
  have hfound : file.path ∈ task.foundPaths := by
    obtain hwaits | hfound | hgone := h.seen file hfile hmedia
    · rw [hfiles] at hwaits
      cases hwaits
    · exact hfound
    · exact absurd hgone hdeleted
  refine ⟨hfound, ?_⟩
  obtain ⟨indexed, hbusy, -⟩ | hshown | hgone := h.found file.path hfound
  · rw [hindexed] at hbusy
    cases hbusy
  · exact hshown
  · exact absurd hgone hdeleted

def IsShownIn (folderId : Uuid) (path : String) (items : HashMap Uuid MediaItemRow) : Prop :=
  ∃ id item, items.lookup id = some item ∧ item.virtualFolderId = folderId ∧
    item.missingSince = none ∧ item.path = path

/-- A scan that found all of its locations leaves one visible item for each media file that it
listed and nobody has deleted, and no other one in the folder. -/
theorem finished_scan_shows_files (hstart : Clean home deletions start.items)
    (h : (scanMachine fmt start deletions).Reaches (StaysHome home) s) {task : ScanTask}
    (htask : s.scans.lookup folderId = some task) (hreconcile : task.canReconcileStale = true)
    {now : Int}
    (hstep : (scanMachine fmt start deletions).step s (.finishScan folderId now) = some t) :
    (∀ path, IsShownIn folderId path t.catalogue.items ↔
      (∃ file ∈ task.listed, file.path = path ∧ file.toMediaFile.isSome) ∧ path ∉ t.deletions) ∧
    ∀ id item other otherItem, t.catalogue.items.lookup id = some item →
      t.catalogue.items.lookup other = some otherItem → item.missingSince = none →
      otherItem.missingSince = none → item.path = otherItem.path → id = other := by
  have hfits := fits_of_reaches hstart h
  have hstays : StaysHome home s (.finishScan folderId now) := trivial
  have hafter := fits_of_reaches hstart (h.tail hstays hstep)
  refine ⟨fun path => ?_, hafter.clean.distinct⟩
  have htaskFits := hfits.scans folderId task htask
  cases outcome_of_step hstep with
  | finishScan task' htask' hindexed hfiles =>
    obtain rfl : task = task' := Option.some.inj (htask.symm.trans htask')
    have hides := hides_markMissing now (fun item => task.canReconcileStale &&
      decide (item.virtualFolderId = folderId) && decide (item.path ∉ task.foundPaths)) s.catalogue
    constructor
    · rintro ⟨id, item, hitem, hfolder, hvisible, rfl⟩
      refine ⟨?_, hafter.clean.notDeleted id item hitem hvisible⟩
      obtain ⟨old, hold, -, -, -, -, hsame⟩ := hides.back id item hitem
      obtain ⟨rfl, hstays⟩ := hsame hvisible
      refine htaskFits.listed item.path (by_contra fun hunfound => hstays ?_)
      simp [hvisible, hreconcile, hfolder, hunfound]
    · rintro ⟨⟨file, hfile, rfl, hmedia⟩, hdeleted⟩
      obtain ⟨hfound, id, item, hitem, hvisible, hpath⟩ :=
        htaskFits.isShown_of_done hindexed hfiles hfile hmedia hdeleted
      have hkeep := hides.keep id item hitem (by simp [hpath, hfound])
      have hfolder := hfits.clean.atHome id item hitem
      rw [hpath, htaskFits.atHome file hfile] at hfolder
      exact ⟨id, item, hkeep, hfolder, hvisible, hpath⟩

/-! Runs over a folder of films and one of shows. -/

def diskFile (path : String) (newId : Uuid) : DiskFile where
  path
  fileSize := some 7
  modifiedAt := some 3
  info := ⟨none, none, none, none, []⟩
  metadata := .object []
  newId

def watchedFilm : MediaItemRow where
  virtualFolderId := 1
  name := "a"
  path := "/films/a.mkv"
  mediaType := "Video"
  collectionType := none
  missingSince := none
  fileSize := some 7
  modifiedAt := some 3
  runtimeTicks := none
  bitrate := none
  width := none
  height := none
  mediaStreams := []
  metadata := .object []

def twoFolders : Catalogue :=
  { Catalogue.empty with
    folders := ((∅ : HashMap Uuid VirtualFolder).insert 1 ⟨"Films", none, ["/films"]⟩).insert 2
      ⟨"Shows", none, ["/shows"]⟩
    items := (∅ : HashMap Uuid MediaItemRow).insert 5 watchedFilm
    playbackStates := {⟨9, 5, 100⟩} }

def homeOf (path : String) : Uuid := if path = "/shows/c.mkv" then 2 else 1

abbrev libraryMachine : Machine LocalLibrary ScanAction := scanMachine plainFormats twoFolders ∅

def listFilms (files : List DiskFile) : ScanAction :=
  .beginScan 1 fun location => if location = "/films" then some files else none

def listShow : ScanAction :=
  .beginScan 2 fun location =>
    if location = "/shows" then some [diskFile "/shows/c.mkv" 7] else none

def scanBesideDeletion : List ScanAction :=
  [listFilms [diskFile "/films/a.mkv" 6, diskFile "/films/b.mkv" 8, diskFile "/films/d.mkv" 9],
    .checkFile 1, listShow, .chooseItem 1, .checkFile 2, .upsertItem 1, .chooseItem 2, .checkFile 1,
    .chooseItem 1, .upsertItem 2, .upsertItem 1, .delete [8] 3, .checkFile 1, .chooseItem 1,
    .upsertItem 1]

theorem clean_twoFolders : Clean homeOf ∅ twoFolders.items where
  atHome id item hitem := by
    obtain ⟨rfl, rfl⟩ | ⟨-, hitem⟩ := HashMap.lookup_insert_eq_some.mp hitem
    · decide
    · cases hitem
  distinct id item other otherItem hitem hother _ _ _ := by
    obtain ⟨rfl, -⟩ | ⟨-, hitem⟩ := HashMap.lookup_insert_eq_some.mp hitem
    · obtain ⟨rfl, -⟩ | ⟨-, hother⟩ := HashMap.lookup_insert_eq_some.mp hother
      · rfl
      · cases hother
    · cases hitem
  notDeleted _ _ _ _ := Finset.notMem_empty _

def isIndexed (path : String) (s : LocalLibrary) : Bool :=
  s.waiting.any (·.file.path = path) ||
    s.scans.any fun _ task => task.indexed.any (·.file.path = path)

def staysHome (s : LocalLibrary) : ScanAction → Bool
  | .beginScan folderId disk => (s.catalogue.folders.lookup folderId).all fun folder =>
    ((folder.locations.filterMap disk).flatten).all fun file => homeOf file.path = folderId
  | .checkSingleFile folderId file => homeOf file.path = folderId
  | .delete ids _ => ids.all fun id => (s.catalogue.items.lookup id).all fun item =>
    item.missingSince.isSome || !isIndexed item.path s
  | _ => true

theorem staysHome_sound (s : LocalLibrary) (action : ScanAction) (h : staysHome s action = true) :
    StaysHome homeOf s action := by
  cases action with
  | beginScan folderId disk =>
    intro folder hfolder file hfile
    simp only [staysHome, hfolder, Option.all_some, List.all_eq_true] at h
    exact of_decide_eq_true (h file hfile)
  | checkSingleFile folderId file =>
    exact (of_decide_eq_true h : homeOf file.path = folderId)
  | delete ids now =>
    intro id hid item hitem hvisible
    have hfree := List.all_eq_true.mp h id hid
    rw [hitem, Option.all_some, hvisible, Option.isSome_none, Bool.false_or, Bool.not_eq_true',
      isIndexed, Bool.or_eq_false_iff] at hfree
    constructor
    · intro waiting hwaiting
      have hother := List.any_eq_false.mp hfree.1 waiting hwaiting
      rwa [decide_eq_true_eq] at hother
    · intro folderId task indexed htask hindexed hpath
      have hbusy : (task.indexed.any fun indexed => indexed.file.path = item.path) = true := by
        rw [hindexed, Option.any_some, decide_eq_true hpath]
      have hany : (s.scans.any fun _ task =>
          task.indexed.any (·.file.path = item.path)) = true :=
        HashMap.any_eq_true.mpr ⟨folderId, task, htask, hbusy⟩
      rw [hfree.2] at hany
      cases hany
  | _ => trivial

theorem finished_scan_shows_film :
    ∃ s t, libraryMachine.Reaches (StaysHome homeOf) s ∧
      libraryMachine.step s (.finishScan 1 4) = some t ∧
        IsShownIn 1 "/films/a.mkv" t.catalogue.items ∧
        IsShownIn 1 "/films/d.mkv" t.catalogue.items ∧
        ¬IsShownIn 1 "/films/b.mkv" t.catalogue.items := by
  have hrun : (libraryMachine.runWhile staysHome scanBesideDeletion libraryMachine.init).any
      (fun s => (libraryMachine.step s (.finishScan 1 4)).any fun t =>
        (s.scans.lookup 1).any fun task => task.canReconcileStale ∧
          t.deletions = {"/films/b.mkv"} ∧
          ∀ path ∈ ["/films/a.mkv", "/films/d.mkv"], ∃ file ∈ task.listed,
            file.path = path ∧ file.toMediaFile.isSome) = true := by
    decide +kernel
  obtain ⟨s, hs, hrun⟩ := (Option.any_eq_true _ _).mp hrun
  obtain ⟨t, ht, hrun⟩ := (Option.any_eq_true _ _).mp hrun
  obtain ⟨task, htask, hrun⟩ := (Option.any_eq_true _ _).mp hrun
  obtain ⟨hreconcile, hdeletions, hlisted⟩ := of_decide_eq_true hrun
  have hreach := Machine.steps_of_runWhile staysHome_sound _ hs
  have hshown := (finished_scan_shows_files clean_twoFolders hreach htask hreconcile ht).1
  rw [hdeletions] at hshown
  refine ⟨s, t, hreach, ht, (hshown _).mpr ⟨hlisted _ (by simp), by decide⟩,
    (hshown _).mpr ⟨hlisted _ (by simp), by decide⟩, fun hb => ?_⟩
  exact ((hshown _).mp hb).2 (Finset.mem_singleton_self _)

/-- Whatever item a scan is about to write, no other visible item has its path: the unique index
never makes a scan fail. -/
theorem chosen_path_is_free (hstart : Clean home deletions start.items)
    (h : (scanMachine fmt start deletions).Reaches (StaysHome home) s) {task : ScanTask}
    (htask : s.scans.lookup folderId = some task) {file : LocalMediaFile} {id : Uuid}
    {current : Json} (heq : task.indexed = some (.chosen file id current)) :
    pathIsTaken s.catalogue.items id file.path = false := by
  have hunique := (((fits_of_reaches hstart h).scans folderId task htask).chosen file id _ heq).2
  rw [pathIsTaken, ← Bool.not_eq_true, any_eq_true]
  rintro ⟨other, item, hitem, htaken⟩
  simp only [Bool.and_eq_true, decide_eq_true_eq, Option.isNone_iff_eq_none] at htaken
  exact htaken.1.1 (hunique other item hitem htaken.1.2 htaken.2)

def scanRenamedFilm : List ScanAction :=
  [listFilms [], .finishScan 1 3, listFilms [diskFile "/films/b.mkv" 6], listShow, .checkFile 1,
    .checkFile 2, .chooseItem 2, .chooseItem 1, .upsertItem 2]

theorem chosen_path_is_free_for_film :
    ∃ s, libraryMachine.Reaches (StaysHome homeOf) s ∧
      (s.catalogue.items.lookup 5).any (·.missingSince = some 3) = true ∧
      pathIsTaken s.catalogue.items 5 "/films/b.mkv" = false := by
  have hrun : (libraryMachine.runWhile staysHome scanRenamedFilm libraryMachine.init).any
      (fun s => (s.scans.lookup 1).any fun task => task.indexed.any fun indexed =>
        (s.catalogue.items.lookup 5).any (·.missingSince = some 3) && match indexed with
          | .chosen file id _ => file.path = "/films/b.mkv" ∧ id = 5
          | .checked _ _ => false) = true := by
    decide +kernel
  obtain ⟨s, hs, hrun⟩ := (Option.any_eq_true _ _).mp hrun
  obtain ⟨task, htask, hrun⟩ := (Option.any_eq_true _ _).mp hrun
  obtain ⟨indexed, hindexed, hrun⟩ := (Option.any_eq_true _ _).mp hrun
  obtain ⟨hmissing, hrun⟩ := Bool.and_eq_true_iff.mp hrun
  have hreach := Machine.steps_of_runWhile staysHome_sound _ hs
  cases indexed with
  | checked => cases hrun
  | chosen file id current =>
    obtain ⟨hpath, rfl⟩ := of_decide_eq_true hrun
    rw [← hpath]
    exact ⟨s, hreach, hmissing, chosen_path_is_free clean_twoFolders hreach htask hindexed⟩

/-! What the user has of an item. -/

structure KeepsUserData (id : Uuid) (s t : LocalLibrary) : Prop where
  playbackStates : ∀ state ∈ s.catalogue.playbackStates, state.itemId = id →
    state ∈ t.catalogue.playbackStates
  listEntries : ∀ entry ∈ s.catalogue.listEntries, entry.itemId = id →
    entry ∈ t.catalogue.listEntries

theorem KeepsUserData.refl (id : Uuid) (s : LocalLibrary) : KeepsUserData id s s :=
  ⟨fun _ h _ => h, fun _ h _ => h⟩

theorem KeepsUserData.trans {id : Uuid} {u : LocalLibrary} (h : KeepsUserData id s t)
    (k : KeepsUserData id t u) : KeepsUserData id s u where
  playbackStates state hstate hid := k.playbackStates state (h.playbackStates state hstate hid) hid
  listEntries entry hentry hid := k.listEntries entry (h.listEntries entry hentry hid) hid

/-- The complete scans of the folder list the file, nobody says that it is missing, and nobody
deletes its item. -/
def KeepsFile (home : String → Uuid) (path : String) (id : Uuid) (s : LocalLibrary) :
    ScanAction → Prop
  | .finishScan folderId _ => ∀ task, s.scans.lookup folderId = some task →
    task.canReconcileStale = true → home path = folderId →
      ∃ file ∈ task.listed, file.path = path ∧ file.toMediaFile.isSome
  | .markMissing _ other _ => other ≠ path
  | .delete ids _ => id ∉ ids
  | _ => True

theorem keepsUserData_of_step {action : ScanAction} {path : String} {id : Uuid}
    (hkeeps : KeepsFile home path id s action) (hstep : Outcome fmt s action t) :
    KeepsUserData id s t := by
  cases hstep with
  | @delete ids now =>
    have hstays : ¬ IsDeleted ids s.catalogue.items id := fun hdeleted => hkeeps hdeleted.1
    rw [← isDeleted_iff] at hstays
    constructor
    · rintro state hstate rfl
      exact Finset.mem_filter.mpr ⟨hstate, by simpa [visibleEntries] using hstays⟩
    · rintro entry hentry rfl
      exact Finset.mem_filter.mpr ⟨hentry, by simpa [visibleEntries] using hstays⟩
  | upsertItem task file id current item catalogue _ _ _ _ _ _ _ hstates hentries =>
    exact ⟨fun state hstate _ => hstates ▸ hstate, fun entry hentry _ => hentries ▸ hentry⟩
  | _ => exact ⟨fun _ h _ => h, fun _ h _ => h⟩

def Shows (id folderId : Uuid) (path : String) (s : LocalLibrary) : Prop :=
  ∃ item, s.catalogue.items.lookup id = some item ∧ item.virtualFolderId = folderId ∧
    item.path = path ∧ item.missingSince = none

theorem shows_of_step {action : ScanAction} {path : String} {id : Uuid} (hfits : s.Fits home)
    (hshows : Shows id folderId path s) (hkeeps : KeepsFile home path id s action)
    (hstep : Outcome fmt s action t) : Shows id folderId path t := by
  obtain ⟨item, hitem, hown, hpath, hvisible⟩ := hshows
  cases hstep with
  | upsertItem task file chosenId current written catalogue htask heq hitems hscanned hwritten _
      hshown =>
    rw [Shows, hitems]
    by_cases hsame : id = chosenId
    · subst hsame
      obtain ⟨hfolder, hfile | hmissing⟩ :=
        ((hfits.scans _ task htask).chosen file id current heq).1 item hitem
      · refine ⟨written, AList.lookup_insert _, ?_, ?_, hshown⟩
        · rw [hscanned, ← hfolder, hown]
        · rw [hwritten, ← hfile, hpath]
      · rw [hvisible] at hmissing
        cases hmissing
    · exact ⟨item, (AList.lookup_insert_ne hsame).trans hitem, hown, hpath, hvisible⟩
  | @finishScan scanned now task htask hindexed hfiles =>
    refine ⟨item, (hides_markMissing now _ _).keep id item hitem ?_, hown, hpath, hvisible⟩
    simp only [Bool.and_eq_true, decide_eq_true_eq]
    rintro ⟨-, ⟨hreconcile, hfolder⟩, hunfound⟩
    have hhome : home path = scanned := by
      rw [← hpath, ← hfits.clean.atHome id item hitem, hfolder]
    obtain ⟨file, hfile, hsame, hmedia⟩ := hkeeps task htask hreconcile hhome
    have hdeleted := hfits.clean.notDeleted id item hitem hvisible
    rw [hpath, ← hsame] at hdeleted hunfound
    exact hunfound
      ((hfits.scans _ task htask).isShown_of_done hindexed hfiles hfile hmedia hdeleted).1
  | @markMissing _ other now _ =>
    refine ⟨item, (hides_markMissing now _ _).keep id item hitem ?_, hown, hpath, hvisible⟩
    simp only [Bool.and_eq_true, decide_eq_true_eq]
    rintro ⟨-, hother, -⟩
    exact hkeeps (hother.symm.trans hpath)
  | @delete ids now =>
    refine ⟨item, (hides_deleteMediaItems ids now s).keep id item hitem ?_, hown, hpath, hvisible⟩
    exact fun hdeleted => hkeeps hdeleted.1
  | _ => exact ⟨item, hitem, hown, hpath, hvisible⟩

/-- Whatever scans do meanwhile, a file that they go on to find keeps its item, and the user what
was known of it. -/
theorem found_file_keeps_item (hstart : Clean home deletions start.items)
    (h : (scanMachine fmt start deletions).Reaches (StaysHome home) s) {id : Uuid} {path : String}
    (hshows : Shows id folderId path s)
    (hsteps : (scanMachine fmt start deletions).Steps
      (fun s action => StaysHome home s action ∧ KeepsFile home path id s action) s t) :
    Shows id folderId path t ∧ KeepsUserData id s t := by
  have hinit : s.Fits home ∧ Shows id folderId path s ∧ KeepsUserData id s s :=
    ⟨fits_of_reaches hstart h, hshows, .refl id s⟩
  refine (Machine.Steps.invariant (I := fun u => u.Fits home ∧ Shows id folderId path u ∧
    KeepsUserData id s u) ?_ hsteps hinit).2
  rintro u action v ⟨hfits, hhere, hdata⟩ ⟨hstays, hkeeps⟩ hstep
  have houtcome := outcome_of_step hstep
  exact ⟨hfits.step hstays houtcome, shows_of_step hfits hhere hkeeps houtcome,
    hdata.trans (keepsUserData_of_step hkeeps houtcome)⟩

def goesOn (path : String) (id : Uuid) (s : LocalLibrary) (action : ScanAction) : Bool :=
  staysHome s action && match action with
    | .finishScan folderId _ => (s.scans.lookup folderId).all fun task =>
      homeOf path ≠ folderId ||
        task.listed.any fun file => file.path = path ∧ file.toMediaFile.isSome
    | .markMissing _ other _ => other ≠ path
    | .delete ids _ => !ids.contains id
    | _ => true

theorem goesOn_sound {path : String} {id : Uuid} (s : LocalLibrary) (action : ScanAction)
    (h : goesOn path id s action = true) :
    StaysHome homeOf s action ∧ KeepsFile homeOf path id s action := by
  obtain ⟨hstays, hkeeps⟩ := Bool.and_eq_true_iff.mp h
  refine ⟨staysHome_sound s action hstays, ?_⟩
  cases action with
  | finishScan folderId now =>
    intro task htask _ hhome
    simp only [htask, Option.all_some, hhome, ne_eq, not_true_eq_false, decide_false,
      Bool.false_or] at hkeeps
    obtain ⟨file, hfile, hlisted⟩ := List.any_eq_true.mp hkeeps
    exact ⟨file, hfile, of_decide_eq_true hlisted⟩
  | markMissing folderId other now =>
    have hother : decide (other ≠ path) = true := hkeeps
    exact (of_decide_eq_true hother : other ≠ path)
  | delete ids now =>
    have hother : (!ids.contains id) = true := hkeeps
    intro hid
    rw [List.contains_iff_mem.mpr hid] at hother
    cases hother
  | _ => trivial

theorem found_film_keeps_item :
    ∃ t, libraryMachine.run (scanBesideDeletion ++ [.finishScan 2 4, .finishScan 1 5])
        libraryMachine.init = some t ∧
      Shows 5 1 "/films/a.mkv" t ∧ ⟨9, 5, 100⟩ ∈ t.catalogue.playbackStates := by
  have hrun : (libraryMachine.runWhile (goesOn "/films/a.mkv" 5)
      (scanBesideDeletion ++ [.finishScan 2 4, .finishScan 1 5]) libraryMachine.init).isSome = true :=
    by decide +kernel
  obtain ⟨t, ht⟩ := Option.isSome_iff_exists.mp hrun
  have hshows : Shows 5 1 "/films/a.mkv" libraryMachine.init :=
    ⟨watchedFilm, AList.lookup_insert _, rfl, rfl, rfl⟩
  have hsteps := Machine.steps_of_runWhile goesOn_sound _ ht
  have hkept := found_file_keeps_item clean_twoFolders Machine.Reaches.init hshows hsteps
  exact ⟨t, Machine.run_of_runWhile _ ht, hkept.1,
    hkept.2.playbackStates _ (Finset.mem_singleton_self _) rfl⟩

end Jellyrin.Catalog
