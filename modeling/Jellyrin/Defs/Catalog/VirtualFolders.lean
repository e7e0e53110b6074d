import Jellyrin.Defs.Catalog.CatalogueRuns
import Jellyrin.Defs.Data.Replace
import Jellyrin.Defs.Items.MediaItem

/-! The locations of a library, and the removal of one of them. -/

namespace Jellyrin.Catalog

open Ascii Json Metadata Text

/-! Paths by their components. -/

def leadingComponent (path : String) : List String :=
  if startsWith path "/" then ["/"]
  else if (split '/' path).head? = some "." then ["."]
  else []

def components (path : String) : List String := leadingComponent path ++ Items.pathComponents path

def PathIsUnder (location path : String) : Prop := components location <+: components path

instance (location path : String) : Decidable (PathIsUnder location path) :=
  inferInstanceAs (Decidable (components location <+: components path))

theorem split_slash (a b : String) : split '/' (a ++ "/" ++ b) = split '/' a ++ split '/' b := by
  have hlist : (a ++ "/" ++ b).toList = a.toList ++ '/' :: b.toList := by simp
  rw [split, hlist, List.splitOn_append_cons_self, List.map_append, split, split]

theorem pathComponents_slash (a b : String) :
    Items.pathComponents (a ++ "/" ++ b) = Items.pathComponents a ++ Items.pathComponents b := by
  rw [Items.pathComponents, split_slash, List.filter_append, Items.pathComponents,
    Items.pathComponents]

theorem pathComponents_eq_nil {slashes : List Char} (h : ∀ c ∈ slashes, c = '/') :
    Items.pathComponents (String.ofList slashes) = [] := by
  induction slashes with
  | nil => decide
  | cons c slashes ih =>
    have hc : c = '/' := h c List.mem_cons_self
    have heq : String.ofList (c :: slashes) = "" ++ "/" ++ String.ofList slashes := by
      rw [hc, String.ofList_cons]
      rfl
    rw [heq, pathComponents_slash, ih fun d hd => h d (List.mem_cons_of_mem _ hd)]
    decide

theorem startsWith_slash (a b : String) :
    startsWith (a ++ "/" ++ b) "/" = (a == "" || startsWith a "/") := by
  have hlist : (a ++ "/" ++ b).toList = a.toList ++ '/' :: b.toList := by simp
  rw [startsWith, startsWith, hlist]
  cases ha : a.toList with
  | nil =>
    obtain rfl := String.toList_eq_nil_iff.mp ha
    simp
  | cons c rest =>
    have hne : (a == "") = false := by
      rw [beq_eq_false_iff_ne]
      rintro rfl
      cases ha
    simp [hne, List.isPrefixOf]

theorem leadingComponent_slash (a b : String) :
    leadingComponent (a ++ "/" ++ b) = if a = "" then ["/"] else leadingComponent a := by
  have hhead : (split '/' a ++ split '/' b).head? = (split '/' a).head? := by
    rw [List.head?_append_of_ne_nil]
    rw [split, ne_eq, List.map_eq_nil_iff]
    exact List.splitOn_ne_nil _ _
  rw [leadingComponent, startsWith_slash, split_slash, hhead]
  by_cases ha : a = ""
  · rw [ha]
    rfl
  · rw [if_neg ha, leadingComponent]
    simp [ha]

/-- A path spells a location: as it stands, or without its last slashes as a directory. -/
def Spells (location path : String) : Prop :=
  path = location ∨ (trimEndMatches '/' location ++ "/").toList <+: path.toList

instance (location path : String) : Decidable (Spells location path) :=
  inferInstanceAs (Decidable (_ ∨ _))

theorem trimEndMatches_append_slashes (location : String) :
    ∃ slashes : List Char, (∀ c ∈ slashes, c = '/') ∧
      location = trimEndMatches '/' location ++ String.ofList slashes := by
  refine ⟨location.toList.rtakeWhile (· == '/'), ?_, ?_⟩
  · intro c hc
    have hslash : (c == '/') = true := List.mem_rtakeWhile_imp (p := (· == '/')) hc
    exact beq_iff_eq.mp hslash
  · rw [trimEndMatches, ← String.ofList_append, List.rdropWhile_append_rtakeWhile,
      String.ofList_toList]

theorem Spells.pathIsUnder {location path : String} (hlocation : location ≠ "")
    (h : Spells location path) : PathIsUnder location path := by
  rcases h with rfl | ⟨rest, hrest⟩
  · exact List.prefix_refl _
  obtain ⟨slashes, hslashes, heq⟩ := trimEndMatches_append_slashes location
  generalize trimEndMatches '/' location = base at hrest heq
  have hpath : path = base ++ "/" ++ String.ofList rest := by
    apply String.toList_injective
    rw [← hrest]
    simp
  rw [hpath, PathIsUnder, components, components, leadingComponent_slash, pathComponents_slash]
  cases slashes with
  | nil =>
    have hself : location = base := by rw [heq, String.ofList_nil, String.append_empty]
    rw [← hself, if_neg hlocation, ← List.append_assoc]
    exact List.prefix_append _ _
  | cons c slashes =>
    have hc : c = '/' := hslashes c List.mem_cons_self
    have hlocation : location = base ++ "/" ++ String.ofList slashes := by
      rw [heq, hc, String.ofList_cons, String.append_assoc]
      rfl
    have hnone : Items.pathComponents (String.ofList slashes) = [] :=
      pathComponents_eq_nil fun d hd => hslashes d (List.mem_cons_of_mem _ hd)
    rw [hlocation, leadingComponent_slash, pathComponents_slash, hnone, List.append_nil,
      ← List.append_assoc]
    exact List.prefix_append _ _

/-! The removal of a location. -/

def escapedPathPrefix (path : String) : String :=
  let escaped := replace ['\\'] ['\\', '\\'] (trimEndMatches '/' path).toList
  let escaped := replace ['%'] ['\\', '%'] escaped
  let escaped := replace ['_'] ['\\', '_'] escaped
  String.ofList (escaped ++ ['/', '%'])

theorem toList_escapedPathPrefix (path : String) :
    (escapedPathPrefix path).toList =
      escapeLike ((trimEndMatches '/' path).toList ++ ['/']) ++ ['%'] := by
  have hchars : ∀ cs : List Char,
      replace ['_'] ['\\', '_'] (replace ['%'] ['\\', '%'] (replace ['\\'] ['\\', '\\'] cs)) =
        escapeLike cs := by
    intro cs
    rw [replace_singleton, replace_singleton, replace_singleton, List.flatMap_assoc,
      List.flatMap_assoc, escapeLike]
    refine List.flatMap_congr fun c _ => ?_
    by_cases hescape : c = '\\'
    · subst hescape
      rfl
    by_cases hpercent : c = '%'
    · subst hpercent
      rfl
    by_cases hany : c = '_'
    · subst hany
      rfl
    simp [hescape, hpercent, hany, Ne.symm hescape, Ne.symm hpercent, Ne.symm hany]
  rw [escapedPathPrefix, String.toList_ofList, hchars, escapeLike, escapeLike, List.flatMap_append,
    List.append_assoc]
  rfl

theorem like_escapedPathPrefix {location path : String} :
    like (escapedPathPrefix location).toList path.toList = true ↔
      (trimEndMatches '/' location ++ "/").toList <+: path.toList := by
  rw [toList_escapedPathPrefix, like_escapeLike_append, String.toList_append]
  constructor
  · rintro ⟨rest, hpath, -⟩
    exact ⟨rest, hpath.symm⟩
  · rintro ⟨rest, hpath⟩
    exact ⟨rest, hpath.symm, like_percent rest⟩

def Catalogue.deleteItems (gone : MediaItemRow → Bool) (s : Catalogue) : Catalogue :=
  let isGone := fun id => (s.items.lookup id).any gone
  { s with
    items := HashMap.retain (fun _ item => !gone item) s.items
    derived := fun id => if isGone id then DerivedRows.empty else s.derived id
    playbackStates := s.playbackStates.filter fun state => !isGone state.itemId
    listEntries := s.listEntries.filter fun entry => !isGone entry.itemId }

variable (fmt : TextFormats)

def virtualFolderByName (name : String) (s : Catalogue) : Option (Uuid × VirtualFolder) :=
  (s.folders.entries.find? fun entry => fmt.lower entry.2.name = fmt.lower (trim name)).map
    fun entry => (entry.1, entry.2)

def remainingLocations (folder : VirtualFolder) (path : String) : List String :=
  normalizedLocations (folder.locations.filter (· ≠ trim path))

/-- `path = $2 OR path LIKE $3 ESCAPE '\'`. -/
def isUnderPath (location : String) (item : MediaItemRow) : Bool :=
  item.path = location || like (escapedPathPrefix location).toList item.path.toList

def removeVirtualFolderPath (name path : String) (s : Catalogue) :
    Except String (Bool × Catalogue) :=
  let trimmedPath := trim path
  if trimmedPath = "" then .error "virtual folder path must not be empty"
  else
    match virtualFolderByName fmt name s with
    | none => .ok (false, s)
    | some (id, folder) =>
      if (folder.locations.filter (· ≠ trimmedPath)).length = folder.locations.length then
        .ok (false, s)
      else
        let folder := { folder with locations := remainingLocations folder path }
        let s := { s with folders := s.folders.insert id folder }
        .ok (true, s.deleteItems fun item =>
          item.virtualFolderId = id && isUnderPath trimmedPath item)

theorem isUnderPath_iff {location : String} {item : MediaItemRow} :
    isUnderPath location item = true ↔ Spells location item.path := by
  rw [isUnderPath, Bool.or_eq_true, decide_eq_true_eq, like_escapedPathPrefix, Spells]

/-! What is deleted, and what is kept. -/

structure KeepsTheRest (gone : MediaItemRow → Bool) (s s' : Catalogue) : Prop where
  items : ∀ id item, s'.items.lookup id = some item ↔
    s.items.lookup id = some item ∧ gone item = false
  derived : ∀ id ∈ s'.items, s'.derived id = s.derived id
  playbackStates : ∀ state : PlaybackStateRow, state.itemId ∈ s'.items →
    (state ∈ s'.playbackStates ↔ state ∈ s.playbackStates)
  listEntries : ∀ entry : ListEntryRow, entry.itemId ∈ s'.items →
    (entry ∈ s'.listEntries ↔ entry ∈ s.listEntries)

theorem keepsTheRest_deleteItems (gone : MediaItemRow → Bool) (s : Catalogue)
    (folders : HashMap Uuid VirtualFolder) :
    KeepsTheRest gone s ({ s with folders }.deleteItems gone) := by
  have hitems : ∀ id item, ({ s with folders }.deleteItems gone).items.lookup id = some item ↔
      s.items.lookup id = some item ∧ gone item = false := by
    intro id item
    rw [Catalogue.deleteItems, HashMap.lookup_retain, Bool.not_eq_true']
  have hkept : ∀ id ∈ ({ s with folders }.deleteItems gone).items,
      (s.items.lookup id).any gone = false := by
    intro id hid
    obtain ⟨item, hitem⟩ := HashMap.exists_lookup_of_mem hid
    obtain ⟨hlookup, hgone⟩ := (hitems id item).mp hitem
    rw [hlookup, Option.any_some, hgone]
  constructor
  case items => exact hitems
  case derived =>
    intro id hid
    simp [Catalogue.deleteItems, hkept id hid]
  case playbackStates =>
    intro state hid
    simp [Catalogue.deleteItems, hkept state.itemId hid]
  case listEntries =>
    intro entry hid
    simp [Catalogue.deleteItems, hkept entry.itemId hid]

def isGone (id : Uuid) (path : String) (item : MediaItemRow) : Bool :=
  item.virtualFolderId = id && isUnderPath (trim path) item

variable {fmt} {name path : String} {s : Catalogue} {id : Uuid} {folder : VirtualFolder}

theorem removeVirtualFolderPath_of_blank (h : trim path = "") :
    removeVirtualFolderPath fmt name path s = .error "virtual folder path must not be empty" :=
  if_pos h

theorem removeVirtualFolderPath_of_absent (hpath : trim path ≠ "")
    (h : ∀ id folder, virtualFolderByName fmt name s = some (id, folder) →
      trim path ∉ folder.locations) : removeVirtualFolderPath fmt name path s = .ok (false, s) := by
  rw [removeVirtualFolderPath, if_neg hpath]
  cases hfolder : virtualFolderByName fmt name s with
  | none => rfl
  | some entry =>
    have hall : entry.2.locations.filter (· ≠ trim path) = entry.2.locations := by
      rw [List.filter_eq_self]
      intro location hlocation
      rw [decide_eq_true_eq]
      rintro rfl
      exact h entry.1 entry.2 hfolder hlocation
    exact if_pos (congrArg List.length hall)

theorem removeVirtualFolderPath_of_mem (hpath : trim path ≠ "")
    (hfolder : virtualFolderByName fmt name s = some (id, folder))
    (hmem : trim path ∈ folder.locations) :
    removeVirtualFolderPath fmt name path s = .ok (true,
      { s with
        folders := s.folders.insert id
          { folder with locations := remainingLocations folder path } }.deleteItems
        (isGone id path)) := by
  have hlength : (folder.locations.filter (· ≠ trim path)).length ≠ folder.locations.length := by
    intro heq
    have hself := List.filter_sublist.eq_of_length heq
    rw [List.filter_eq_self] at hself
    simpa using hself (trim path) hmem
  rw [removeVirtualFolderPath, if_neg hpath, hfolder]
  exact if_neg hlength

structure RemovesExactly (fmt : TextFormats) (name path : String) (s : Catalogue) : Prop where
  blank : trim path = "" →
    removeVirtualFolderPath fmt name path s = .error "virtual folder path must not be empty"
  absent : trim path ≠ "" → (∀ id folder, virtualFolderByName fmt name s = some (id, folder) →
    trim path ∉ folder.locations) → removeVirtualFolderPath fmt name path s = .ok (false, s)
  removed : ∀ id folder, trim path ≠ "" → virtualFolderByName fmt name s = some (id, folder) →
    trim path ∈ folder.locations → ∃ s' gone,
      removeVirtualFolderPath fmt name path s = .ok (true, s') ∧
      s'.folders = s.folders.insert id
        { folder with locations := remainingLocations folder path } ∧
      KeepsTheRest gone s s' ∧
      ∀ itemId item, s.items.lookup itemId = some item →
        (gone item = true ↔ item.virtualFolderId = id ∧ PathIsUnder (trim path) item.path ∧
          ∀ location ∈ remainingLocations folder path, ¬ PathIsUnder location item.path)

/-- Every item of the folder under the location spells it and lies under no location that remains,
or does neither. -/
def SpellsApart (fmt : TextFormats) (name path : String) (s : Catalogue) : Prop :=
  ∀ id folder, trim path ≠ "" → virtualFolderByName fmt name s = some (id, folder) →
    trim path ∈ folder.locations → ∀ itemId item, s.items.lookup itemId = some item →
      item.virtualFolderId = id → PathIsUnder (trim path) item.path →
      (Spells (trim path) item.path ↔
        ∀ location ∈ remainingLocations folder path, ¬ PathIsUnder location item.path)

theorem isGone_iff {item : MediaItemRow} :
    isGone id path item = true ↔ item.virtualFolderId = id ∧ Spells (trim path) item.path := by
  rw [isGone, Bool.and_eq_true, decide_eq_true_eq, isUnderPath_iff]

theorem gone_eq_isGone {s' : Catalogue} {gone : MediaItemRow → Bool} (hpath : trim path ≠ "")
    (hfolder : virtualFolderByName fmt name s = some (id, folder))
    (hmem : trim path ∈ folder.locations)
    (hremoved : removeVirtualFolderPath fmt name path s = .ok (true, s'))
    (hgone : KeepsTheRest gone s s') {itemId : Uuid} {item : MediaItemRow}
    (hitem : s.items.lookup itemId = some item) : gone item = isGone id path item := by
  rw [removeVirtualFolderPath_of_mem hpath hfolder hmem] at hremoved
  cases hremoved
  have hsame := (hgone.items itemId item).symm.trans
    ((keepsTheRest_deleteItems _ _ _).items itemId item)
  have hfalse : gone item = false ↔ isGone id path item = false := by simpa [hitem] using hsame
  exact Bool.eq_iff_iff.mpr (by simpa using not_congr hfalse)

theorem removeVirtualFolderPath_removes_exactly_iff (fmt : TextFormats) (name path : String)
    (s : Catalogue) : RemovesExactly fmt name path s ↔ SpellsApart fmt name path s := by
  constructor
  · intro h id folder hpath hfolder hmem itemId item hitem hid hunder
    obtain ⟨s', gone, hremoved, -, hrest, hexact⟩ := h.removed id folder hpath hfolder hmem
    have hgone := gone_eq_isGone hpath hfolder hmem hremoved hrest hitem
    have hiff := hexact itemId item hitem
    rw [hgone, isGone_iff] at hiff
    simpa [hid, hunder] using hiff
  · intro h
    constructor
    case blank => exact removeVirtualFolderPath_of_blank
    case absent => exact removeVirtualFolderPath_of_absent
    case removed =>
      intro id folder hpath hfolder hmem
      refine ⟨_, isGone id path, removeVirtualFolderPath_of_mem hpath hfolder hmem, rfl, ?_, ?_⟩
      · exact keepsTheRest_deleteItems _ _ _
      intro itemId item hitem
      rw [isGone_iff]
      refine and_congr_right fun hid => ?_
      constructor
      · intro hspells
        have hunder := hspells.pathIsUnder hpath
        exact ⟨hunder, (h id folder hpath hfolder hmem itemId item hitem hid hunder).mp hspells⟩
      · rintro ⟨hunder, hapart⟩
        exact (h id folder hpath hfolder hmem itemId item hitem hid hunder).mpr hapart

def nestedLocations : Catalogue :=
  { Catalogue.empty with
    folders := (∅ : HashMap Uuid VirtualFolder).insert 1
      { name := "Films", collectionType := none, locations := ["/media", "/media/new"] }
    items := (∅ : HashMap Uuid MediaItemRow).insert 2 {
      virtualFolderId := 1
      name := "Film"
      path := "/media/new/film.mkv"
      mediaType := "Video"
      collectionType := none
      missingSince := none
      fileSize := none
      modifiedAt := none
      runtimeTicks := none
      bitrate := none
      width := none
      height := none
      mediaStreams := []
      metadata := .object [] } }

theorem removeVirtualFolderPath_ignores_remaining_locations :
    ¬ RemovesExactly plainFormats "films" "/media" nestedLocations := by
  intro h
  have hpath : trim "/media" ≠ "" := by decide
  have hfolder : virtualFolderByName plainFormats "films" nestedLocations =
      some (1, ⟨"Films", none, ["/media", "/media/new"]⟩) := by rfl
  have hmem : trim "/media" ∈ ["/media", "/media/new"] := by decide
  obtain ⟨s', gone, hremoved, -, hrest, hexact⟩ := h.removed _ _ hpath hfolder hmem
  have hitem : ∃ item, nestedLocations.items.lookup 2 = some item ∧
      item.path = "/media/new/film.mkv" ∧ item.virtualFolderId = 1 := ⟨_, rfl, rfl, rfl⟩
  obtain ⟨item, hitem, hitemPath, hid⟩ := hitem
  have hgone := gone_eq_isGone hpath hfolder hmem hremoved hrest hitem
  have hspells : Spells (trim "/media") item.path := by
    rw [hitemPath]
    decide
  have hapart := ((hexact 2 item hitem).mp (hgone.trans (isGone_iff.mpr ⟨hid, hspells⟩))).2.2
  refine hapart "/media/new" (by decide) ?_
  rw [hitemPath]
  decide

end Jellyrin.Catalog
