import Jellyrin.Defs.Catalog.VirtualFolders
import Jellyrin.Defs.Data.Separated

/-! Scans of local files, beside deletions and each other. -/

namespace Jellyrin.Catalog

open Ascii Json Metadata Transition

/-! Files. -/

def pathFileStem (path : String) : Option String := do
  let fileName ← ((Items.pathComponents path).getLast?).filter (· ≠ "..")
  match rsplitOnce (· == '.') fileName.toList with
  | some (stem, _) => return if stem.isEmpty then fileName else String.ofList stem
  | none => return fileName

def mediaName (path : String) : Option String := ((pathFileStem path).map trim).filter (· ≠ "")

def mediaTypeForPath (path : String) : Option String := do
  let extension := toAsciiLowercase (← Items.pathExtension path)
  if ["mkv", "mp4", "avi", "mov", "wmv", "m4v", "webm"].contains extension then some "Video"
  else if ["mp3", "flac", "m4a", "aac", "ogg", "wav"].contains extension then some "Audio"
  else if ["jpg", "jpeg", "png", "webp", "gif", "bmp"].contains extension then some "Photo"
  else if ["epub", "pdf", "cbz", "cbr"].contains extension then some "Book"
  else none

/-- What a scan is told of a file, and the identifier that its item gets if it is a new one. -/
structure DiskFile where
  path : String
  fileSize : Option Int
  modifiedAt : Option Int
  info : MediaInfo
  metadata : Json
  newId : Uuid

def DiskFile.toMediaFile (file : DiskFile) : Option LocalMediaFile := do
  let name ← mediaName file.path
  let mediaType ← mediaTypeForPath file.path
  return {
    name
    path := file.path
    mediaType
    fileSize := file.fileSize
    modifiedAt := file.modifiedAt
    info := file.info
    metadata := file.metadata }

def identityValues (mediaType : String) (fileSize modifiedAt : Option Int) :
    Option (String × Int × Int) :=
  match fileSize, modifiedAt with
  | some fileSize, some modifiedAt => some (mediaType, fileSize, modifiedAt)
  | _, _ => none

def LocalMediaFile.values (file : LocalMediaFile) : Option (String × Int × Int) :=
  identityValues file.mediaType file.fileSize file.modifiedAt

def MediaItemRow.values (item : MediaItemRow) : Option (String × Int × Int) :=
  identityValues item.mediaType item.fileSize item.modifiedAt

/-! The item of a file. -/

abbrev ItemEntry := Sigma fun _ : Uuid => MediaItemRow

/-- `ORDER BY missing_since NULLS FIRST LIMIT 1`. -/
def exactId (path : String) (items : HashMap Uuid MediaItemRow) : Option Uuid :=
  (minOf (fun a b : ItemEntry => compare a.2.missingSince b.2.missingSince)
    (items.entries.filter fun entry => entry.2.path = path)).map (·.1)

def isCandidate (folderId : Uuid) (values : String × Int × Int) (path : String)
    (item : MediaItemRow) : Bool :=
  item.virtualFolderId = folderId && item.values = some values && item.path ≠ path &&
    item.missingSince.isSome

/-- `ORDER BY missing_since DESC LIMIT 1`. -/
def identityId (folderId : Uuid) (file : LocalMediaFile) (items : HashMap Uuid MediaItemRow) :
    Option Uuid :=
  match file.values with
  | none => none
  | some values =>
    (minOf (fun a b : ItemEntry => compare b.2.missingSince a.2.missingSince)
      (items.entries.filter fun entry => isCandidate folderId values file.path entry.2)).map (·.1)

def knownId (folderId : Uuid) (file : LocalMediaFile) (items : HashMap Uuid MediaItemRow) :
    Option Uuid :=
  (exactId file.path items).or (identityId folderId file items)

/-! Scans. -/

/-- A file between two statements of its scan: not deleted by the user, then with the item that it
is to be written to and the document that the item had. -/
inductive IndexedFile where
  | checked (file : LocalMediaFile) (newId : Uuid)
  | chosen (file : LocalMediaFile) (id : Uuid) (current : Json)

def IndexedFile.file : IndexedFile → LocalMediaFile
  | .checked file _ => file
  | .chosen file _ _ => file

/-- A scan that holds the lock of its folder.  Nothing reads the files as they were listed. -/
structure ScanTask where
  folder : VirtualFolder
  listed : List DiskFile
  files : List DiskFile
  foundPaths : Finset String
  indexed : Option IndexedFile
  canReconcileStale : Bool

structure WaitingFile where
  folderId : Uuid
  folder : VirtualFolder
  file : LocalMediaFile
  newId : Uuid

structure LocalLibrary where
  catalogue : Catalogue
  /-- `media_item_deletions`. -/
  deletions : Finset String
  scans : HashMap Uuid ScanTask
  waiting : List WaitingFile

variable (fmt : TextFormats)

def beginScan (folderId : Uuid) (disk : String → Option (List DiskFile)) (s : LocalLibrary) :
    Option LocalLibrary := do
  guard (folderId ∉ s.scans)
  let folder ← s.catalogue.folders.lookup folderId
  let files := (folder.locations.filterMap disk).flatten
  let canReconcileStale := folder.locations.all fun location => (disk location).isSome
  let task := {
    folder, files, canReconcileStale, listed := files, foundPaths := ∅, indexed := none }
  return { s with scans := s.scans.insert folderId task }

def ScanTask.checkFile (deletions : Finset String) (task : ScanTask) : Option ScanTask :=
  match task.indexed, task.files with
  | none, file :: files =>
    if file.path ∈ deletions then some { task with files }
    else
      match file.toMediaFile with
      | none => some { task with files }
      | some media =>
        some { task with
          files
          foundPaths := insert file.path task.foundPaths
          indexed := some (.checked media file.newId) }
  | _, _ => none

def checkFile (folderId : Uuid) (s : LocalLibrary) : Option LocalLibrary := do
  let task ← (← s.scans.lookup folderId).checkFile s.deletions
  return { s with scans := s.scans.insert folderId task }

def ScanTask.hasChosen (id : Uuid) (task : ScanTask) : Bool :=
  match task.indexed with
  | some (.chosen _ other _) => other = id
  | _ => false

def LocalLibrary.isFresh (s : LocalLibrary) (id : Uuid) : Bool :=
  id ∉ s.catalogue.items && !s.scans.any fun _ task => task.hasChosen id

def chooseItem (folderId : Uuid) (s : LocalLibrary) : Option LocalLibrary := do
  let task ← s.scans.lookup folderId
  match task.indexed with
  | some (.checked file newId) =>
    let known := knownId folderId file s.catalogue.items
    guard (known.isSome || s.isFresh newId)
    let id := known.getD newId
    let current :=
      ((s.catalogue.items.lookup id).map fun item => fmt.stored item.metadata).getD (.object [])
    let task := { task with indexed := some (.chosen file id current) }
    return { s with scans := s.scans.insert folderId task }
  | _ => none

def upsertItem (folderId : Uuid) (s : LocalLibrary) : Option LocalLibrary := do
  let task ← s.scans.lookup folderId
  match task.indexed with
  | some (.chosen file id current) =>
    let catalogue ←
      postgresUpsertLocalMediaItem fmt id folderId task.folder file current s.catalogue
    return { s with catalogue, scans := s.scans.insert folderId { task with indexed := none } }
  | _ => none

def markMissing (now : Int) (stale : MediaItemRow → Bool) (s : Catalogue) : Catalogue :=
  { s with items := s.items.mapValues fun item =>
      if item.missingSince.isNone && stale item then { item with missingSince := some now }
      else item }

def finishScan (folderId : Uuid) (now : Int) (s : LocalLibrary) : Option LocalLibrary := do
  let task ← s.scans.lookup folderId
  guard (task.indexed.isNone && task.files.isEmpty)
  let stale := fun item : MediaItemRow =>
    task.canReconcileStale && item.virtualFolderId = folderId && item.path ∉ task.foundPaths
  return { s with
    catalogue := markMissing now stale s.catalogue
    scans := s.scans.erase folderId }

/-- The first half of `scan_single_file`, which takes one of the folders that hold the path. -/
def checkSingleFile (folderId : Uuid) (file : DiskFile) (s : LocalLibrary) :
    Option LocalLibrary := do
  guard (file.path ∉ s.deletions)
  let media ← file.toMediaFile
  let folder ← s.catalogue.folders.lookup folderId
  guard (folder.locations.any fun location => PathIsUnder location file.path)
  return { s with waiting := ⟨folderId, folder, media, file.newId⟩ :: s.waiting }

def beginSingleFile (index : Nat) (s : LocalLibrary) : Option LocalLibrary := do
  let waiting ← s.waiting[index]?
  guard (waiting.folderId ∉ s.scans)
  let task := {
    folder := waiting.folder
    listed := []
    files := []
    foundPaths := ∅
    indexed := some (.checked waiting.file waiting.newId)
    canReconcileStale := false }
  return { s with
    scans := s.scans.insert waiting.folderId task
    waiting := s.waiting.eraseIdx index }

def markMediaItemMissingByPath (folderId : Uuid) (path : String) (now : Int) (s : LocalLibrary) :
    Option LocalLibrary := do
  guard (folderId ∉ s.scans)
  let stale := fun item : MediaItemRow => item.path = path && item.virtualFolderId = folderId
  return { s with catalogue := markMissing now stale s.catalogue }

/-- The items stay as missing ones; their playback states and entries of lists do not. -/
def deleteMediaItems (ids : List Uuid) (now : Int) (s : LocalLibrary) : LocalLibrary :=
  let visible := s.catalogue.items.entries.filter fun entry =>
    entry.2.missingSince.isNone && ids.contains entry.1
  let isGone := (visible.map (·.1)).contains
  { s with
    deletions := s.deletions ∪ (visible.map (·.2.path)).toFinset
    catalogue :=
      { s.catalogue with
        items := s.catalogue.items.mapEntries fun id item =>
          if isGone id then { item with missingSince := some now } else item
        playbackStates := s.catalogue.playbackStates.filter fun state => !isGone state.itemId
        listEntries := s.catalogue.listEntries.filter fun entry => !isGone entry.itemId } }

inductive ScanAction where
  | beginScan (folderId : Uuid) (disk : String → Option (List DiskFile))
  | checkFile (folderId : Uuid)
  | chooseItem (folderId : Uuid)
  | upsertItem (folderId : Uuid)
  | finishScan (folderId : Uuid) (now : Int)
  /-- A scan that ends with an error, or is cancelled. -/
  | dropScan (folderId : Uuid)
  | checkSingleFile (folderId : Uuid) (file : DiskFile)
  | beginSingleFile (index : Nat)
  | markMissing (folderId : Uuid) (path : String) (now : Int)
  | delete (ids : List Uuid) (now : Int)

def scanStep (s : LocalLibrary) : ScanAction → Option LocalLibrary
  | .beginScan folderId disk => beginScan folderId disk s
  | .checkFile folderId => checkFile folderId s
  | .chooseItem folderId => chooseItem fmt folderId s
  | .upsertItem folderId => upsertItem fmt folderId s
  | .finishScan folderId now => finishScan folderId now s
  | .dropScan folderId => some { s with scans := s.scans.erase folderId }
  | .checkSingleFile folderId file => checkSingleFile folderId file s
  | .beginSingleFile index => beginSingleFile index s
  | .markMissing folderId path now => markMediaItemMissingByPath folderId path now s
  | .delete ids now => some (deleteMediaItems ids now s)

def scanMachine (start : Catalogue) (deletions : Finset String) :
    Machine LocalLibrary ScanAction where
  init := ⟨start, deletions, ∅, []⟩
  step := scanStep fmt

end Jellyrin.Catalog
