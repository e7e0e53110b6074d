import Jellyrin.Defs.Data.Directory
import Jellyrin.Defs.Data.EntityId
import Jellyrin.Defs.Data.Fallible
import Jellyrin.Defs.Data.FirstRows
import Jellyrin.Defs.Data.Separated
import Jellyrin.Defs.Data.Text
import Jellyrin.Defs.PluginVod.ImageDimensions

/-! The images that are stored for an owner: one directory, a file for each type and index. -/

namespace Jellyrin.StoredImages

open Api Text Directory PluginVod

/-! Names. -/

def sanitizeImagePathSegment (value : String) : String :=
  let sanitized := value.toList.map fun c =>
    if c.isAlphanum || c = '-' || c = '_' then c.toLower else '_'
  if sanitized.isEmpty then "image" else String.ofList sanitized

def extension : ImageFormat → String
  | .png => "png"
  | .jpg => "jpg"
  | .webp => "webp"
  | .gif => "gif"
  | .bin => "bin"

def imageFormats : List ImageFormat := [.png, .jpg, .webp, .gif, .bin]

def storedImageFileName (imageType : String) (imageIndex : Nat) (extension : String) : String :=
  sanitizeImagePathSegment imageType ++ "_" ++ toString imageIndex ++ "." ++ extension

def usizeMax : Nat := 2 ^ 64 - 1

def parseStoredImageFileName (fileName : String) : Option (String × Nat × String) := do
  let (stem, extension) ← rsplitOnce (· == '.') fileName.toList
  let (imageType, imageIndex) ← rsplitOnce (· == '_') stem
  let imageIndex ← parseUnsigned usizeMax (String.ofList imageIndex)
  return (String.ofList imageType, imageIndex, String.ofList extension)

def reorderFileName (batchId : Uuid) (position : Nat) (extension : String) : String :=
  ".jellyrin-image-reorder-" ++ batchId.simple ++ "-" ++ toString position ++ "." ++ extension

/-! The directory. -/

inductive Node where
  | file (bytes : List UInt8)
  | other

abbrev Files := HashMap String Node

inductive ImageError where
  | answered (error : ApiError)
  | io

structure StoredImageFile where
  index : Nat
  extension : String
  path : String
  deriving DecidableEq

def storedImageFile (targetType : String) (entry : Sigma fun _ : String => Node) :
    Option StoredImageFile :=
  match entry.2, parseStoredImageFileName entry.1 with
  | .file _, some (storedType, index, extension) =>
    if storedType = targetType then some ⟨index, extension, entry.1⟩ else none
  | _, _ => none

structure ReadOutcomes where
  readDir : Bool
  nextEntry : Nat → Bool
  fileType : Nat → Bool

def readImages (outcomes : ReadOutcomes) (targetType : String) :
    Nat → List (Sigma fun _ : String => Node) → Except ImageError (List StoredImageFile)
  | count, [] => if outcomes.nextEntry count then .ok [] else .error .io
  | count, entry :: entries =>
    if outcomes.nextEntry count && outcomes.fileType count then do
      let images ← readImages outcomes targetType (count + 1) entries
      return (storedImageFile targetType entry).toList ++ images
    else .error .io

def sortByIndex (images : List StoredImageFile) : List StoredImageFile :=
  sortBy (fun a b => compare a.index b.index) images

def storedImagesForType (outcomes : ReadOutcomes) (files : Files) (imageType : String) :
    Except ImageError (List StoredImageFile) :=
  if outcomes.readDir then
    (readImages outcomes (sanitizeImagePathSegment imageType) 0 files.entries).map sortByIndex
  else .error .io

/-! Reordering. -/

def moveImage (images : List StoredImageFile) (oldPosition newIndex : Nat) :
    List StoredImageFile :=
  match images[oldPosition]? with
  | some moved => (images.eraseIdx oldPosition).insertIdx newIndex moved
  | none => images

def stageMoves (batchId : Uuid) (images : List StoredImageFile) : List (String × String) :=
  images.mapIdx fun position image =>
    (image.path, reorderFileName batchId position image.extension)

def finalMoves (batchId : Uuid) (imageType : String) (images : List StoredImageFile) :
    List (String × String) :=
  images.mapIdx fun position image =>
    (reorderFileName batchId position image.extension,
      storedImageFileName imageType position image.extension)

/-- What becomes of the reading and of the moves, which are counted over both loops. -/
structure ReorderOutcomes extends ReadOutcomes where
  rename : Nat → Bool

def reorderStoredImages (outcomes : ReorderOutcomes) (batchId : Uuid) (files : Files)
    (imageType : String) (oldIndex newIndex : Nat) : Except ImageError Unit × Files :=
  match storedImagesForType outcomes.toReadOutcomes files imageType with
  | .error error => (.error error, files)
  | .ok images =>
    match images.findIdx? (·.index = oldIndex) with
    | none => (.error (.answered (.notFound "Image not found")), files)
    | some oldPosition =>
      if images.length ≤ newIndex then
        (.error (.answered (.badRequest "New image index is out of range")), files)
      else if oldPosition = newIndex then (.ok (), files)
      else
        let images := moveImage images oldPosition newIndex
        match renameAll outcomes.rename 0 (stageMoves batchId images) files with
        | (false, files) => (.error .io, files)
        | (true, files) =>
          match renameAll outcomes.rename images.length (finalMoves batchId imageType images) files with
          | (false, files) => (.error .io, files)
          | (true, files) => (.ok (), files)

/-! Storing. -/

/-- A write that fails leaves the file as it was, or with the first of the bytes. -/
inductive WriteOutcome where
  | done
  | failed (written : Option Nat)

structure StoreOutcomes where
  createDirAll : Bool
  removeFile : Nat → Bool
  write : WriteOutcome

def write (outcome : WriteOutcome) (path : String) (bytes : List UInt8) (files : Files) :
    Except ImageError Unit × Files :=
  match outcome with
  | .done => (.ok (), files.insert path (.file bytes))
  | .failed none => (.error .io, files)
  | .failed (some written) => (.error .io, files.insert path (.file (bytes.take written)))

def storedImageFileNames (imageType : String) (imageIndex : Nat) : List String :=
  imageFormats.map fun format => storedImageFileName imageType imageIndex (extension format)

def deleteStoredImageFiles (removeFile : Nat → Bool) (imageType : String) (imageIndex : Nat)
    (files : Files) : Bool × Files :=
  removeAll removeFile 0 (storedImageFileNames imageType imageIndex) files

def storeImageBytes (outcomes : StoreOutcomes) (files : Files) (imageType : String)
    (imageIndex : Nat) (bytes : List UInt8) : Except ImageError Unit × Files :=
  let format := imageFormatFromBytes bytes
  if outcomes.createDirAll then
    match deleteStoredImageFiles outcomes.removeFile imageType imageIndex files with
    | (false, files) => (.error .io, files)
    | (true, files) =>
      write outcomes.write (storedImageFileName imageType imageIndex (extension format)) bytes files
  else (.error .io, files)

/-! Laws of the names. -/

theorem notMem_toString {n : Nat} {c : Char} (h : c.isDigit = false) : c ∉ (toString n).toList := by
  intro hmem
  rw [isDigit_of_mem_toString hmem] at h
  cases h

theorem beq_eq_false_of_notMem {c : Char} {cs : List Char} (h : c ∉ cs) :
    ∀ d ∈ cs, (d == c) = false := by
  intro d hd
  rw [beq_eq_false_iff_ne]
  rintro rfl
  exact h hd

theorem parse_storedImageFileName (imageType : String) {imageIndex : Nat} {extension : String}
    (hindex : imageIndex ≤ usizeMax) (hextension : '.' ∉ extension.toList) :
    parseStoredImageFileName (storedImageFileName imageType imageIndex extension) =
      some (sanitizeImagePathSegment imageType, imageIndex, extension) := by
  have hname : (storedImageFileName imageType imageIndex extension).toList =
      ((sanitizeImagePathSegment imageType).toList ++ '_' :: (toString imageIndex).toList) ++
        '.' :: extension.toList := by
    simp [storedImageFileName]
  rw [parseStoredImageFileName, hname,
    rsplitOnce_append (beq_eq_false_of_notMem hextension) (beq_self_eq_true '.')]
  simp only [Option.bind_eq_bind, Option.bind_some]
  rw [rsplitOnce_append (beq_eq_false_of_notMem (notMem_toString (by decide)))
    (beq_self_eq_true '_')]
  simp only [Option.bind_some, String.ofList_toList, parseUnsigned_toString hindex]
  rfl

theorem parseStoredImageFileName_eq_some {fileName imageType extension : String} {imageIndex : Nat}
    (h : parseStoredImageFileName fileName = some (imageType, imageIndex, extension)) :
    '.' ∉ extension.toList := by
  obtain ⟨⟨stem, after⟩, hstem, h⟩ := Option.bind_eq_some_iff.mp h
  obtain ⟨⟨first, index⟩, -, h⟩ := Option.bind_eq_some_iff.mp h
  obtain ⟨n, -, h⟩ := Option.bind_eq_some_iff.mp h
  cases h
  obtain ⟨-, -, -, hafter⟩ := rsplitOnce_eq_some hstem
  rw [String.toList_ofList]
  intro hmem
  exact nomatch (beq_self_eq_true '.').symm.trans (hafter '.' hmem)

def reorderFileStart (batchId : Uuid) : List Char :=
  (".jellyrin-image-reorder-" ++ batchId.simple ++ "-").toList

theorem toList_reorderFileName (batchId : Uuid) (position : Nat) (extension : String) :
    (reorderFileName batchId position extension).toList =
      reorderFileStart batchId ++ ((toString position).toList ++ '.' :: extension.toList) := by
  unfold reorderFileName reorderFileStart
  generalize ".jellyrin-image-reorder-" ++ batchId.simple ++ "-" = start
  simp

theorem notMem_reorderFileStart (batchId : Uuid) : '_' ∉ reorderFileStart batchId := by
  intro hmem
  rw [reorderFileStart, String.toList_append, String.toList_append, List.mem_append,
    List.mem_append] at hmem
  rcases hmem with (hmem | hmem) | hmem
  · exact absurd hmem (by decide)
  · exact absurd (Uuid.mem_simple hmem) (by decide)
  · exact absurd hmem (by decide)

theorem parse_reorderFileName (batchId : Uuid) (position : Nat) {extension : String}
    (hextension : '.' ∉ extension.toList) :
    parseStoredImageFileName (reorderFileName batchId position extension) = none := by
  have hstem : '_' ∉ reorderFileStart batchId ++ (toString position).toList := by
    rw [List.mem_append, not_or]
    exact ⟨notMem_reorderFileStart batchId, notMem_toString (by decide)⟩
  have hsplit : rsplitOnce (· == '.')
      (reorderFileStart batchId ++ (toString position).toList ++ '.' :: extension.toList) =
        some (reorderFileStart batchId ++ (toString position).toList, extension.toList) :=
    rsplitOnce_append (beq_eq_false_of_notMem hextension) (beq_self_eq_true '.')
  rw [parseStoredImageFileName, toList_reorderFileName, ← List.append_assoc, hsplit]
  simp only [Option.bind_eq_bind, Option.bind_some]
  rw [rsplitOnce_eq_none (beq_eq_false_of_notMem hstem)]
  rfl

theorem reorderFileName_injective {batchId : Uuid} {position position' : Nat}
    {extension extension' : String}
    (h : reorderFileName batchId position extension =
      reorderFileName batchId position' extension') : position = position' := by
  have hlist := congrArg String.toList h
  rw [toList_reorderFileName, toList_reorderFileName] at hlist
  have hrest := List.append_cancel_left hlist
  refine toString_injective (String.toList_injective ?_)
  exact eq_of_append_cons (notMem_toString (by decide)) (notMem_toString (by decide)) hrest

/-! What is listed. -/

abbrev Entry := Sigma fun _ : String => Node

def imagesOfType (targetType : String) (entries : List Entry) : List StoredImageFile :=
  sortByIndex (entries.filterMap (storedImageFile targetType))

def listedImage (name : String) (node : Node) : Multiset (String × List UInt8) :=
  match node, parseStoredImageFileName name with
  | .file bytes, some (imageType, _, _) => {(imageType, bytes)}
  | _, _ => 0

theorem listedImage_of_parse {name imageType extension : String} {index : Nat}
    (h : parseStoredImageFileName name = some (imageType, index, extension)) (bytes : List UInt8) :
    listedImage name (.file bytes) = {(imageType, bytes)} := by
  simp [listedImage, h]

def listed (files : Files) : Multiset (String × List UInt8) := collect listedImage files

variable {targetType imageType : String} {files files' : Files} {images : List StoredImageFile}

theorem storedImageFile_eq_some {entry : Entry} {image : StoredImageFile} :
    storedImageFile targetType entry = some image ↔
      (∃ bytes, entry.2 = .file bytes) ∧ image.path = entry.1 ∧
        parseStoredImageFileName entry.1 = some (targetType, image.index, image.extension) := by
  obtain ⟨name, node⟩ := entry
  obtain ⟨index, extension, path⟩ := image
  unfold storedImageFile
  cases node with
  | other => simp
  | file bytes =>
    cases hparse : parseStoredImageFileName name with
    | none => simp
    | some parsed =>
      obtain ⟨storedType, storedIndex, storedExtension⟩ := parsed
      dsimp only
      split
      · rename_i htype
        subst htype
        simp only [Option.some.injEq, StoredImageFile.mk.injEq, Prod.mk.injEq]
        constructor
        · rintro ⟨rfl, rfl, rfl⟩
          exact ⟨⟨bytes, rfl⟩, rfl, trivial, rfl, rfl⟩
        · rintro ⟨-, rfl, -, rfl, rfl⟩
          exact ⟨rfl, rfl, rfl⟩
      · rename_i htype
        simp [htype]

structure Lists (targetType : String) (files : Files) (images : List StoredImageFile) : Prop where
  nodup : (images.map (·.path)).Nodup
  mem_iff : ∀ image, image ∈ images ↔
    (∃ bytes, files.lookup image.path = some (.file bytes)) ∧
      parseStoredImageFileName image.path = some (targetType, image.index, image.extension)

theorem Lists.perm {images' : List StoredImageFile} (h : Lists targetType files images)
    (hperm : images'.Perm images) : Lists targetType files images' where
  nodup := (hperm.map _).nodup_iff.mpr h.nodup
  mem_iff image := hperm.mem_iff.trans (h.mem_iff image)

theorem map_path_sublist (targetType : String) (entries : List Entry) :
    ((entries.filterMap (storedImageFile targetType)).map (·.path)).Sublist
      (entries.map Sigma.fst) := by
  induction entries with
  | nil => exact List.Sublist.refl _
  | cons entry entries ih =>
    rw [List.filterMap_cons]
    cases himage : storedImageFile targetType entry with
    | none => exact ih.cons _
    | some image =>
      rw [List.map_cons, List.map_cons, (storedImageFile_eq_some.mp himage).2.1]
      exact ih.cons_cons _

theorem lists_imagesOfType (targetType : String) {entries : List Entry}
    (h : entries.Perm files.entries) : Lists targetType files (imagesOfType targetType entries) := by
  have hlists : Lists targetType files (entries.filterMap (storedImageFile targetType)) := by
    constructor
    case nodup =>
      have hkeys : (entries.map Sigma.fst).Nodup := (h.map _).nodup_iff.mpr files.nodupKeys
      exact hkeys.sublist (map_path_sublist targetType entries)
    case mem_iff =>
      intro image
      rw [List.mem_filterMap]
      constructor
      · rintro ⟨⟨name, node⟩, hentry, himage⟩
        obtain ⟨⟨bytes, rfl⟩, hpath, hparse⟩ := storedImageFile_eq_some.mp himage
        rw [hpath]
        refine ⟨⟨bytes, ?_⟩, hparse⟩
        exact AList.mem_lookup_iff.mpr (h.mem_iff.mp hentry)
      · rintro ⟨⟨bytes, hlookup⟩, hparse⟩
        refine ⟨⟨image.path, .file bytes⟩, h.mem_iff.mpr ?_, ?_⟩
        · exact AList.mem_lookup_iff.mp (Option.mem_def.mpr hlookup)
        · exact storedImageFile_eq_some.mpr ⟨⟨bytes, rfl⟩, rfl, hparse⟩
  exact hlists.perm (sortBy_perm _ _)

theorem Lists.imagesOfType_eq (h : Lists targetType files images)
    (hascends : images.Pairwise fun a b => a.index < b.index) {entries : List Entry}
    (hentries : entries.Perm files.entries) : imagesOfType targetType entries = images := by
  have hlists := lists_imagesOfType targetType hentries
  have hperm : images.Perm (imagesOfType targetType entries) := by
    refine (List.perm_ext_iff_of_nodup (List.Nodup.of_map _ h.nodup)
      (List.Nodup.of_map _ hlists.nodup)).mpr fun image => ?_
    rw [h.mem_iff, hlists.mem_iff]
  have htrans : Std.TransCmp fun a b : StoredImageFile => compare a.index b.index :=
    transCmp_comp (compare : Nat → Nat → Ordering) StoredImageFile.index
  have hindices : (images.map (·.index)).Nodup :=
    List.pairwise_map.mpr (hascends.imp fun hlt => Nat.ne_of_lt hlt)
  have hsorted : sortByIndex images = images := by
    refine List.Pairwise.insertionSort_eq (hascends.imp fun hlt => ?_)
    exact Nat.isLE_compare.mpr (Nat.le_of_lt hlt)
  have hself : sortByIndex (imagesOfType targetType entries) = imagesOfType targetType entries :=
    (pairwise_sortBy (fun a b : StoredImageFile => compare a.index b.index) _).insertionSort_eq
  rw [← hsorted, ← hself]
  refine (sortBy_eq_of_perm hperm fun a ha b hb heq => ?_).symm
  exact List.inj_on_of_nodup_map hindices ha hb (Nat.compare_eq_eq.mp heq)

theorem readImages_eq_ok {outcomes : ReadOutcomes} {count : Nat} {entries : List Entry}
    (h : readImages outcomes targetType count entries = .ok images) :
    images = entries.filterMap (storedImageFile targetType) := by
  induction entries generalizing count images with
  | nil =>
    rw [readImages] at h
    split at h
    · cases h
      rfl
    · cases h
  | cons entry entries ih =>
    rw [readImages] at h
    split at h
    · obtain ⟨rest, hrest, h⟩ := exists_of_bind_eq_ok h
      cases h
      rw [ih hrest, List.filterMap_cons]
      cases storedImageFile targetType entry <;> rfl
    · cases h

theorem storedImagesForType_eq_ok {outcomes : ReadOutcomes}
    (h : storedImagesForType outcomes files imageType = .ok images) :
    images = imagesOfType (sanitizeImagePathSegment imageType) files.entries := by
  rw [storedImagesForType] at h
  split at h
  · cases hread : readImages outcomes (sanitizeImagePathSegment imageType) 0 files.entries with
    | error error =>
      rw [hread] at h
      cases h
    | ok read =>
      rw [hread] at h
      cases h
      rw [readImages_eq_ok hread, imagesOfType]
  · cases h

/-! The moves. -/

variable {batchId : Uuid} {files₁ files₂ : Files}

theorem map_mapIdx {α β γ : Type} (g : β → γ) (f : Nat → α → β) (as : List α) :
    (as.mapIdx f).map g = as.mapIdx fun i a => g (f i a) := by
  apply List.ext_getElem
  · simp
  · simp

theorem nodup_mapIdx {α β : Type} {f : Nat → α → β} {as : List α}
    (h : ∀ i j a b, as[i]? = some a → as[j]? = some b → f i a = f j b → i = j) :
    (as.mapIdx f).Nodup := by
  rw [List.Nodup, List.pairwise_iff_getElem]
  intro i j hi hj hlt heq
  rw [List.getElem_mapIdx, List.getElem_mapIdx] at heq
  rw [List.length_mapIdx] at hi hj
  exact absurd (h i j _ _ (List.getElem?_eq_getElem hi) (List.getElem?_eq_getElem hj) heq)
    (Nat.ne_of_lt hlt)

theorem map_fst_stageMoves (batchId : Uuid) (images : List StoredImageFile) :
    (stageMoves batchId images).map Prod.fst = images.map (·.path) := by
  rw [stageMoves, map_mapIdx]
  apply List.ext_getElem
  · simp
  · simp

theorem Lists.parse (h : Lists targetType files images) {image : StoredImageFile}
    (himage : image ∈ images) :
    parseStoredImageFileName image.path = some (targetType, image.index, image.extension) :=
  ((h.mem_iff image).mp himage).2

theorem Lists.notMem_extension (h : Lists targetType files images) {image : StoredImageFile}
    (himage : image ∈ images) : '.' ∉ image.extension.toList :=
  parseStoredImageFileName_eq_some (h.parse himage)

theorem apart_stageMoves (h : Lists targetType files images) (batchId : Uuid) :
    Apart (stageMoves batchId images) := by
  constructor
  case sources =>
    rw [map_fst_stageMoves]
    exact h.nodup
  case targets =>
    rw [stageMoves, map_mapIdx]
    refine nodup_mapIdx fun i j a b _ _ heq => ?_
    exact reorderFileName_injective heq
  case disjoint =>
    intro src hsrc hdst
    rw [map_fst_stageMoves] at hsrc
    obtain ⟨image, himage, rfl⟩ := List.mem_map.mp hsrc
    rw [stageMoves, map_mapIdx, List.mem_mapIdx] at hdst
    obtain ⟨position, hposition, heq⟩ := hdst
    have hnone := parse_reorderFileName batchId position
      (h.notMem_extension (List.getElem_mem hposition))
    have hsome := h.parse himage
    rw [← heq, hnone] at hsome
    cases hsome

theorem apart_finalMoves (h : Lists targetType files images) (hfits : images.length ≤ usizeMax)
    (batchId : Uuid) (imageType : String) : Apart (finalMoves batchId imageType images) := by
  have hparse : ∀ i (hi : i < images.length), parseStoredImageFileName
      (storedImageFileName imageType i images[i].extension) =
        some (sanitizeImagePathSegment imageType, i, images[i].extension) := fun i hi =>
    parse_storedImageFileName imageType (by omega) (h.notMem_extension (List.getElem_mem hi))
  constructor
  case sources =>
    rw [finalMoves, map_mapIdx]
    refine nodup_mapIdx fun i j a b _ _ heq => ?_
    exact reorderFileName_injective heq
  case targets =>
    rw [finalMoves, map_mapIdx]
    refine nodup_mapIdx fun i j a b ha hb heq => ?_
    obtain ⟨hi, rfl⟩ := List.getElem?_eq_some_iff.mp ha
    obtain ⟨hj, rfl⟩ := List.getElem?_eq_some_iff.mp hb
    have hsame := (hparse i hi).symm.trans ((congrArg parseStoredImageFileName heq).trans (hparse j hj))
    cases hsame
    rfl
  case disjoint =>
    intro src hsrc hdst
    rw [finalMoves, map_mapIdx, List.mem_mapIdx] at hsrc hdst
    obtain ⟨i, hi, rfl⟩ := hsrc
    obtain ⟨j, hj, heq⟩ := hdst
    have hnone := parse_reorderFileName batchId i (h.notMem_extension (List.getElem_mem hi))
    have hname : storedImageFileName imageType j images[j].extension =
        reorderFileName batchId i images[i].extension := heq
    have hsome := hparse j hj
    rw [hname, hnone] at hsome
    cases hsome

def numbered (imageType : String) (images : List StoredImageFile) : List StoredImageFile :=
  images.mapIdx fun position image =>
    ⟨position, image.extension, storedImageFileName imageType position image.extension⟩

theorem lookup_finalName (hstage : Moved (stageMoves batchId images) files files₁)
    (hfinal : Moved (finalMoves batchId imageType images) files₁ files₂) {position : Nat}
    (hposition : position < images.length) :
    files₂.lookup (storedImageFileName imageType position images[position].extension) =
      files.lookup images[position].path := by
  have hlast := hfinal.moved _ (List.mem_mapIdx.mpr ⟨position, hposition, rfl⟩)
  have hfirst := hstage.moved _ (List.mem_mapIdx.mpr ⟨position, hposition, rfl⟩)
  exact hlast.trans hfirst

theorem lookup_of_parse (h : Lists targetType files images)
    (hstage : Moved (stageMoves batchId images) files files₁)
    (hfinal : Moved (finalMoves batchId imageType images) files₁ files₂) {name : String}
    (hparse : parseStoredImageFileName name ≠ none)
    (hname : name ∉ (numbered imageType images).map (·.path)) :
    (name ∈ images.map (·.path) → files₂.lookup name = none) ∧
      (name ∉ images.map (·.path) → files₂.lookup name = files.lookup name) := by
  have htemp : ∀ position (hposition : position < images.length),
      name ≠ reorderFileName batchId position images[position].extension := by
    rintro position hposition rfl
    exact hparse (parse_reorderFileName batchId position
      (h.notMem_extension (List.getElem_mem hposition)))
  have hsecond : files₂.lookup name = files₁.lookup name := by
    refine hfinal.kept name ?_ ?_
    · rw [finalMoves, map_mapIdx, List.mem_mapIdx]
      rintro ⟨position, hposition, heq⟩
      exact htemp position hposition heq.symm
    · rw [numbered, map_mapIdx] at hname
      rwa [finalMoves, map_mapIdx]
  rw [hsecond]
  refine ⟨fun hmem => ?_, fun hnotMem => ?_⟩
  · exact hstage.gone name (by rwa [map_fst_stageMoves])
  · refine hstage.kept name (by rwa [map_fst_stageMoves]) ?_
    rw [stageMoves, map_mapIdx, List.mem_mapIdx]
    rintro ⟨position, hposition, heq⟩
    exact htemp position hposition heq.symm

theorem lists_numbered (h : Lists (sanitizeImagePathSegment imageType) files images)
    (hfits : images.length ≤ usizeMax) (hstage : Moved (stageMoves batchId images) files files₁)
    (hfinal : Moved (finalMoves batchId imageType images) files₁ files₂) :
    Lists (sanitizeImagePathSegment imageType) files₂ (numbered imageType images) := by
  have hparse : ∀ i (hi : i < images.length), parseStoredImageFileName
      (storedImageFileName imageType i images[i].extension) =
        some (sanitizeImagePathSegment imageType, i, images[i].extension) := fun i hi =>
    parse_storedImageFileName imageType (by omega) (h.notMem_extension (List.getElem_mem hi))
  constructor
  case nodup =>
    have htargets := (apart_finalMoves h hfits batchId imageType).targets
    rw [finalMoves, map_mapIdx] at htargets
    rwa [numbered, map_mapIdx]
  case mem_iff =>
    intro image
    constructor
    · intro himage
      obtain ⟨i, hi, rfl⟩ := List.mem_mapIdx.mp himage
      refine ⟨?_, hparse i hi⟩
      obtain ⟨bytes, hbytes⟩ := ((h.mem_iff _).mp (List.getElem_mem hi)).1
      exact ⟨bytes, (lookup_finalName hstage hfinal hi).trans hbytes⟩
    · rintro ⟨⟨bytes, hbytes⟩, himage⟩
      by_cases hname : image.path ∈ (numbered imageType images).map (·.path)
      · rw [numbered, map_mapIdx] at hname
        obtain ⟨i, hi, hpath⟩ := List.mem_mapIdx.mp hname
        have hsame := (hparse i hi).symm.trans ((congrArg parseStoredImageFileName hpath).trans himage)
        refine List.mem_mapIdx.mpr ⟨i, hi, ?_⟩
        obtain ⟨index, extension, path⟩ := image
        simp only [Option.some.injEq, Prod.mk.injEq, true_and] at hsame
        rw [StoredImageFile.mk.injEq]
        exact ⟨hsame.1, hsame.2, hpath⟩
      · obtain ⟨hgone, hkept⟩ := lookup_of_parse h hstage hfinal (by rw [himage]; exact nofun) hname
        by_cases hmem : image.path ∈ images.map (·.path)
        · rw [hgone hmem] at hbytes
          cases hbytes
        · rw [hkept hmem] at hbytes
          exact absurd (List.mem_map_of_mem ((h.mem_iff image).mpr ⟨⟨bytes, hbytes⟩, himage⟩)) hmem

/-! Reordering keeps the images. -/

/-- The images of the type are the given ones, numbered without gaps, however the directory is
read. -/
def HoldsInOrder (imageType : String) (files files' : Files) (images : List StoredImageFile) :
    Prop :=
  ∀ entries : List Entry, entries.Perm files'.entries →
    (imagesOfType (sanitizeImagePathSegment imageType) entries).map
        (fun image => (image.index, image.extension, files'.lookup image.path)) =
      images.mapIdx fun position image => (position, image.extension, files.lookup image.path)

def KeepsOtherTypes (imageType : String) (files files' : Files) : Prop :=
  ∀ name storedType index extension,
    parseStoredImageFileName name = some (storedType, index, extension) →
      storedType ≠ sanitizeImagePathSegment imageType → files'.lookup name = files.lookup name

structure ReorderKeeps (outcomes : ReorderOutcomes) (batchId : Uuid) (files : Files)
    (imageType : String) (oldIndex newIndex : Nat) : Prop where
  ok : ∀ files', reorderStoredImages outcomes batchId files imageType oldIndex newIndex =
    (.ok (), files') → ∃ images oldPosition,
      storedImagesForType outcomes.toReadOutcomes files imageType = .ok images ∧
      images.findIdx? (·.index = oldIndex) = some oldPosition ∧
      HoldsInOrder imageType files files' (moveImage images oldPosition newIndex) ∧
      KeepsOtherTypes imageType files files'
  error : ∀ error files', reorderStoredImages outcomes batchId files imageType oldIndex newIndex =
    (.error error, files') → listed files ≤ listed files'

/-- The indices are without gaps where nothing is moved, and otherwise the first move fails or none
does. -/
def ReorderIsSafe (outcomes : ReorderOutcomes) (files : Files) (imageType : String)
    (oldIndex newIndex : Nat) : Prop :=
  ∀ images oldPosition, storedImagesForType outcomes.toReadOutcomes files imageType = .ok images →
    images.findIdx? (·.index = oldIndex) = some oldPosition → newIndex < images.length →
      if oldPosition = newIndex then images.map (·.index) = List.range images.length
      else outcomes.rename 0 = false ∨ ∀ k < 2 * images.length, outcomes.rename k = true

theorem moveImage_perm {oldPosition newIndex : Nat} (hold : oldPosition < images.length)
    (hnew : newIndex < images.length) :
    (moveImage images oldPosition newIndex).Perm images := by
  rw [moveImage, List.getElem?_eq_getElem hold]
  have hlength : newIndex ≤ (images.eraseIdx oldPosition).length := by
    rw [List.length_eraseIdx_of_lt hold]
    omega
  exact (List.perm_insertIdx _ _ hlength).trans (List.getElem_cons_eraseIdx_perm hold)

theorem moveImage_self {position : Nat} (h : position < images.length) :
    moveImage images position position = images := by
  rw [moveImage, List.getElem?_eq_getElem h]
  exact List.insertIdx_eraseIdx_getElem h

theorem ascends_of_map_index (h : images.map (·.index) = List.range images.length) :
    images.Pairwise fun a b => a.index < b.index := by
  have hpairwise : (images.map (·.index)).Pairwise (· < ·) := by
    rw [h]
    exact List.pairwise_lt_range
  exact List.pairwise_map.mp hpairwise

theorem ascends_numbered (imageType : String) (images : List StoredImageFile) :
    (numbered imageType images).Pairwise fun a b => a.index < b.index := by
  apply ascends_of_map_index
  apply List.ext_getElem
  · simp [numbered]
  · simp [numbered]

theorem holdsInOrder_self_iff
    (h : images = imagesOfType (sanitizeImagePathSegment imageType) files.entries) :
    HoldsInOrder imageType files files images ↔
      images.map (·.index) = List.range images.length := by
  constructor
  · intro horder
    have hself := congrArg (List.map Prod.fst) (horder files.entries (List.Perm.refl _))
    rw [← h, List.map_map, map_mapIdx] at hself
    refine hself.trans ?_
    apply List.ext_getElem
    · simp
    · simp
  · intro hrange entries hentries
    have hlists : Lists (sanitizeImagePathSegment imageType) files images := by
      rw [h]
      exact lists_imagesOfType _ (List.Perm.refl _)
    rw [hlists.imagesOfType_eq (ascends_of_map_index hrange) hentries]
    have hindex : ∀ i (hi : i < images.length), images[i].index = i := by
      intro i hi
      have hget := List.getElem_of_eq hrange (by simpa using hi)
      simpa using hget
    apply List.ext_getElem
    · simp
    · intro i hi _
      simp [hindex i (by simpa using hi)]

def listedOfType (targetType name : String) (node : Node) : Multiset (String × List UInt8) :=
  (listedImage name node).filter (·.1 = targetType)

theorem card_listedOfType_le (targetType name : String) (node : Node) :
    (listedOfType targetType name node).card ≤ 1 := by
  refine (Multiset.card_le_card (Multiset.filter_le _ _)).trans ?_
  unfold listedImage
  split <;> simp

theorem card_listedOfType_of_parse {name : String} {index : Nat} {extension : String}
    {bytes : List UInt8} (h : parseStoredImageFileName name = some (targetType, index, extension)) :
    (listedOfType targetType name (.file bytes)).card = 1 := by
  simp [listedOfType, listedImage, h, Multiset.filter_singleton]

theorem card_listedOfType_of_none {name : String} (h : parseStoredImageFileName name = none)
    (node : Node) : (listedOfType targetType name node).card = 0 := by
  cases node <;> simp [listedOfType, listedImage, h]

theorem card_collect_le_of_listed_le (targetType : String) (h : listed files ≤ listed files') :
    (collect (listedOfType targetType) files).card ≤
      (collect (listedOfType targetType) files').card := by
  have hle := Multiset.card_le_card (Multiset.filter_le_filter (·.1 = targetType) h)
  rwa [listed, listed, filter_collect, filter_collect] at hle

section Loops

variable {succeeds : Nat → Bool}

theorem present_stageMoves (h : Lists targetType files images) (batchId : Uuid) :
    ∀ src ∈ (stageMoves batchId images).map Prod.fst, files.lookup src ≠ none := by
  intro src hsrc
  rw [map_fst_stageMoves] at hsrc
  obtain ⟨image, himage, rfl⟩ := List.mem_map.mp hsrc
  obtain ⟨bytes, hbytes⟩ := ((h.mem_iff image).mp himage).1
  rw [hbytes]
  exact nofun

theorem present_finalMoves (h : Lists targetType files images)
    (hstage : Moved (stageMoves batchId images) files files₁) (imageType : String) :
    ∀ src ∈ (finalMoves batchId imageType images).map Prod.fst, files₁.lookup src ≠ none := by
  intro src hsrc
  rw [finalMoves, map_mapIdx] at hsrc
  obtain ⟨i, hi, rfl⟩ := List.mem_mapIdx.mp hsrc
  obtain ⟨bytes, hbytes⟩ := ((h.mem_iff _).mp (List.getElem_mem hi)).1
  have hmoved := hstage.moved _ (List.mem_mapIdx.mpr ⟨i, hi, rfl⟩)
  rw [hmoved.trans hbytes]
  exact nofun

theorem card_staged (succeeds : Nat → Bool) (h : Lists targetType files images) (batchId : Uuid) :
    ∃ made, (collect (listedOfType targetType)
        (renameAll succeeds 0 (stageMoves batchId images) files).2).card + made ≤
        (collect (listedOfType targetType) files).card ∧
      ((renameAll succeeds 0 (stageMoves batchId images) files).1 = true →
        made = (stageMoves batchId images).length) ∧
      (stageMoves batchId images ≠ [] → succeeds 0 = true → 1 ≤ made) := by
  refine card_renameAll_hidden succeeds 0 (apart_stageMoves h batchId)
    (present_stageMoves h batchId) ?_ ?_
  · intro move hmove node hnode
    obtain ⟨i, hi, rfl⟩ := List.mem_mapIdx.mp hmove
    obtain ⟨bytes, hbytes⟩ := ((h.mem_iff _).mp (List.getElem_mem hi)).1
    have hsame : some node = some (.file bytes) := hnode.symm.trans hbytes
    cases hsame
    exact (card_listedOfType_of_parse (h.parse (List.getElem_mem hi))).ge
  · intro move hmove node
    obtain ⟨i, hi, rfl⟩ := List.mem_mapIdx.mp hmove
    exact card_listedOfType_of_none
      (parse_reorderFileName batchId i (h.notMem_extension (List.getElem_mem hi))) node

theorem hides_of_failed (h : Lists targetType files images) (hne : images ≠ [])
    (hfirst : succeeds 0 = true) (hstage : renameAll succeeds 0 (stageMoves batchId images) files =
      (false, files₁)) : ¬ listed files ≤ listed files₁ := by
  intro hle
  obtain ⟨made, hcard, -, hmade⟩ := card_staged succeeds h batchId
  rw [hstage] at hcard
  have hmade := hmade (by simpa [stageMoves] using hne) hfirst
  have hkept := card_collect_le_of_listed_le targetType hle
  dsimp only at hcard
  omega

theorem hides_of_failed_final (h : Lists targetType files images)
    (hstage : renameAll succeeds 0 (stageMoves batchId images) files = (true, files₁))
    {count : Nat} (hfinal : renameAll succeeds count (finalMoves batchId imageType images) files₁ =
      (false, files₂)) : ¬ listed files ≤ listed files₂ := by
  intro hle
  obtain ⟨made, hcard, hall, -⟩ := card_staged succeeds h batchId
  rw [hstage] at hcard hall
  have hall := hall rfl
  obtain ⟨shown, hshown, hcard'⟩ := card_renameAll_shown
    (fun _ _ node => card_listedOfType_le targetType _ node) (congrArg Prod.fst hfinal)
  rw [hfinal] at hcard'
  have hkept := card_collect_le_of_listed_le targetType hle
  simp only [stageMoves, finalMoves, List.length_mapIdx] at hall hshown hcard hcard'
  omega

theorem holdsInOrder_of_done (h : Lists (sanitizeImagePathSegment imageType) files images)
    (hfits : images.length ≤ usizeMax) (hstage : Moved (stageMoves batchId images) files files₁)
    (hfinal : Moved (finalMoves batchId imageType images) files₁ files₂) :
    HoldsInOrder imageType files files₂ images ∧ KeepsOtherTypes imageType files files₂ := by
  have hnumbered := lists_numbered h hfits hstage hfinal
  constructor
  · intro entries hentries
    rw [hnumbered.imagesOfType_eq (ascends_numbered imageType images) hentries, numbered, map_mapIdx]
    apply List.ext_getElem
    · simp
    · intro i hi _
      rw [List.getElem_mapIdx, List.getElem_mapIdx,
        lookup_finalName hstage hfinal (by simpa using hi)]
  · intro name storedType index extension hparse htype
    have hother : ∀ {images' : List StoredImageFile} {files' : Files},
        Lists (sanitizeImagePathSegment imageType) files' images' →
          name ∉ images'.map (·.path) := by
      intro images' files' hlists hmem
      obtain ⟨image, himage, rfl⟩ := List.mem_map.mp hmem
      have hsame := (hlists.parse himage).symm.trans hparse
      cases hsame
      exact htype rfl
    exact (lookup_of_parse h hstage hfinal (by rw [hparse]; exact nofun) (hother hnumbered)).2
      (hother h)

end Loops

variable {outcomes : ReorderOutcomes} {oldIndex newIndex : Nat}

theorem reorderKeeps_of_refused {error : ImageError}
    (h : reorderStoredImages outcomes batchId files imageType oldIndex newIndex =
      (.error error, files)) :
    ReorderKeeps outcomes batchId files imageType oldIndex newIndex where
  ok := by
    intro files' hok
    rw [h] at hok
    cases hok
  error := by
    intro error files' herror
    rw [h] at herror
    cases herror
    exact le_rfl

section Moves

variable {oldPosition : Nat}
  (hread : storedImagesForType outcomes.toReadOutcomes files imageType = .ok images)
  (hfind : images.findIdx? (·.index = oldIndex) = some oldPosition)
  (hnew : newIndex < images.length) (hne : oldPosition ≠ newIndex)

include hread hfind hnew hne

theorem reorderStoredImages_of_moves (batchId : Uuid) :
    reorderStoredImages outcomes batchId files imageType oldIndex newIndex =
      match renameAll outcomes.rename 0
        (stageMoves batchId (moveImage images oldPosition newIndex)) files with
      | (false, files) => (.error .io, files)
      | (true, files) =>
        match renameAll outcomes.rename (moveImage images oldPosition newIndex).length
          (finalMoves batchId imageType (moveImage images oldPosition newIndex)) files with
        | (false, files) => (.error .io, files)
        | (true, files) => (.ok (), files) := by
  rw [reorderStoredImages, hread]
  simp only [hfind]
  rw [if_neg (by omega), if_neg hne]

theorem reorderKeeps_iff_of_moves (hfits : images.length ≤ usizeMax) :
    ReorderKeeps outcomes batchId files imageType oldIndex newIndex ↔
      outcomes.rename 0 = false ∨ ∀ k < 2 * images.length, outcomes.rename k = true := by
  have hold : oldPosition < images.length := by
    obtain ⟨hlt, -⟩ := List.findIdx?_eq_some_iff_getElem.mp hfind
    exact hlt
  have hperm := moveImage_perm hold hnew
  have hreorder := reorderStoredImages_of_moves hread hfind hnew hne batchId
  have hlists : Lists (sanitizeImagePathSegment imageType) files
      (moveImage images oldPosition newIndex) := by
    refine Lists.perm ?_ hperm
    rw [storedImagesForType_eq_ok hread]
    exact lists_imagesOfType _ (List.Perm.refl _)
  have hlength := hperm.length_eq
  have hnonempty : moveImage images oldPosition newIndex ≠ [] := by
    rw [← List.length_pos_iff]
    omega
  have hspec := renameAll_spec outcomes.rename 0 (apart_stageMoves hlists batchId)
    (present_stageMoves hlists batchId)
  generalize hmove : moveImage images oldPosition newIndex = moved at *
  have hlast := fun files₁ (hstage : Moved (stageMoves batchId moved) files files₁) =>
    renameAll_spec outcomes.rename moved.length
      (apart_finalMoves hlists (by omega) batchId imageType) (present_finalMoves hlists hstage imageType)
  rcases hstage : renameAll outcomes.rename 0 (stageMoves batchId moved) files with ⟨staged, files₁⟩
  rw [hstage] at hreorder hspec
  rcases hfinal : renameAll outcomes.rename moved.length (finalMoves batchId imageType moved)
    files₁ with ⟨done, files₂⟩
  constructor
  · intro hkeeps
    rw [or_iff_not_imp_left, Bool.not_eq_false]
    intro hfirst
    cases staged with
    | false =>
      exact absurd (hkeeps.error _ _ hreorder) (hides_of_failed hlists hnonempty hfirst hstage)
    | true =>
      have hlast := hlast files₁ (hspec.2 rfl)
      rw [hfinal] at hlast
      simp only [hfinal] at hreorder
      cases done with
      | false =>
        exact absurd (hkeeps.error _ _ hreorder) (hides_of_failed_final hlists hstage hfinal)
      | true =>
        intro k hk
        have hstaged := hspec.1.mp rfl
        have hdone := hlast.1.mp rfl
        simp only [stageMoves, finalMoves, List.length_mapIdx, Nat.zero_add] at hstaged hdone
        by_cases hlt : k < moved.length
        · exact hstaged k hlt
        · have hk := hdone (k - moved.length) (by omega)
          rwa [Nat.add_sub_cancel' (by omega)] at hk
  · rintro (hfirst | hall)
    · have hfailed := renameAll_of_failed hfirst
        (by simpa [stageMoves] using hnonempty : stageMoves batchId moved ≠ []) files
      rw [hfailed] at hstage
      cases hstage
      exact reorderKeeps_of_refused hreorder
    · have hstaged : staged = true := by
        refine hspec.1.mpr fun i hi => hall _ ?_
        simp only [stageMoves, List.length_mapIdx] at hi
        omega
      subst hstaged
      have hmoved := hspec.2 rfl
      have hlast := hlast files₁ hmoved
      rw [hfinal] at hlast
      have hdone : done = true := by
        refine hlast.1.mpr fun i hi => hall _ ?_
        simp only [finalMoves, List.length_mapIdx] at hi
        omega
      subst hdone
      simp only [hfinal] at hreorder
      constructor
      case ok =>
        intro files' hok
        rw [hreorder] at hok
        cases hok
        refine ⟨images, oldPosition, hread, hfind, ?_⟩
        rw [hmove]
        exact holdsInOrder_of_done hlists (by omega) hmoved (hlast.2 rfl)
      case error =>
        intro error files' herror
        rw [hreorder] at herror
        cases herror

end Moves

structure ImageDirectory where
  files : Files
  fits : files.size ≤ usizeMax

theorem length_images_le (directory : ImageDirectory) {outcomes : ReadOutcomes}
    (h : storedImagesForType outcomes directory.files imageType = .ok images) :
    images.length ≤ usizeMax := by
  have hsub := (map_path_sublist (sanitizeImagePathSegment imageType)
    directory.files.entries).length_le
  have hsorted := (sortBy_perm (fun a b : StoredImageFile => compare a.index b.index)
    (directory.files.entries.filterMap (storedImageFile (sanitizeImagePathSegment imageType)))).length_eq
  have hfits := directory.fits
  rw [List.length_map, List.length_map] at hsub
  rw [HashMap.size, AList.keys, List.keys, List.length_map] at hfits
  rw [storedImagesForType_eq_ok h, imagesOfType, sortByIndex, hsorted]
  omega

theorem reorderKeeps_iff_of_same
    (hread : storedImagesForType outcomes.toReadOutcomes files imageType = .ok images)
    (hfind : images.findIdx? (·.index = oldIndex) = some newIndex) (hnew : newIndex < images.length) :
    ReorderKeeps outcomes batchId files imageType oldIndex newIndex ↔
      images.map (·.index) = List.range images.length := by
  have hreorder : reorderStoredImages outcomes batchId files imageType oldIndex newIndex =
      (.ok (), files) := by
    rw [reorderStoredImages, hread]
    simp only [hfind]
    rw [if_neg (by omega), if_pos trivial]
  rw [← holdsInOrder_self_iff (storedImagesForType_eq_ok hread)]
  constructor
  · intro h
    obtain ⟨images', position, hread', hfind', horder, -⟩ := h.ok files hreorder
    rw [hread] at hread'
    cases hread'
    rw [hfind] at hfind'
    cases hfind'
    rwa [moveImage_self hnew] at horder
  · intro h
    constructor
    case ok =>
      intro files' hok
      rw [hreorder] at hok
      cases hok
      refine ⟨images, newIndex, hread, hfind, ?_, fun _ _ _ _ _ _ => rfl⟩
      rwa [moveImage_self hnew]
    case error =>
      intro error files' herror
      rw [hreorder] at herror
      cases herror

theorem reorderIsSafe_iff
    (hread : storedImagesForType outcomes.toReadOutcomes files imageType = .ok images) :
    ReorderIsSafe outcomes files imageType oldIndex newIndex ↔
      ∀ oldPosition, images.findIdx? (·.index = oldIndex) = some oldPosition →
        newIndex < images.length →
          if oldPosition = newIndex then images.map (·.index) = List.range images.length
          else outcomes.rename 0 = false ∨ ∀ k < 2 * images.length, outcomes.rename k = true := by
  constructor
  · intro h oldPosition
    exact h images oldPosition hread
  · intro h images' oldPosition hok
    rw [hread] at hok
    cases hok
    exact h oldPosition

theorem reorderKeeps_iff (outcomes : ReorderOutcomes) (batchId : Uuid) (directory : ImageDirectory)
    (imageType : String) (oldIndex newIndex : Nat) :
    ReorderKeeps outcomes batchId directory.files imageType oldIndex newIndex ↔
      ReorderIsSafe outcomes directory.files imageType oldIndex newIndex := by
  cases hread : storedImagesForType outcomes.toReadOutcomes directory.files imageType with
  | error error =>
    have hrefused : reorderStoredImages outcomes batchId directory.files imageType oldIndex
        newIndex = (.error error, directory.files) := by
      rw [reorderStoredImages, hread]
    refine iff_of_true (reorderKeeps_of_refused hrefused) ?_
    intro images oldPosition hok
    rw [hread] at hok
    cases hok
  | ok images =>
    rw [reorderIsSafe_iff hread]
    cases hfind : images.findIdx? (·.index = oldIndex) with
    | none =>
      have hrefused : reorderStoredImages outcomes batchId directory.files imageType oldIndex
          newIndex = (.error (.answered (.notFound "Image not found")), directory.files) := by
        rw [reorderStoredImages, hread]
        simp only [hfind]
      exact iff_of_true (reorderKeeps_of_refused hrefused) nofun
    | some oldPosition =>
      by_cases hnew : newIndex < images.length
      · by_cases hsame : oldPosition = newIndex
        · subst hsame
          rw [reorderKeeps_iff_of_same hread hfind hnew]
          simp [hnew]
        · rw [reorderKeeps_iff_of_moves hread hfind hnew hsame (length_images_le directory hread)]
          simp [hnew, hsame]
      · have hrefused : reorderStoredImages outcomes batchId directory.files imageType oldIndex
            newIndex =
              (.error (.answered (.badRequest "New image index is out of range")),
                directory.files) := by
          rw [reorderStoredImages, hread]
          simp only [hfind]
          rw [if_pos (by omega)]
        exact iff_of_true (reorderKeeps_of_refused hrefused) fun _ _ hlt => absurd hlt hnew

/-! Storing. -/

def StoreKeeps (outcomes : StoreOutcomes) (files : Files) (imageType : String) (imageIndex : Nat)
    (bytes : List UInt8) : Prop :=
  ∀ error files', storeImageBytes outcomes files imageType imageIndex bytes =
    (.error error, files') → listed files ≤ listed files'

def leftImage (outcome : WriteOutcome) (imageType : String) (bytes : List UInt8) :
    Multiset (String × List UInt8) :=
  match outcome with
  | .failed (some written) => {(sanitizeImagePathSegment imageType, bytes.take written)}
  | _ => 0

/-- The old image is not gone when storing fails: all is done, or no image was removed before the
failure, or the failed write left just the image that was removed. -/
def StoreIsSafe (outcomes : StoreOutcomes) (files : Files) (imageType : String) (imageIndex : Nat)
    (bytes : List UInt8) : Prop :=
  let names := storedImageFileNames imageType imageIndex
  let removed := removedNames outcomes.removeFile 0 names
  outcomes.createDirAll = true →
    if removed = names then
      outcomes.write = .done ∨
        held listedImage removed files ≤ leftImage outcomes.write imageType bytes
    else held listedImage removed files = 0

theorem extension_injective {a b : ImageFormat} (h : extension a = extension b) : a = b := by
  cases a <;> cases b <;> first | rfl | exact absurd h (by decide)

theorem notMem_extension (format : ImageFormat) : '.' ∉ (extension format).toList := by
  cases format <;> decide

theorem mem_imageFormats (format : ImageFormat) : format ∈ imageFormats := by
  cases format <;> decide

theorem nodup_storedImageFileNames (imageType : String) {imageIndex : Nat}
    (hindex : imageIndex ≤ usizeMax) : (storedImageFileNames imageType imageIndex).Nodup := by
  refine List.Nodup.map_on ?_ (by decide)
  intro a _ b _ heq
  have hparse := congrArg parseStoredImageFileName heq
  rw [parse_storedImageFileName imageType hindex (notMem_extension a),
    parse_storedImageFileName imageType hindex (notMem_extension b)] at hparse
  refine extension_injective ?_
  simpa using hparse

theorem fits_toNat (imageIndex : UInt64) : imageIndex.toNat ≤ usizeMax :=
  Nat.le_pred_of_lt imageIndex.toNat_lt

theorem storeKeeps_iff_of_failed {outcomes : StoreOutcomes} {imageIndex : Nat} {bytes : List UInt8}
    {error : ImageError} {held left : Multiset (String × List UInt8)}
    (hstore : storeImageBytes outcomes files imageType imageIndex bytes = (.error error, files₂))
    (hbefore : listed files = held + listed files₁) (hafter : listed files₂ = left + listed files₁) :
    StoreKeeps outcomes files imageType imageIndex bytes ↔ held ≤ left := by
  have hcancel : listed files ≤ listed files₂ ↔ held ≤ left := by
    rw [hbefore, hafter, add_le_add_iff_right]
  rw [← hcancel]
  constructor
  · intro h
    exact h error files₂ hstore
  · intro hle error' files' heq
    rw [hstore] at heq
    cases heq
    exact hle

theorem storeKeeps_iff (outcomes : StoreOutcomes) (files : Files) (imageType : String)
    (imageIndex : UInt64) (bytes : List UInt8) :
    StoreKeeps outcomes files imageType imageIndex.toNat bytes ↔
      StoreIsSafe outcomes files imageType imageIndex.toNat bytes := by
  have hindex := fits_toNat imageIndex
  generalize imageIndex.toNat = imageIndex at *
  obtain ⟨hok, hbefore, hgone, -⟩ := removeAll_spec listedImage outcomes.removeFile 0 files
    (nodup_storedImageFileNames imageType hindex)
  rcases hremove : removeAll outcomes.removeFile 0 (storedImageFileNames imageType imageIndex) files
    with ⟨done, files₁⟩
  rw [hremove] at hok hbefore hgone
  cases hcreate : outcomes.createDirAll with
  | false =>
    have hstore : storeImageBytes outcomes files imageType imageIndex bytes =
        (.error .io, files) := by
      simp [storeImageBytes, hcreate]
    have hsame : listed files = 0 + listed files := (zero_add _).symm
    rw [storeKeeps_iff_of_failed hstore hsame hsame]
    simp [StoreIsSafe, hcreate]
  | true =>
    have hstore : storeImageBytes outcomes files imageType imageIndex bytes =
        if done then write outcomes.write
          (storedImageFileName imageType imageIndex (extension (imageFormatFromBytes bytes)))
          bytes files₁
        else (.error .io, files₁) := by
      rw [storeImageBytes, hcreate, if_pos rfl, deleteStoredImageFiles, hremove]
      cases done <;> rfl
    cases done with
    | false =>
      have hnames : removedNames outcomes.removeFile 0 (storedImageFileNames imageType imageIndex) ≠
          storedImageFileNames imageType imageIndex := by
        intro heq
        cases hok.mpr heq
      rw [storeKeeps_iff_of_failed hstore hbefore (zero_add _).symm]
      simp [StoreIsSafe, hcreate, hnames, Multiset.le_zero]
    | true =>
      have hnames := hok.mp rfl
      rw [if_pos rfl] at hstore
      cases hwrite : outcomes.write with
      | done =>
        rw [hwrite, write] at hstore
        refine iff_of_true ?_ ?_
        · intro error files' heq
          rw [hstore] at heq
          cases heq
        · simp [StoreIsSafe, hnames, hwrite]
      | failed written =>
        cases written with
        | none =>
          rw [hwrite, write] at hstore
          rw [storeKeeps_iff_of_failed hstore hbefore (zero_add _).symm]
          simp [StoreIsSafe, hcreate, hnames, hwrite, leftImage]
        | some written =>
          rw [hwrite, write] at hstore
          have hafter : listed (files₁.insert
              (storedImageFileName imageType imageIndex (extension (imageFormatFromBytes bytes)))
              (.file (bytes.take written))) =
              {(sanitizeImagePathSegment imageType, bytes.take written)} + listed files₁ := by
            have habsent :=
              hgone rfl _ (List.mem_map_of_mem (mem_imageFormats (imageFormatFromBytes bytes)))
            rw [listed, collect_insert, erase_eq_self habsent, listed, listedImage_of_parse
              (parse_storedImageFileName imageType hindex (notMem_extension _))]
          rw [storeKeeps_iff_of_failed hstore hbefore hafter]
          simp [StoreIsSafe, hcreate, hnames, hwrite, leftImage]

/-- Images are kept just where no step fails after one that hid or removed an image, and where a
reordering that has nothing to move finds the images without gaps. -/
theorem stored_images_are_kept_iff (directory : ImageDirectory) (imageType : String) :
    (∀ outcomes batchId oldIndex newIndex,
      ReorderKeeps outcomes batchId directory.files imageType oldIndex newIndex ↔
        ReorderIsSafe outcomes directory.files imageType oldIndex newIndex) ∧
      ∀ outcomes (imageIndex : UInt64) bytes,
        StoreKeeps outcomes directory.files imageType imageIndex.toNat bytes ↔
          StoreIsSafe outcomes directory.files imageType imageIndex.toNat bytes :=
  ⟨fun outcomes batchId oldIndex newIndex =>
      reorderKeeps_iff outcomes batchId directory imageType oldIndex newIndex,
    fun outcomes imageIndex bytes =>
      storeKeeps_iff outcomes directory.files imageType imageIndex bytes⟩

def imagesAt (indices : List Nat) : Files :=
  indices.foldr (fun index files =>
    files.insert (storedImageFileName "Primary" index "png") (.file [index.toUInt8])) ∅

def renamesBefore (failing : Nat) : ReorderOutcomes :=
  ⟨⟨true, fun _ => true, fun _ => true⟩, fun count => count < failing⟩

def threeImages : ImageDirectory := ⟨imagesAt [0, 1, 2], by decide⟩

theorem threeImages_reordered :
    ReorderKeeps (renamesBefore 6) 0 threeImages.files "Primary" 2 0 := by
  refine ((stored_images_are_kept_iff threeImages "Primary").1 (renamesBefore 6) 0 2 0).mpr ?_
  intro images oldPosition hread hfind hlt
  obtain rfl := Except.ok.inj (hread.symm.trans (by rfl : storedImagesForType
    (renamesBefore 6).toReadOutcomes threeImages.files "Primary" =
      .ok [⟨0, "png", "primary_0.png"⟩, ⟨1, "png", "primary_1.png"⟩, ⟨2, "png", "primary_2.png"⟩]))
  obtain rfl := Option.some.inj hfind
  exact .inr fun k hk => decide_eq_true hk

/-- A gap stays where the image is in its place, a move that fails leaves the images before it
hidden, and a write that fails costs the image that it was to replace. -/
theorem stored_images_are_lost :
    ¬ ReorderKeeps (renamesBefore 2) 0 (imagesAt [3]) "Primary" 3 0 ∧
      ¬ ReorderKeeps (renamesBefore 1) 0 (imagesAt [0, 1]) "Primary" 0 1 ∧
      ¬ StoreKeeps ⟨true, fun _ => true, .failed none⟩ (imagesAt [0]) "Primary" 0 [2] := by
  refine ⟨?_, ?_, ?_⟩
  · have hread : storedImagesForType (renamesBefore 2).toReadOutcomes (imagesAt [3]) "Primary" =
        .ok [⟨3, "png", "primary_3.png"⟩] := by rfl
    rw [reorderKeeps_iff_of_same hread (by rfl) (by decide)]
    decide
  · intro h
    have hle := h.error .io _ rfl
    revert hle
    decide
  · intro h
    have hle := h .io _ rfl
    revert hle
    decide

end Jellyrin.StoredImages
