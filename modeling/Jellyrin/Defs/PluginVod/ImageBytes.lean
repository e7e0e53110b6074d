import Jellyrin.Defs.Data.Scan
import Mathlib.Algebra.Group.Nat.Defs

/-! Whether the bytes of an artwork are one whole image.  Offsets stay far below the largest
`usize`, so that sums of them are exact. -/

namespace Jellyrin.PluginVod

open Scan

def fromBeBytes (bytes : List UInt8) : Nat := bytes.foldl (fun n byte => n * 256 + byte.toNat) 0

def fromLeBytes (bytes : List UInt8) : Nat := fromBeBytes bytes.reverse

def isAsciiAlphabetic (byte : UInt8) : Bool :=
  (65 ≤ byte && byte ≤ 90) || (97 ≤ byte && byte ≤ 122)

/-! PNG. -/

def pngSignature : List UInt8 := [137, 80, 78, 71, 13, 10, 26, 10]

def ihdr : List UInt8 := [73, 72, 68, 82]

def idat : List UInt8 := [73, 68, 65, 84]

def iend : List UInt8 := [73, 69, 78, 68]

structure PngState where
  offset : Nat
  chunkIndex : Nat
  seenIdat : Bool
  idatFinished : Bool

def validDepth (color depth : UInt8) : Bool :=
  match color with
  | 0 => depth ∈ [1, 2, 4, 8, 16]
  | 3 => depth ∈ [1, 2, 4, 8]
  | 2 | 4 | 6 => depth ∈ [8, 16]
  | _ => false

def pngHeader (chunkType : List UInt8) (length : Nat) (chunkData : List UInt8) : Scan Unit := do
  require (chunkType = ihdr ∧ length = 13)
  let color ← indexOf chunkData 9
  let depth ← indexOf chunkData 8
  require (validDepth color depth)
  require ((← indexOf chunkData 10) = 0)
  require ((← indexOf chunkData 11) = 0)
  require ((← indexOf chunkData 12) ∈ [0, 1])

def pngStep (state : PngState) : Scan (PngState ⊕ Empty) := do
  within (state.offset + 1)
  let typeEnd := state.offset + 8
  within typeEnd
  let length := fromBeBytes (← Scan.slice state.offset (state.offset + 4))
  let dataEnd := typeEnd + length
  let chunkEnd := dataEnd + 4
  within chunkEnd
  let chunkType ← Scan.slice (state.offset + 4) typeEnd
  let chunkData ← Scan.slice typeEnd dataEnd
  require (chunkType.all isAsciiAlphabetic)
  (if state.chunkIndex = 0 then pngHeader chunkType length chunkData
    else require (chunkType ≠ ihdr))
  require (chunkType = idat →
    state.chunkIndex ≠ 0 ∧ state.idatFinished = false ∧ chunkData ≠ [])
  let seenIdat := decide (chunkType = idat) || state.seenIdat
  let idatFinished :=
    if chunkType = idat then state.idatFinished else state.seenIdat || state.idatFinished
  if chunkType = iend then finish (length == 0 && seenIdat) chunkEnd
  else pure (.inl ⟨chunkEnd, state.chunkIndex + 1, seenIdat, idatFinished⟩)

theorem safe_pngHeader {bytes chunkType chunkData : List UInt8} {length : Nat} {Q : Unit → Prop}
    (hlength : chunkData.length = length) (h : Q ()) :
    Safe bytes (pngHeader chunkType length chunkData) Q := by
  simp only [pngHeader, safe_bind, safe_require, safe_indexOf]
  rintro ⟨-, rfl⟩
  simp [hlength, h]

theorem advances_pngStep (bytes : List UInt8) (state : PngState) :
    Safe bytes (pngStep state) fun next => ∀ later, next = .inl later →
      state.offset < later.offset ∧ later.offset ≤ bytes.length := by
  simp only [pngStep, safe_bind, safe_within]
  intro _ _
  refine Safe.slice (by omega) fun size _ hend => ?_
  refine Safe.slice (by omega) fun chunkType _ => ?_
  refine Safe.slice (by omega) fun chunkData hdata => ?_
  refine safe_require.mpr fun _ => Safe.imp (P := fun _ => True) ?_ fun _ _ => ?_
  · split
    · exact safe_pngHeader (by omega) trivial
    · exact safe_require.mpr fun _ => trivial
  · refine safe_require.mpr fun _ => ?_
    split
    · trivial
    · rintro later ⟨⟩
      exact ⟨by simp only; omega, hend⟩

def pngLoop : ScanLoop PngState Empty := ⟨pngStep, PngState.offset, advances_pngStep⟩

def completePluginVodPng : List UInt8 → Option Bool :=
  answer do
    startsWithAny [pngSignature]
    pngLoop.scan ⟨pngSignature.length, 0, false, false⟩

/-! JPEG. -/

structure EntropyState where
  offset : Nat
  seenEntropy : Bool

def entropyStep (state : EntropyState) : Scan (EntropyState ⊕ UInt8 × EntropyState) := do
  let byte ← get state.offset
  if byte ≠ 0xff then pure (.inl ⟨state.offset + 1, true⟩)
  else do
    let (marker, offset) ← getAfter (· == 0xff) (state.offset + 1)
    if marker = 0x00 then pure (.inl ⟨offset, true⟩)
    else if 0xd0 ≤ marker ∧ marker ≤ 0xd7 then pure (.inl ⟨offset, state.seenEntropy⟩)
    else pure (.inr (marker, ⟨offset, state.seenEntropy⟩))

theorem advances_entropyStep (bytes : List UInt8) (state : EntropyState) :
    Safe bytes (entropyStep state) fun next =>
      state.offset < (next.elim id Prod.snd).offset ∧
        (next.elim id Prod.snd).offset ≤ bytes.length := by
  simp only [entropyStep, safe_bind, safe_get]
  intro hbyte
  split
  · exact ⟨Nat.lt_succ_self _, hbyte⟩
  · refine safe_bind.mpr (Safe.getAfter fun marker offset hlt hle => ?_)
    simp only [safe_ite, safe_pure, Sum.elim_inl, Sum.elim_inr, id]
    exact ⟨fun _ => ⟨by omega, hle⟩, fun _ => ⟨fun _ => ⟨by omega, hle⟩, fun _ => ⟨by omega, hle⟩⟩⟩

def entropyLoop : ScanLoop EntropyState (UInt8 × EntropyState) where
  step := entropyStep
  offset := EntropyState.offset
  advances := fun bytes state => (advances_entropyStep bytes state).imp fun next h later hlater => by
    rw [hlater] at h
    exact h

structure JpegState where
  offset : Nat
  inScan : Bool
  seenSof : Bool
  seenSos : Bool
  seenEntropy : Bool
  seenQuantizationTable : Bool
  seenCodingTable : Bool

def sofMarkers : List UInt8 :=
  [0xc0, 0xc1, 0xc2, 0xc3, 0xc5, 0xc6, 0xc7, 0xc9, 0xca, 0xcb, 0xcd, 0xce, 0xcf]

def nextMarker (state : JpegState) : Scan (UInt8 × EntropyState) :=
  if state.inScan then entropyLoop.scan ⟨state.offset, state.seenEntropy⟩
  else do
    require ((← get state.offset) = 0xff)
    let (marker, offset) ← getAfter (· == 0xff) state.offset
    pure (marker, ⟨offset, state.seenEntropy⟩)

def jpegSegment (marker : UInt8) (segment : List UInt8) (state : JpegState) : Scan JpegState :=
  if marker ∈ sofMarkers then do
    require (state.seenSof = false ∧ 6 ≤ segment.length)
    let components := (← indexOf segment 5).toNat
    require (components ≠ 0 ∧ segment.length = 6 + components * 3)
    require ((← indexOf segment 0) ∈ [8, 12, 16])
    pure { state with seenSof := true }
  else if marker = 0xdb then pure { state with seenQuantizationTable := !segment.isEmpty }
  else if marker ∈ [0xc4, 0xcc] then pure { state with seenCodingTable := !segment.isEmpty }
  else if marker = 0xda then do
    require (state.seenSof ∧ state.seenQuantizationTable ∧ state.seenCodingTable ∧ segment ≠ [])
    let components := (← indexOf segment 0).toNat
    require (components ≠ 0 ∧ segment.length = 4 + components * 2)
    pure { state with seenSos := true, inScan := true }
  else pure state

def jpegStep (state : JpegState) : Scan (JpegState ⊕ Empty) := do
  let (marker, entropy) ← nextMarker state
  let offset := entropy.offset
  if marker = 0xd9 then finish (state.seenSof && state.seenSos && entropy.seenEntropy) offset
  else do
    require (¬(marker = 0x00 ∨ marker = 0x01 ∨ (0xd0 ≤ marker ∧ marker ≤ 0xd8)))
    let lengthEnd := offset + 2
    within lengthEnd
    let segmentLength := fromBeBytes (← Scan.slice offset lengthEnd)
    require (2 ≤ segmentLength)
    let segmentEnd := offset + segmentLength
    within segmentEnd
    let segment ← Scan.slice lengthEnd segmentEnd
    let next ← jpegSegment marker segment
      { state with offset := segmentEnd, inScan := false, seenEntropy := entropy.seenEntropy }
    pure (.inl next)

theorem safe_nextMarker (bytes : List UInt8) (state : JpegState) :
    Safe bytes (nextMarker state) fun next =>
      state.offset < next.2.offset ∧ next.2.offset ≤ bytes.length := by
  rw [nextMarker]
  split
  · refine entropyLoop.safe_scan (I := fun entropy => state.offset ≤ entropy.offset)
      (fun entropy hle => (advances_entropyStep bytes entropy).imp fun next hnext => ?_)
      (Nat.le_refl _)
    cases next with
    | inl later => exact Nat.le_trans hle (Nat.le_of_lt hnext.1)
    | inr found => exact ⟨Nat.lt_of_le_of_lt hle hnext.1, hnext.2⟩
  · simp only [safe_bind, safe_get, safe_require]
    intro _ _
    exact Safe.getAfter fun marker offset hlt hle => ⟨hlt, hle⟩

theorem safe_jpegSegment {bytes segment : List UInt8} {marker : UInt8} {state : JpegState}
    {stop : Nat} (h : state.offset = stop) :
    Safe bytes (jpegSegment marker segment state) fun next => next.offset = stop := by
  simp only [jpegSegment, safe_ite, safe_bind, safe_require, safe_indexOf, safe_pure, h,
    implies_true, and_true]
  refine ⟨fun _ hsof => ⟨by omega, fun _ => ⟨by omega, trivial⟩⟩,
    fun _ => ⟨trivial, fun _ => ⟨trivial, fun _ _ hsos => ?_⟩⟩⟩
  exact ⟨List.length_pos_of_ne_nil hsos.2.2.2, trivial⟩

theorem advances_jpegStep (bytes : List UInt8) (state : JpegState) :
    Safe bytes (jpegStep state) fun next => ∀ later, next = .inl later →
      state.offset < later.offset ∧ later.offset ≤ bytes.length := by
  rw [jpegStep, safe_bind]
  refine (safe_nextMarker bytes state).imp ?_
  rintro ⟨marker, entropy⟩ ⟨hlt, hle⟩
  simp only at hlt hle ⊢
  split
  · trivial
  · simp only [safe_bind, safe_require, safe_within]
    intro _ hlength
    refine Safe.slice (by omega) fun size _ hsize hend => ?_
    refine Safe.slice (by omega) fun segment _ => ?_
    refine (safe_jpegSegment rfl).imp fun next hnext => ?_
    rintro later ⟨⟩
    simp only at hnext
    omega

def jpegLoop : ScanLoop JpegState Empty := ⟨jpegStep, JpegState.offset, advances_jpegStep⟩

def completePluginVodJpeg : List UInt8 → Option Bool :=
  answer do
    within 4
    startsWithAny [[0xff, 0xd8]]
    jpegLoop.scan ⟨2, false, false, false, false, false, false⟩

/-! GIF. -/

def gif87a : List UInt8 := [71, 73, 70, 56, 55, 97]

def gif89a : List UInt8 := [71, 73, 70, 56, 57, 97]

def subBlockStep (offset : Nat) : Scan (Nat ⊕ Nat) := do
  let length := (← get offset).toNat
  if length = 0 then pure (.inr (offset + 1))
  else do
    within (offset + 1 + length)
    pure (.inl (offset + 1 + length))

def colorTableEnd (packed : UInt8) (offset : Nat) : Scan Nat :=
  if packed &&& 0x80 ≠ 0 then do
    let next := offset + 2 ^ ((packed &&& 0x07).toNat + 1) * 3
    within next
    pure next
  else pure offset

theorem advances_subBlockStep (bytes : List UInt8) (offset : Nat) :
    Safe bytes (subBlockStep offset) fun next =>
      offset < next.elim id id ∧ next.elim id id ≤ bytes.length := by
  simp only [subBlockStep, safe_bind, safe_get]
  intro hlength
  split
  · exact ⟨Nat.lt_succ_self _, hlength⟩
  · refine safe_bind.mpr (safe_within.mpr fun hend => ⟨?_, hend⟩)
    simp only [Sum.elim_inl, id]
    omega

def subBlocks : ScanLoop Nat Nat where
  step := subBlockStep
  offset := id
  advances := fun bytes offset => (advances_subBlockStep bytes offset).imp fun next h later hlater => by
    rw [hlater] at h
    exact h

/-- Where the sub-blocks end.  That they do not is the rejection that all callers make of it. -/
def pluginVodGifSubBlocksEnd (offset : Nat) : Scan Nat := subBlocks.scan offset

theorem safe_pluginVodGifSubBlocksEnd (bytes : List UInt8) (offset : Nat) :
    Safe bytes (pluginVodGifSubBlocksEnd offset) fun next => offset < next ∧ next ≤ bytes.length := by
  refine subBlocks.safe_scan (I := fun start => offset ≤ start)
    (fun start hle => (advances_subBlockStep bytes start).imp fun next hnext => ?_) (Nat.le_refl _)
  cases next with
  | inl later => exact Nat.le_trans hle (Nat.le_of_lt hnext.1)
  | inr found => exact ⟨Nat.lt_of_le_of_lt hle hnext.1, hnext.2⟩

theorem safe_colorTableEnd {bytes : List UInt8} {packed : UInt8} {offset : Nat}
    (h : offset ≤ bytes.length) :
    Safe bytes (colorTableEnd packed offset) fun next => offset ≤ next ∧ next ≤ bytes.length := by
  simp only [colorTableEnd, safe_ite, safe_bind, safe_within, safe_pure]
  exact ⟨fun _ hend => ⟨Nat.le_add_right _ _, hend⟩, fun _ => ⟨Nat.le_refl _, h⟩⟩

structure GifState where
  offset : Nat
  seenImage : Bool

def gifStep (state : GifState) : Scan (GifState ⊕ Empty) := do
  let introducer ← get state.offset
  let offset := state.offset + 1
  if introducer = 0x3b then finish state.seenImage offset
  else if introducer = 0x21 then do
    let _ ← get offset
    let next ← pluginVodGifSubBlocksEnd (offset + 1)
    pure (.inl { state with offset := next })
  else if introducer = 0x2c then do
    let descriptorEnd := offset + 9
    within descriptorEnd
    let imagePacked ← index (offset + 8)
    let offset ← colorTableEnd imagePacked descriptorEnd
    let minimumCodeSize ← get offset
    require (2 ≤ minimumCodeSize ∧ minimumCodeSize ≤ 8)
    let next ← pluginVodGifSubBlocksEnd (offset + 1)
    pure (.inl ⟨next, true⟩)
  else reject

theorem advances_gifStep (bytes : List UInt8) (state : GifState) :
    Safe bytes (gifStep state) fun next => ∀ later, next = .inl later →
      state.offset < later.offset ∧ later.offset ≤ bytes.length := by
  simp only [gifStep, safe_ite, safe_bind, safe_get, safe_within, safe_index, safe_require,
    safe_pure, safe_finish, safe_reject]
  refine fun _ => ⟨fun _ => trivial, fun _ => ⟨fun _ _ => ?_, fun _ => ⟨fun _ hend => ?_, ?_⟩⟩⟩
  · refine (safe_pluginVodGifSubBlocksEnd bytes _).imp fun next hnext => ?_
    rintro later ⟨⟩
    exact ⟨by simp only; omega, hnext.2⟩
  · refine ⟨by omega, (safe_colorTableEnd hend).imp fun offset hoffset _ _ => ?_⟩
    refine (safe_pluginVodGifSubBlocksEnd bytes _).imp fun next hnext => ?_
    rintro later ⟨⟩
    exact ⟨by simp only; omega, hnext.2⟩
  · exact fun _ => trivial

def gifLoop : ScanLoop GifState Empty := ⟨gifStep, GifState.offset, advances_gifStep⟩

def completePluginVodGif : List UInt8 → Option Bool :=
  answer do
    within 14
    startsWithAny [gif87a, gif89a]
    let packed ← index 10
    let offset ← colorTableEnd packed 13
    gifLoop.scan ⟨offset, false⟩

/-! WebP. -/

structure WebpState where
  offset : Nat
  seenImagePayload : Bool

def riff : List UInt8 := [82, 73, 70, 70]

def webp : List UInt8 := [87, 69, 66, 80]

def webpImageTypes : List (List UInt8) :=
  [[86, 80, 56, 32], [86, 80, 56, 76], [65, 78, 77, 70]]

def webpChunkTypes : List (List UInt8) :=
  webpImageTypes ++
    [[86, 80, 56, 88], [65, 76, 80, 72], [65, 78, 73, 77], [73, 67, 67, 80], [69, 88, 73, 70],
      [88, 77, 80, 32]]

def webpStep (length : Nat) (state : WebpState) : Scan (WebpState ⊕ Empty) :=
  if state.offset < length then do
    let headerEnd := state.offset + 8
    within headerEnd
    let chunkType ← Scan.slice state.offset (state.offset + 4)
    require (chunkType ∈ webpChunkTypes)
    let chunkLength := fromLeBytes (← Scan.slice (state.offset + 4) headerEnd)
    let dataEnd := headerEnd + chunkLength
    let chunkEnd := dataEnd + chunkLength % 2
    within chunkEnd
    (if chunkLength % 2 = 1 then do require ((← index dataEnd) = 0) else pure ())
    pure (.inl ⟨chunkEnd,
      state.seenImagePayload || (decide (chunkType ∈ webpImageTypes) && decide (0 < chunkLength))⟩)
  else finish state.seenImagePayload state.offset

theorem advances_webpStep (length : Nat) (bytes : List UInt8) (state : WebpState) :
    Safe bytes (webpStep length state) fun next => ∀ later, next = .inl later →
      state.offset < later.offset ∧ later.offset ≤ bytes.length := by
  rw [webpStep, safe_ite]
  refine ⟨fun _ => ?_, fun _ => trivial⟩
  simp only [safe_bind, safe_within]
  intro hheader
  refine Safe.slice (by omega) fun chunkType _ => ?_
  refine safe_require.mpr fun _ => Safe.slice (by omega) fun size _ hend => ?_
  refine Safe.imp (P := fun _ => True) ?_ fun _ _ => ?_
  · split
    · rename_i hodd
      simp only [safe_bind, safe_index, safe_require, implies_true, exists_prop, and_true]
      omega
    · trivial
  · rintro later ⟨⟩
    exact ⟨by simp only; omega, hend⟩

def webpLoop (length : Nat) : ScanLoop WebpState Empty :=
  ⟨webpStep length, WebpState.offset, advances_webpStep length⟩

def completePluginVodWebp : List UInt8 → Option Bool :=
  answer do
    within 20
    require ((← Scan.slice 0 4) = riff)
    require ((← Scan.slice 8 12) = webp)
    let length := fromLeBytes (← Scan.slice 4 8) + 8
    exactly length
    (webpLoop length).scan ⟨12, false⟩

/-! The answers. -/

/-- No image is cut short and none has bytes behind it. -/
theorem isExact_completePluginVod :
    IsExact completePluginVodPng ∧ IsExact completePluginVodJpeg ∧
      IsExact completePluginVodGif ∧ IsExact completePluginVodWebp := by
  refine ⟨isExact_answer fun bytes => ?_, isExact_answer fun bytes => ?_,
    isExact_answer fun bytes => ?_, isExact_answer fun bytes => ?_⟩
  · simp only [safe_bind, safe_startsWithAny]
    exact fun _ => ScanLoop.safe_scan_empty _ _ _
  · simp only [safe_bind, safe_within, safe_startsWithAny]
    exact fun _ _ => ScanLoop.safe_scan_empty _ _ _
  · simp only [safe_bind, safe_within, safe_startsWithAny, safe_index]
    intro hlength _
    exact ⟨by omega, (safe_colorTableEnd (by omega)).imp fun _ _ =>
      ScanLoop.safe_scan_empty _ _ _⟩
  · simp only [safe_bind, safe_within, safe_slice, safe_require, safe_exactly]
    intro hlength
    exact ⟨by omega, fun _ => ⟨by omega, fun _ => ⟨by omega, fun _ =>
      ScanLoop.safe_scan_empty _ _ _⟩⟩⟩

def tinyPng : List UInt8 :=
  pngSignature ++ [0, 0, 0, 13] ++ ihdr ++ [0, 0, 0, 1, 0, 0, 0, 1, 8, 0, 0, 0, 0] ++
    [0, 0, 0, 0] ++ [0, 0, 0, 1] ++ idat ++ [7] ++ [0, 0, 0, 0] ++ [0, 0, 0, 0] ++ iend ++
      [0, 0, 0, 0]

def tinyJpeg : List UInt8 :=
  [0xff, 0xd8, 0xff, 0xdb, 0, 3, 1, 0xff, 0xc4, 0, 3, 1, 0xff, 0xc0, 0, 11, 8, 0, 1, 0, 1, 1, 1,
    0x11, 0, 0xff, 0xda, 0, 8, 1, 1, 0, 0, 0x3f, 0, 0x55, 0xff, 0, 0xff, 0xd0, 0xff, 0xff, 0xd9]

def tinyGif : List UInt8 :=
  gif89a ++ [1, 0, 1, 0, 0x80, 0, 0, 0, 0, 0, 255, 255, 255, 0x21, 0xf9, 4, 0, 0, 0, 0, 0, 0x2c,
    0, 0, 0, 0, 1, 0, 1, 0, 0, 2, 2, 0x44, 1, 0, 0x3b]

def tinyWebp : List UInt8 :=
  riff ++ [16, 0, 0, 0] ++ webp ++ [86, 80, 56, 76] ++ [3, 0, 0, 0] ++ [1, 2, 3, 0]

theorem tinyImages_exact :
    completePluginVodPng (tinyPng ++ [0]) = some false ∧
      completePluginVodJpeg (tinyJpeg ++ [0xd9]) = some false ∧
        completePluginVodGif (tinyGif.take 13) = some false ∧
          completePluginVodWebp (tinyWebp ++ [0]) = some false :=
  ⟨isExact_completePluginVod.1.extended tinyPng [0] (by decide +kernel) (by simp),
    isExact_completePluginVod.2.1.extended tinyJpeg [0xd9] (by decide +kernel) (by simp),
    isExact_completePluginVod.2.2.1.truncated (tinyGif.take 13) (tinyGif.drop 13)
      (by decide +kernel) (by decide),
    isExact_completePluginVod.2.2.2.extended tinyWebp [0] (by decide +kernel) (by simp)⟩

end Jellyrin.PluginVod
