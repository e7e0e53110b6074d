import Jellyrin.Defs.Api.ApiError
import Jellyrin.Defs.PluginVod.ImageBytes

/-! The size of an artwork, which is read apart from the check that the image is whole. -/

namespace Jellyrin.PluginVod

open Api Scan

def part (bytes : List UInt8) (start stop : Nat) : List UInt8 := (bytes.take stop).drop start

def frameDimensions (bytes : List UInt8) (offset : Nat) : Nat × Nat :=
  (fromBeBytes (part bytes (offset + 5) (offset + 7)),
    fromBeBytes (part bytes (offset + 3) (offset + 5)))

def isStandalone (marker : UInt8) : Bool :=
  marker = 0xd8 || marker = 0xd9 || (0xd0 ≤ marker && marker ≤ 0xd7)

def dimensionStep (bytes : List UInt8) (offset : Nat) : Nat ⊕ Option (Nat × Nat) :=
  if bytes.length < offset + 4 then .inr none
  else if bytes[offset]? ≠ some 0xff then .inl (offset + 1)
  else
    match bytes[offset + 1]? with
    | none => .inr none
    | some marker =>
      if isStandalone marker then .inl (offset + 2)
      else if bytes.length < offset + 2 + 2 then .inr none
      else
        let segmentLen := fromBeBytes (part bytes (offset + 2) (offset + 2 + 2))
        if segmentLen < 2 ∨ bytes.length < offset + 2 + segmentLen then .inr none
        else if marker ∈ sofMarkers ∧ 7 ≤ segmentLen then
          .inr (some (frameDimensions bytes (offset + 2)))
        else .inl (offset + 2 + segmentLen)

theorem lt_of_dimensionStep {bytes : List UInt8} {offset later : Nat}
    (h : dimensionStep bytes offset = .inl later) : offset < later ∧ offset < bytes.length := by
  rw [dimensionStep] at h
  split at h
  · cases h
  · split at h
    · cases h
      omega
    · split at h
      · cases h
      · split at h
        · cases h
          omega
        · dsimp only at h
          split at h
          · cases h
          · split at h <;> cases h
            omega

def jpegDimensionsFrom (bytes : List UInt8) (offset : Nat) : Option (Nat × Nat) :=
  match _h : dimensionStep bytes offset with
  | .inl later => jpegDimensionsFrom bytes later
  | .inr result => result
termination_by bytes.length - offset
decreasing_by
  have hlt := lt_of_dimensionStep _h
  omega

theorem jpegDimensionsFrom_eq (bytes : List UInt8) (offset : Nat) :
    jpegDimensionsFrom bytes offset =
      match dimensionStep bytes offset with
      | .inl later => jpegDimensionsFrom bytes later
      | .inr result => result := by
  rw [jpegDimensionsFrom]
  split <;> simp [*]

def webpDimensions (bytes : List UInt8) : Option (Nat × Nat) :=
  if 30 ≤ bytes.length ∧ part bytes 0 4 = riff ∧ part bytes 8 12 = webp then
    if part bytes 12 16 = [86, 80, 56, 88] then
      some (1 + fromLeBytes (part bytes 24 27), 1 + fromLeBytes (part bytes 27 30))
    else if part bytes 12 16 = [86, 80, 56, 32] ∧ part bytes 23 26 = [0x9d, 0x01, 0x2a] then
      some (fromLeBytes (part bytes 26 28) % 0x4000, fromLeBytes (part bytes 28 30) % 0x4000)
    else if part bytes 12 16 = [86, 80, 56, 76] ∧ bytes[20]? = some 0x2f then
      let bits := fromLeBytes (part bytes 21 25)
      some (bits % 0x4000 + 1, bits / 0x4000 % 0x4000 + 1)
    else none
  else none

def imageDimensionsFromBytes (bytes : List UInt8) : Option (Nat × Nat) :=
  if pngSignature <+: bytes ∧ 24 ≤ bytes.length then
    some (fromBeBytes (part bytes 16 20), fromBeBytes (part bytes 20 24))
  else if (gif87a <+: bytes ∨ gif89a <+: bytes) ∧ 10 ≤ bytes.length then
    some (fromLeBytes (part bytes 6 8), fromLeBytes (part bytes 8 10))
  else (webpDimensions bytes).or
    (if [0xff, 0xd8, 0xff] <+: bytes then jpegDimensionsFrom bytes 2 else none)

def maxDimension : Nat := 16384

def maxPixels : Nat := 100000000

def isSafeSize (dimensions : Nat × Nat) : Bool :=
  0 < dimensions.1 && 0 < dimensions.2 && dimensions.1 ≤ maxDimension &&
    dimensions.2 ≤ maxDimension && dimensions.1 * dimensions.2 ≤ maxPixels

def safeRemoteImageDimensions (bytes : List UInt8) : Bool :=
  (imageDimensionsFromBytes bytes).any isSafeSize

inductive ImageFormat where | png | jpg | webp | gif | bin
  deriving DecidableEq

def imageFormatFromBytes (bytes : List UInt8) : ImageFormat :=
  if pngSignature <+: bytes then .png
  else if [0xff, 0xd8, 0xff] <+: bytes then .jpg
  else if 12 ≤ bytes.length ∧ part bytes 0 4 = riff ∧ part bytes 8 12 = webp then .webp
  else if gif87a <+: bytes ∨ gif89a <+: bytes then .gif
  else .bin

def completePluginVodRasterPayload (bytes : List UInt8) : ImageFormat → Option Bool
  | .png => completePluginVodPng bytes
  | .jpg => completePluginVodJpeg bytes
  | .gif => completePluginVodGif bytes
  | .webp => completePluginVodWebp bytes
  | .bin => some false

def imageUploadLimitBytes : Nat := 32 * 1024 * 1024

def validatePluginVodImagePayload (bytes : List UInt8) : Except ApiError Unit :=
  let invalid := ApiError.serviceUnavailable "VOD provider artwork payload is invalid"
  let format := imageFormatFromBytes bytes
  if imageUploadLimitBytes < bytes.length then
    .error (.badRequest "Remote image file is too large")
  else if bytes.isEmpty then .error invalid
  else if format = .bin then .error invalid
  else if completePluginVodRasterPayload bytes format ≠ some true then .error invalid
  else if safeRemoteImageDimensions bytes then .ok ()
  else .error invalid

/-! The frame header that the check of a JPEG finds. -/

def jpegStart : JpegState := ⟨2, false, false, false, false, false, false⟩

variable {dimensions : Nat × Nat}

section Jpeg

variable {bytes : List UInt8}

inductive FrameAt (bytes : List UInt8) : JpegState → Nat × Nat → Prop
  | here {state : JpegState} {marker : UInt8} {entropy : EntropyState} :
      (nextMarker state).run bytes = .ok (marker, entropy) → marker ∈ sofMarkers →
      FrameAt bytes state (frameDimensions bytes entropy.offset)
  | later {state next : JpegState} {marker : UInt8} {entropy : EntropyState}
      {dimensions : Nat × Nat} :
      (nextMarker state).run bytes = .ok (marker, entropy) → marker ∉ sofMarkers →
      (jpegStep state).run bytes = .ok (.inl next) → FrameAt bytes next dimensions →
      FrameAt bytes state dimensions

/-- The check gets from one state to another over segments before the frame header, all without
fill bytes before their markers. -/
inductive PlainTo (bytes : List UInt8) : JpegState → JpegState → Prop
  | refl (state : JpegState) : PlainTo bytes state state
  | step {state next later : JpegState} {marker : UInt8} {entropy : EntropyState} :
      (nextMarker state).run bytes = .ok (marker, entropy) →
      entropy.offset = state.offset + 2 → marker ∉ sofMarkers →
      (jpegStep state).run bytes = .ok (.inl next) → PlainTo bytes next later →
      PlainTo bytes state later

inductive Leads (bytes : List UInt8) : Nat → Nat × Nat → Prop
  | frame {offset : Nat} {dimensions : Nat × Nat} :
      dimensionStep bytes offset = .inr (some dimensions) → Leads bytes offset dimensions
  | step {offset later : Nat} {dimensions : Nat × Nat} :
      dimensionStep bytes offset = .inl later → Leads bytes later dimensions →
      Leads bytes offset dimensions

def IsPlain (bytes : List UInt8) (start : JpegState) : Prop :=
  ∃ state marker entropy, PlainTo bytes start state ∧
    (nextMarker state).run bytes = .ok (marker, entropy) ∧ marker ∈ sofMarkers ∧
      entropy.offset = state.offset + 2

/-- The first fill byte is taken for a marker, and what follows for its segment; from there the
size is reached by accident. -/
def IsStray (bytes : List UInt8) (start : JpegState) (dimensions : Nat × Nat) : Prop :=
  ∃ state marker entropy, PlainTo bytes start state ∧
    (nextMarker state).run bytes = .ok (marker, entropy) ∧ entropy.offset ≠ state.offset + 2 ∧
      Leads bytes state.offset dimensions

variable {state : JpegState}

theorem FrameAt.unique {first second : Nat × Nat} (hfirst : FrameAt bytes state first)
    (hsecond : FrameAt bytes state second) : first = second := by
  induction hfirst with
  | here hmarker hsof =>
    cases hsecond with
    | here hother =>
      rw [hmarker] at hother
      cases hother
      rfl
    | later hother hnot =>
      rw [hmarker] at hother
      cases hother
      exact absurd hsof hnot
  | later hmarker hnot hstep _ ih =>
    cases hsecond with
    | here hother hsof =>
      rw [hmarker] at hother
      cases hother
      exact absurd hsof hnot
    | later _ _ hotherStep hframe =>
      rw [hstep] at hotherStep
      cases hotherStep
      exact ih hframe

theorem jpegDimensionsFrom_eq_some {offset : Nat} :
    jpegDimensionsFrom bytes offset = some dimensions ↔ Leads bytes offset dimensions := by
  constructor
  · intro h
    induction offset using jpegDimensionsFrom.induct bytes with
    | case1 offset later hstep ih =>
      rw [jpegDimensionsFrom_eq, hstep] at h
      exact .step hstep (ih h)
    | case2 offset result hstep =>
      rw [jpegDimensionsFrom_eq, hstep] at h
      exact .frame (h ▸ hstep)
  · intro h
    induction h with
    | frame hstep => rw [jpegDimensionsFrom_eq, hstep]
    | step hstep _ ih => rwa [jpegDimensionsFrom_eq, hstep]

/-! One segment before the frame header. -/

variable {marker : UInt8}

theorem run_nextMarker {entropy : EntropyState} (hscan : state.inScan = false)
    (h : (nextMarker state).run bytes = .ok (marker, entropy)) :
    bytes[state.offset]? = some 0xff ∧ state.offset + 2 ≤ entropy.offset ∧
      bytes[entropy.offset - 1]? = some marker ∧ marker ≠ 0xff ∧
      ∀ i, state.offset ≤ i → i < entropy.offset - 1 → bytes[i]? = some 0xff := by
  rw [nextMarker, hscan, if_neg Bool.false_ne_true] at h
  obtain ⟨first, hfirst, h⟩ := run_bind_eq_ok.mp h
  obtain ⟨_, hrequire, h⟩ := run_bind_eq_ok.mp h
  obtain ⟨⟨found, stop⟩, hfound, h⟩ := run_bind_eq_ok.mp h
  have hff : first = 0xff := run_require_eq_ok.mp hrequire
  have hget : bytes[state.offset]? = some 0xff := hff ▸ run_get_eq_ok.mp hfirst
  obtain ⟨hlt, hbyte, hne, hskipped⟩ := run_getAfter_eq_ok hfound
  cases run_pure_eq_ok.mp h
  have hmarker : marker ≠ 0xff := by simpa using hne
  refine ⟨hget, ?_, hbyte, hmarker, fun i hi hlt => ?_⟩
  · by_contra hshort
    have hstop : stop - 1 = state.offset := by
      simp only at hshort
      omega
    rw [hstop, hget] at hbyte
    exact hmarker (Option.some.inj hbyte).symm
  · obtain ⟨skipped, hget, hskip⟩ := hskipped i hi hlt
    rw [hget, eq_of_beq hskip]

theorem run_jpegSegment {next : JpegState} {segment : List UInt8} (hscan : state.inScan = false)
    (hsof : state.seenSof = false) (h : (jpegSegment marker segment state).run bytes = .ok next) :
    next.offset = state.offset ∧ next.inScan = false ∧
      next.seenSof = decide (marker ∈ sofMarkers) ∧
      (marker ∈ sofMarkers → 6 ≤ segment.length) := by
  rw [jpegSegment] at h
  split at h
  · rename_i hmarker
    obtain ⟨_, hrequire, h⟩ := run_bind_eq_ok.mp h
    obtain ⟨_, -, h⟩ := run_bind_eq_ok.mp h
    obtain ⟨_, -, h⟩ := run_bind_eq_ok.mp h
    obtain ⟨_, -, h⟩ := run_bind_eq_ok.mp h
    obtain ⟨_, -, h⟩ := run_bind_eq_ok.mp h
    cases run_pure_eq_ok.mp h
    exact ⟨rfl, hscan, (decide_eq_true hmarker).symm, fun _ => (run_require_eq_ok.mp hrequire).2⟩
  · rename_i hmarker
    have hnot := (decide_eq_false hmarker).symm
    split at h
    · cases run_pure_eq_ok.mp h
      exact ⟨rfl, hscan, hsof.trans hnot, fun hmem => absurd hmem hmarker⟩
    · split at h
      · cases run_pure_eq_ok.mp h
        exact ⟨rfl, hscan, hsof.trans hnot, fun hmem => absurd hmem hmarker⟩
      · split at h
        · obtain ⟨_, hrequire, -⟩ := run_bind_eq_ok.mp h
          have hseen := (run_require_eq_ok.mp hrequire).1
          rw [hsof] at hseen
          cases hseen
        · cases run_pure_eq_ok.mp h
          exact ⟨rfl, hscan, hsof.trans hnot, fun hmem => absurd hmem hmarker⟩

theorem run_jpegStep {next : JpegState} (hsof : state.seenSof = false)
    (h : (jpegStep state).run bytes = .ok (.inl next)) :
    ∃ marker entropy segmentLength,
      (nextMarker state).run bytes = .ok (marker, entropy) ∧ isStandalone marker = false ∧
      fromBeBytes (part bytes entropy.offset (entropy.offset + 2)) = segmentLength ∧
      2 ≤ segmentLength ∧ entropy.offset + segmentLength ≤ bytes.length ∧
      next.offset = entropy.offset + segmentLength ∧ next.inScan = false ∧
      next.seenSof = decide (marker ∈ sofMarkers) ∧ (marker ∈ sofMarkers → 7 ≤ segmentLength) := by
  rw [jpegStep] at h
  obtain ⟨⟨marker, entropy⟩, hmarker, h⟩ := run_bind_eq_ok.mp h
  dsimp only at h
  split at h
  · exact absurd h run_finish_ne_ok
  · rename_i hend
    obtain ⟨_, hrequire, h⟩ := run_bind_eq_ok.mp h
    obtain ⟨_, -, h⟩ := run_bind_eq_ok.mp h
    obtain ⟨size, hsize, h⟩ := run_bind_eq_ok.mp h
    obtain ⟨_, hlength, h⟩ := run_bind_eq_ok.mp h
    obtain ⟨_, hwithin, h⟩ := run_bind_eq_ok.mp h
    obtain ⟨segment, hsegment, h⟩ := run_bind_eq_ok.mp h
    obtain ⟨later, hlater, h⟩ := run_bind_eq_ok.mp h
    cases run_pure_eq_ok.mp h
    have hstandalone := run_require_eq_ok.mp hrequire
    obtain ⟨-, hsize⟩ := run_slice_eq_ok.mp hsize
    obtain ⟨hrange, hsegment⟩ := run_slice_eq_ok.mp hsegment
    obtain ⟨hoffset, hinScan, hseen, hlong⟩ := run_jpegSegment (by rfl) (by exact hsof) hlater
    refine ⟨marker, entropy, fromBeBytes size, hmarker, ?_, congrArg fromBeBytes hsize,
      run_require_eq_ok.mp hlength, run_within_eq_ok.mp hwithin, hoffset, hinScan, hseen,
      fun hmem => ?_⟩
    · rw [not_or, not_or, not_and] at hstandalone
      obtain ⟨-, -, hrestart⟩ := hstandalone
      simp only [UInt8.le_iff_toNat_le] at hrestart
      have hd8 : marker ≠ 0xd8 := by
        rintro rfl
        exact hrestart (by decide) (by decide)
      have hd7 : ¬(0xd0 ≤ marker ∧ marker ≤ 0xd7) := by
        rw [UInt8.le_iff_toNat_le, UInt8.le_iff_toNat_le]
        intro hrange
        have hlast : UInt8.toNat 0xd7 ≤ UInt8.toNat 0xd8 := by decide
        exact hrestart hrange.1 (hrange.2.trans hlast)
      rw [not_and] at hd7
      simpa [isStandalone, hend, hd8] using hd7
    · have hsix := hlong hmem
      rw [← hsegment, List.length_drop, List.length_take] at hsix
      omega

theorem dimensionStep_of_plain {offset segmentLength : Nat} (hff : bytes[offset]? = some 0xff)
    (hmarker : bytes[offset + 1]? = some marker) (hstandalone : isStandalone marker = false)
    (hsize : fromBeBytes (part bytes (offset + 2) (offset + 2 + 2)) = segmentLength)
    (hlength : 2 ≤ segmentLength) (hend : offset + 2 + segmentLength ≤ bytes.length)
    (hlong : marker ∈ sofMarkers → 7 ≤ segmentLength) :
    dimensionStep bytes offset =
      if marker ∈ sofMarkers then .inr (some (frameDimensions bytes (offset + 2)))
      else .inl (offset + 2 + segmentLength) := by
  rw [dimensionStep, if_neg (by omega), if_neg (not_not.mpr hff), hmarker]
  dsimp only
  rw [if_neg (by simp [hstandalone]), if_neg (by omega), hsize, if_neg (by omega)]
  by_cases hsof : marker ∈ sofMarkers
  · rw [if_pos ⟨hsof, hlong hsof⟩, if_pos hsof]
  · rw [if_neg fun h => hsof h.1, if_neg hsof]

theorem noAccept_nextMarker (hscan : state.inScan = false) : NoAccept bytes (nextMarker state) := by
  rw [nextMarker, hscan, if_neg Bool.false_ne_true]
  refine noAccept_bind noAccept_get fun _ => noAccept_bind noAccept_require fun _ => ?_
  exact noAccept_bind noAccept_getAfter fun _ => noAccept_pure _

theorem noAccept_jpegSegment {segment : List UInt8} :
    NoAccept bytes (jpegSegment marker segment state) := by
  refine noAccept_ite ?_ (noAccept_ite (noAccept_pure _) (noAccept_ite (noAccept_pure _)
    (noAccept_ite ?_ (noAccept_pure _))))
  · refine noAccept_bind noAccept_require fun _ => noAccept_bind noAccept_indexOf fun _ => ?_
    refine noAccept_bind noAccept_require fun _ => noAccept_bind noAccept_indexOf fun _ => ?_
    exact noAccept_bind noAccept_require fun _ => noAccept_pure _
  · refine noAccept_bind noAccept_require fun _ => noAccept_bind noAccept_indexOf fun _ => ?_
    exact noAccept_bind noAccept_require fun _ => noAccept_pure _

theorem noAccept_jpegStep (hscan : state.inScan = false) (hsof : state.seenSof = false) :
    NoAccept bytes (jpegStep state) := by
  refine noAccept_bind (noAccept_nextMarker hscan) fun _ => noAccept_ite ?_ ?_
  · rw [hsof, Bool.false_and, Bool.false_and]
    exact noAccept_finish
  · refine noAccept_bind noAccept_require fun _ => noAccept_bind noAccept_within fun _ => ?_
    refine noAccept_bind noAccept_slice fun _ => noAccept_bind noAccept_require fun _ => ?_
    refine noAccept_bind noAccept_within fun _ => noAccept_bind noAccept_slice fun _ => ?_
    exact noAccept_bind noAccept_jpegSegment fun _ => noAccept_pure _

theorem exists_plainTo_step {next : JpegState} {entropy : EntropyState}
    {P : JpegState → UInt8 → EntropyState → Prop}
    (hmarker : (nextMarker state).run bytes = .ok (marker, entropy))
    (hplain : entropy.offset = state.offset + 2) (hsof : marker ∉ sofMarkers)
    (hstep : (jpegStep state).run bytes = .ok (.inl next)) (hhere : ¬ P state marker entropy) :
    (∃ later found at_, PlainTo bytes state later ∧
        (nextMarker later).run bytes = .ok (found, at_) ∧ P later found at_) ↔
      ∃ later found at_, PlainTo bytes next later ∧
        (nextMarker later).run bytes = .ok (found, at_) ∧ P later found at_ := by
  constructor
  · rintro ⟨later, found, at_, hto, hfound, hlater⟩
    cases hto with
    | refl =>
      rw [hmarker] at hfound
      cases hfound
      exact absurd hlater hhere
    | step _ _ _ hother hrest =>
      rw [hstep] at hother
      cases hother
      exact ⟨later, found, at_, hrest, hfound, hlater⟩
  · rintro ⟨later, found, at_, hto, hrest⟩
    exact ⟨later, found, at_, .step hmarker hplain hsof hstep hto, hrest⟩

theorem of_filled {entropy : EntropyState}
    (hmarker : (nextMarker state).run bytes = .ok (marker, entropy))
    (hfilled : entropy.offset ≠ state.offset + 2) :
    IsPlain bytes state ∨ IsStray bytes state dimensions ↔ Leads bytes state.offset dimensions := by
  have hto : ∀ {later}, PlainTo bytes state later → later = state := by
    intro later hto
    cases hto with
    | refl => rfl
    | step hother hplain =>
      rw [hmarker] at hother
      cases hother
      exact absurd hplain hfilled
  constructor
  · rintro (⟨later, found, at_, hwalk, hfound, -, hat⟩ | ⟨later, found, at_, hwalk, -, -, hleads⟩)
    · rw [hto hwalk, hmarker] at hfound
      cases hfound
      rw [hto hwalk] at hat
      exact absurd hat hfilled
    · exact hto hwalk ▸ hleads
  · exact fun hleads => .inr ⟨state, marker, entropy, .refl state, hmarker, hfilled, hleads⟩

theorem jpegDimensionsFrom_of_accepted (hscan : state.inScan = false)
    (hsof : state.seenSof = false) (h : jpegLoop.runOn bytes state = .error (.returned true)) :
    ∃ dimensions, FrameAt bytes state dimensions ∧
      (jpegDimensionsFrom bytes state.offset = some dimensions ↔
        IsPlain bytes state ∨ IsStray bytes state dimensions) := by
  induction state using ScanLoop.runOn.induct jpegLoop bytes with
  | case1 state next hstep ih =>
    rw [ScanLoop.runOn_eq, hstep] at h
    obtain ⟨marker, entropy, segmentLength, hmarker, hstandalone, hsize, hlength, hend, hoffset,
      hnextScan, hseen, hlong⟩ := run_jpegStep hsof hstep
    obtain ⟨hff, hle, hbyte, -, -⟩ := run_nextMarker hscan hmarker
    by_cases hplain : entropy.offset = state.offset + 2
    · have hat : entropy.offset - 1 = state.offset + 1 := by omega
      rw [hat] at hbyte
      rw [hplain] at hsize hend
      have hdimension := dimensionStep_of_plain hff hbyte hstandalone hsize hlength hend hlong
      by_cases hmem : marker ∈ sofMarkers
      · rw [if_pos hmem] at hdimension
        refine ⟨_, .here hmarker hmem, ?_⟩
        rw [jpegDimensionsFrom_eq, hdimension, hplain]
        exact iff_of_true rfl (.inl ⟨state, marker, entropy, .refl state, hmarker, hmem, hplain⟩)
      · rw [if_neg hmem, ← hplain, ← hoffset] at hdimension
        rw [decide_eq_false hmem] at hseen
        obtain ⟨dimensions, hframe, hiff⟩ := ih hnextScan hseen h
        refine ⟨dimensions, .later hmarker hmem hstep hframe, ?_⟩
        rw [jpegDimensionsFrom_eq, hdimension, IsPlain, IsStray,
          exists_plainTo_step hmarker hplain hmem hstep fun h => hmem h.1,
          exists_plainTo_step hmarker hplain hmem hstep fun h => h.1 hplain]
        exact hiff
    · obtain ⟨dimensions, hframe⟩ : ∃ dimensions, FrameAt bytes state dimensions := by
        by_cases hmem : marker ∈ sofMarkers
        · exact ⟨_, .here hmarker hmem⟩
        · rw [decide_eq_false hmem] at hseen
          obtain ⟨dimensions, hframe, -⟩ := ih hnextScan hseen h
          exact ⟨dimensions, .later hmarker hmem hstep hframe⟩
      exact ⟨dimensions, hframe,
        jpegDimensionsFrom_eq_some.trans (of_filled hmarker hplain).symm⟩
  | case2 state result => exact result.elim
  | case3 state exit hstep =>
    rw [ScanLoop.runOn_eq, hstep] at h
    cases h
    exact absurd hstep (noAccept_jpegStep hscan hsof)

theorem runOn_of_completePluginVodJpeg (h : completePluginVodJpeg bytes = some true) :
    [0xff, 0xd8] <+: bytes ∧ jpegLoop.runOn bytes jpegStart = .error (.returned true) := by
  obtain ⟨_, -, hpasses⟩ := (passes_of_answer h).of_bind noAccept_within
  obtain ⟨_, hstart, hpasses⟩ := hpasses.of_bind noAccept_startsWithAny
  refine ⟨?_, hpasses.accepts⟩
  simp only [startsWithAny] at hstart
  split at hstart
  · rename_i hany
    simpa using hany
  · cases hstart

theorem eq_of_completePluginVodJpeg (h : completePluginVodJpeg bytes = some true) :
    ∃ rest, bytes = 0xff :: 0xd8 :: 0xff :: rest := by
  obtain ⟨⟨rest, rfl⟩, hrun⟩ := runOn_of_completePluginVodJpeg h
  obtain ⟨next, hnext⟩ := (jpegLoop.passes_step hrun).ok (noAccept_jpegStep rfl rfl)
  obtain ⟨⟨marker, entropy⟩, hmarker, -⟩ := run_bind_eq_ok.mp hnext
  have hff := (run_nextMarker rfl hmarker).1
  have hthird : rest[0]? = some 0xff := hff
  cases rest with
  | nil => cases hthird
  | cons third rest =>
    cases hthird
    exact ⟨rest, rfl⟩

theorem imageDimensionsFromBytes_jpeg (h : completePluginVodJpeg bytes = some true) :
    imageDimensionsFromBytes bytes = jpegDimensionsFrom bytes 2 := by
  obtain ⟨rest, rfl⟩ := eq_of_completePluginVodJpeg h
  have hwebp : webpDimensions (0xff :: 0xd8 :: 0xff :: rest) = none := by
    refine if_neg fun hriff => ?_
    have hfirst := congrArg List.head? hriff.2.1
    simp [part, riff] at hfirst
  rw [imageDimensionsFromBytes, if_neg, if_neg, hwebp, Option.none_or, if_pos]
  · simp
  · simp [gif87a, gif89a]
  · simp [pngSignature]

end Jpeg

theorem noAccept_pngHeader {bytes chunkType chunkData : List UInt8} {length : Nat} :
    NoAccept bytes (pngHeader chunkType length chunkData) := by
  refine noAccept_bind noAccept_require fun _ => noAccept_bind noAccept_indexOf fun _ => ?_
  refine noAccept_bind noAccept_indexOf fun _ => noAccept_bind noAccept_require fun _ => ?_
  refine noAccept_bind noAccept_indexOf fun _ => noAccept_bind noAccept_require fun _ => ?_
  refine noAccept_bind noAccept_indexOf fun _ => noAccept_bind noAccept_require fun _ => ?_
  exact noAccept_bind noAccept_indexOf fun _ => noAccept_require

theorem eq_of_completePluginVodPng {bytes : List UInt8}
    (h : completePluginVodPng bytes = some true) :
    pngSignature <+: bytes ∧ 24 ≤ bytes.length := by
  obtain ⟨_, hstart, hpasses⟩ := (passes_of_answer h).of_bind noAccept_startsWithAny
  refine ⟨?_, ?_⟩
  · simp only [startsWithAny] at hstart
    split at hstart
    · rename_i hany
      simpa using hany
    · cases hstart
  · obtain ⟨_, -, hpasses⟩ := (pngLoop.passes_step hpasses.accepts).of_bind noAccept_within
    obtain ⟨_, -, hpasses⟩ := hpasses.of_bind noAccept_within
    obtain ⟨size, -, hpasses⟩ := hpasses.of_bind noAccept_slice
    obtain ⟨_, hend, hpasses⟩ := hpasses.of_bind noAccept_within
    obtain ⟨chunkType, -, hpasses⟩ := hpasses.of_bind noAccept_slice
    obtain ⟨chunkData, -, hpasses⟩ := hpasses.of_bind noAccept_slice
    obtain ⟨_, -, hpasses⟩ := hpasses.of_bind noAccept_require
    obtain ⟨_, hheader, -⟩ := hpasses.of_bind (noAccept_ite noAccept_pngHeader noAccept_require)
    rw [if_pos rfl] at hheader
    obtain ⟨_, hrequire, -⟩ := run_bind_eq_ok.mp hheader
    have hlength := (run_require_eq_ok.mp hrequire).2
    have hchunk := run_within_eq_ok.mp hend
    simp only [pngSignature, List.length_cons, List.length_nil] at hchunk
    omega

theorem imageDimensionsFromBytes_png {bytes : List UInt8}
    (h : completePluginVodPng bytes = some true) :
    imageDimensionsFromBytes bytes =
      some (fromBeBytes (part bytes 16 20), fromBeBytes (part bytes 20 24)) :=
  if_pos (eq_of_completePluginVodPng h)

/-! The size of what is accepted. -/

def FrameHeader (bytes : List UInt8) (dimensions : Nat × Nat) : Prop :=
  (completePluginVodPng bytes = some true ∧
      dimensions = (fromBeBytes (part bytes 16 20), fromBeBytes (part bytes 20 24))) ∨
    (completePluginVodJpeg bytes = some true ∧ FrameAt bytes jpegStart dimensions)

/-- The size that is read is that of the frame header, and it is what the limits are applied to. -/
def LimitsFrame (bytes : List UInt8) : Prop :=
  (∃ dimensions, FrameHeader bytes dimensions) ∧
    ∀ dimensions, FrameHeader bytes dimensions →
      imageDimensionsFromBytes bytes = some dimensions ∧
        (validatePluginVodImagePayload bytes = .ok () → isSafeSize dimensions = true)

/-- The markers up to the frame header have no fill bytes, or these lead to the same size. -/
def ReadsFrame (bytes : List UInt8) : Prop :=
  IsPlain bytes jpegStart ∨
    ∃ dimensions, FrameAt bytes jpegStart dimensions ∧ IsStray bytes jpegStart dimensions

theorem isSafeSize_of_validated {bytes : List UInt8}
    (hsize : imageDimensionsFromBytes bytes = some dimensions)
    (h : validatePluginVodImagePayload bytes = .ok ()) : isSafeSize dimensions = true := by
  simp only [validatePluginVodImagePayload] at h
  split at h
  · cases h
  · split at h
    · cases h
    · split at h
      · cases h
      · split at h
        · cases h
        · split at h
          · rename_i hsafe
            rwa [safeRemoteImageDimensions, hsize, Option.any_some] at hsafe
          · cases h

theorem limitsFrame_iff (bytes : List UInt8)
    (h : completePluginVodPng bytes = some true ∨ completePluginVodJpeg bytes = some true) :
    LimitsFrame bytes ↔ (completePluginVodJpeg bytes = some true → ReadsFrame bytes) := by
  by_cases hjpeg : completePluginVodJpeg bytes = some true
  · have hpng : completePluginVodPng bytes ≠ some true := by
      intro hpng
      obtain ⟨rest, rfl⟩ := eq_of_completePluginVodJpeg hjpeg
      have hsignature := (eq_of_completePluginVodPng hpng).1
      simp [pngSignature] at hsignature
    obtain ⟨dimensions, hframe, hiff⟩ :=
      jpegDimensionsFrom_of_accepted rfl rfl (runOn_of_completePluginVodJpeg hjpeg).2
    have hheader : FrameHeader bytes dimensions := .inr ⟨hjpeg, hframe⟩
    have hread : jpegDimensionsFrom bytes 2 = some dimensions ↔ ReadsFrame bytes := by
      refine hiff.trans (or_congr_right ?_)
      constructor
      · exact fun hstray => ⟨dimensions, hframe, hstray⟩
      · rintro ⟨other, hother, hstray⟩
        rwa [hframe.unique hother]
    rw [← imageDimensionsFromBytes_jpeg hjpeg] at hread
    constructor
    · exact fun hlimits _ => hread.mp (hlimits.2 dimensions hheader).1
    · intro hreads
      have hsize := hread.mpr (hreads hjpeg)
      refine ⟨⟨dimensions, hheader⟩, fun other hother => ?_⟩
      obtain ⟨hother, -⟩ | ⟨-, hother⟩ := hother
      · exact absurd hother hpng
      · rw [hother.unique hframe]
        exact ⟨hsize, isSafeSize_of_validated hsize⟩
  · have hpng := h.resolve_right hjpeg
    have hsize := imageDimensionsFromBytes_png hpng
    refine iff_of_true ⟨⟨_, .inl ⟨hpng, rfl⟩⟩, fun dimensions hheader => ?_⟩
      fun haccept => absurd haccept hjpeg
    obtain ⟨-, rfl⟩ | ⟨haccept, -⟩ := hheader
    · exact ⟨hsize, isSafeSize_of_validated hsize⟩
    · exact absurd haccept hjpeg

theorem limitsFrame_tinyPng : LimitsFrame tinyPng :=
  (limitsFrame_iff tinyPng (.inl (by decide +kernel))).mpr fun h => absurd h (by decide +kernel)

def filledJpeg : List UInt8 := [0xff, 0xd8, 0xff] ++ tinyJpeg.drop 2

theorem not_limitsFrame_filledJpeg :
    completePluginVodJpeg filledJpeg = some true ∧ ¬LimitsFrame filledJpeg := by
  have hnone : imageDimensionsFromBytes filledJpeg = none := by decide +kernel
  refine ⟨by decide +kernel, ?_⟩
  rintro ⟨⟨dimensions, hheader⟩, hread⟩
  have hsize := (hread dimensions hheader).1
  rw [hnone] at hsize
  cases hsize

end Jellyrin.PluginVod
