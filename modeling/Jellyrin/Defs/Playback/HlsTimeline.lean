import Jellyrin.Defs.Playback.OnDemandHls

/-! The segments of a seekable playlist and the numbers that a seek is asked by. -/

namespace Jellyrin.Playback.Timeline

open Transcode OnDemand

def checked (n : Int) : Option Int := if -2 ^ 63 ≤ n ∧ n < 2 ^ 63 then some n else none

def segmentTicks : Int := hlsSegmentTicks.toInt

structure HlsSegment where
  id : UInt32
  /-- `runtimeTicks` of its URI. -/
  startTicks : Int
  /-- `actualSegmentLengthTicks` of its URI. -/
  lengthTicks : Int
  deriving DecidableEq

structure SeekablePlaylist where
  /-- The offset of `EXT-X-START`. -/
  startTicks : Option Int
  segments : List HlsSegment
  deriving DecidableEq

def hlsStartSegmentNumber (startPositionTicks : Int64) : UInt32 :=
  let segment := max startPositionTicks.toInt 0 / segmentTicks
  if segment < 2 ^ 32 then UInt32.ofNat segment.toNat else UInt32.ofNat (2 ^ 32 - 1)

def newHlsTranscodeRequest (inputPath outputPlaylistPath segmentPatternPath : String)
    (selection : TranscodeStreamSelection) (videoThreads : Option UInt16)
    (videoPreset : H264Preset) : HlsTranscodeRequest where
  inputPath
  outputPlaylistPath
  segmentPatternPath
  selection
  includeVideo := true
  videoMode := .encode
  audioMode := .encode
  startPositionTicks := 0
  durationTicks := none
  hlsStartNumber := none
  outputTsOffsetTicks := none
  eventPlaylist := false
  hlsListSize := 0
  hlsDeleteThreshold := none
  hlsDeleteSegments := false
  hlsOmitEndlist := false
  hlsTempFile := false
  maxVideoWidth := none
  maxVideoHeight := none
  videoBitrate := none
  videoProfile := none
  videoLevel := none
  maxVideoFrameRateMillihertz := none
  videoThreads
  videoPreset
  audioBitrate := none
  audioProfile := none
  audioChannels := none
  segmentTimeSeconds := defaultHlsSegmentTimeSeconds
  burnInSubtitle := false
  teletextPage := none
  inputReadratePercent := none
  inputReadrateInitialBurstSeconds := none

def startedAt (request : HlsTranscodeRequest) (startTicks : Int64) : HlsTranscodeRequest :=
  { request with startPositionTicks := startTicks }

def alignHlsRequestSegmentTimeline (request : HlsTranscodeRequest) : HlsTranscodeRequest :=
  let initialSegmentId := hlsStartSegmentNumber request.startPositionTicks
  if initialSegmentId = 0 then request
  else
    let alignedStartTicks := hlsSegmentStartPositionTicks initialSegmentId
    { request with
      hlsStartNumber := some initialSegmentId
      outputTsOffsetTicks := some alignedStartTicks
      startPositionTicks := alignedStartTicks }

def hlsEffectiveStartPositionTicks (startPositionTicks : Int) (runtimeTicks : Option Int) : Int :=
  let startPositionTicks := max startPositionTicks 0
  match runtimeTicks.map (max · 0) with
  | none => startPositionTicks
  | some runtimeTicks =>
    if runtimeTicks ≤ 0 then startPositionTicks
    else min startPositionTicks (max (runtimeTicks - segmentTicks) 0)

def renderSegments (runtimeTicks : Int) : Nat → Nat → Option (List HlsSegment)
  | 0, _ => some []
  | left + 1, id =>
    -- Numbers are of 32 bits; the loop breaks at others.
    if 2 ^ 32 ≤ id then some []
    else do
      let segmentStartTicks ← checked (id * segmentTicks)
      let remainingTicks ← checked (runtimeTicks - segmentStartTicks)
      let segmentLengthTicks := max (min remainingTicks segmentTicks) 0
      let segments ← renderSegments runtimeTicks left (id + 1)
      if segmentLengthTicks ≤ 0 then return segments
      else return ⟨UInt32.ofNat id, segmentStartTicks, segmentLengthTicks⟩ :: segments

def renderSeekableHlsMediaPlaylistFor (startPositionTicks runtimeTicks : Int64) :
    Option (Option SeekablePlaylist) :=
  if runtimeTicks.toInt ≤ 0 then some none
  else do
    let sum ← checked (runtimeTicks.toInt + segmentTicks)
    let rounded ← checked (sum - 1)
    let segmentCount := max (rounded / segmentTicks) 1
    let effectiveStartTicks :=
      hlsEffectiveStartPositionTicks startPositionTicks.toInt (some runtimeTicks.toInt)
    let segments ← renderSegments runtimeTicks.toInt segmentCount.toNat 0
    return some
      { startTicks := if 0 < effectiveStartTicks then some effectiveStartTicks else none
        segments }

end Jellyrin.Playback.Timeline

/-! Where the playlist, the seeks and the writer agree on one timeline. -/

namespace Jellyrin.Playback.Timeline

open Transcode OnDemand

theorem segmentTicks_eq : segmentTicks = 30000000 := by decide

theorem checked_eq_some {n : Int} (hlow : -2 ^ 63 ≤ n) (hhigh : n < 2 ^ 63) :
    checked n = some n := if_pos ⟨hlow, hhigh⟩

theorem checked_eq_none {n : Int} (h : 2 ^ 63 ≤ n) : checked n = none :=
  if_neg fun hn => absurd hn.2 (Int.not_lt.mpr h)

/-! Segments. -/

def segmentAt (runtimeTicks : Int) (id : Nat) : HlsSegment :=
  ⟨UInt32.ofNat id, id * segmentTicks, min (runtimeTicks - id * segmentTicks) segmentTicks⟩

theorem renderSegments_eq {runtimeTicks : Int} (hruntime : runtimeTicks < 2 ^ 63) (left id : Nat)
    (h : ∀ n : Nat, n < id + left → n * segmentTicks < runtimeTicks) :
    renderSegments runtimeTicks left id =
      some ((List.range' id (min left (2 ^ 32 - id))).map (segmentAt runtimeTicks)) := by
  induction left generalizing id with
  | zero => simp [renderSegments]
  | succ left ih =>
    by_cases hid : 2 ^ 32 ≤ id
    · rw [renderSegments, if_pos hid, Nat.sub_eq_zero_of_le hid]
      rfl
    · have hlt := h id (by omega)
      rw [segmentTicks_eq] at hlt
      have hstart : checked (id * segmentTicks) = some (id * segmentTicks) := by
        rw [segmentTicks_eq]
        exact checked_eq_some (by omega) (by omega)
      have hremaining : checked (runtimeTicks - id * segmentTicks) =
          some (runtimeTicks - id * segmentTicks) := by
        rw [segmentTicks_eq]
        exact checked_eq_some (by omega) (by omega)
      have hlength : max (min (runtimeTicks - id * segmentTicks) segmentTicks) 0 =
          min (runtimeTicks - id * segmentTicks) segmentTicks := by
        rw [segmentTicks_eq]
        omega
      have hpositive : ¬min (runtimeTicks - id * segmentTicks) segmentTicks ≤ 0 := by
        rw [segmentTicks_eq]
        omega
      have hrest := ih (id + 1) fun n hn => h n (by omega)
      have hcount : min (left + 1) (2 ^ 32 - id) = min left (2 ^ 32 - (id + 1)) + 1 := by omega
      simp only [renderSegments, if_neg hid, hstart, hremaining, hrest, Option.bind_eq_bind,
        Option.bind_some, hlength, if_neg hpositive, hcount, List.range'_succ, List.map_cons]
      rfl

def segmentCount (runtimeTicks : Int) : Nat := ((runtimeTicks + segmentTicks - 1) / segmentTicks).toNat

theorem lt_segmentCount_iff {runtimeTicks : Int} {n : Nat} :
    n < segmentCount runtimeTicks ↔ n * segmentTicks < runtimeTicks := by
  rw [segmentCount, segmentTicks_eq]
  omega

section Render

variable {startTicks runtimeTicks : Int64}

theorem renderSeekable_eq_none (h : 2 ^ 63 ≤ runtimeTicks.toInt + segmentTicks) :
    renderSeekableHlsMediaPlaylistFor startTicks runtimeTicks = none := by
  have hpositive : ¬runtimeTicks.toInt ≤ 0 := by
    rw [segmentTicks_eq] at h
    omega
  rw [renderSeekableHlsMediaPlaylistFor, if_neg hpositive, checked_eq_none h]
  rfl

variable (startTicks) in
theorem renderSeekable_eq (hpositive : 0 < runtimeTicks.toInt)
    (h : runtimeTicks.toInt + segmentTicks < 2 ^ 63) :
    ∃ offset : Option Int, (∀ ticks ∈ offset, 0 ≤ ticks ∧ ticks < runtimeTicks.toInt) ∧
      renderSeekableHlsMediaPlaylistFor startTicks runtimeTicks = some (some
        ⟨offset, (List.range (min (segmentCount runtimeTicks.toInt) (2 ^ 32))).map
          (segmentAt runtimeTicks.toInt)⟩) := by
  have hsum : checked (runtimeTicks.toInt + segmentTicks) =
      some (runtimeTicks.toInt + segmentTicks) := by
    rw [segmentTicks_eq] at h ⊢
    exact checked_eq_some (by omega) h
  have hrounded : checked (runtimeTicks.toInt + segmentTicks - 1) =
      some (runtimeTicks.toInt + segmentTicks - 1) := by
    rw [segmentTicks_eq] at h ⊢
    exact checked_eq_some (by omega) (by omega)
  have hcount : (max ((runtimeTicks.toInt + segmentTicks - 1) / segmentTicks) 1).toNat =
      segmentCount runtimeTicks.toInt := by
    rw [segmentCount, segmentTicks_eq]
    omega
  have hsegments := renderSegments_eq (Int64.toInt_lt runtimeTicks)
    (segmentCount runtimeTicks.toInt) 0 fun n hn =>
      lt_segmentCount_iff.mp (by omega)
  have heffective : 0 ≤ hlsEffectiveStartPositionTicks startTicks.toInt (some runtimeTicks.toInt) ∧
      hlsEffectiveStartPositionTicks startTicks.toInt (some runtimeTicks.toInt) <
        runtimeTicks.toInt := by
    rw [hlsEffectiveStartPositionTicks, segmentTicks_eq]
    simp only [Option.map_some]
    rw [if_neg (by omega)]
    omega
  refine ⟨if 0 < hlsEffectiveStartPositionTicks startTicks.toInt (some runtimeTicks.toInt) then
    some (hlsEffectiveStartPositionTicks startTicks.toInt (some runtimeTicks.toInt)) else none,
    ?_, ?_⟩
  rotate_left
  · simp only [renderSeekableHlsMediaPlaylistFor, if_neg (Int.not_le.mpr hpositive), hsum, hrounded,
      Option.bind_eq_bind, Option.bind_some, hcount, hsegments, Nat.sub_zero,
      List.range_eq_range']
    rfl
  · intro ticks hticks
    split at hticks
    · cases hticks
      exact heffective
    · cases hticks

end Render

/-! Seeks. -/

theorem toInt_hlsSegmentStartPositionTicks (id : UInt32) :
    (hlsSegmentStartPositionTicks id).toInt = id.toNat * segmentTicks := by
  have hid := id.toNat_lt
  have hticks : hlsSegmentTicks.toInt = 30000000 := segmentTicks_eq
  rw [hlsSegmentStartPositionTicks, segmentTicks_eq, hticks, Int64.toInt_ofInt_of_le (by omega)
    (by omega)]
  omega

theorem hlsStartSegmentNumber_eq {ticks : Int64} {id : Nat} (hid : id < 2 ^ 32)
    (hlow : id * segmentTicks ≤ ticks.toInt) (hhigh : ticks.toInt < id * segmentTicks + segmentTicks) :
    hlsStartSegmentNumber ticks = UInt32.ofNat id := by
  rw [segmentTicks_eq] at hlow hhigh
  have hsegment : max ticks.toInt 0 / segmentTicks = id := by
    rw [segmentTicks_eq]
    omega
  rw [hlsStartSegmentNumber]
  simp only [hsegment]
  rw [if_pos (by omega), Int.toNat_natCast]

theorem hlsStartSegmentNumber_of_gt {ticks : Int64} (h : 2 ^ 32 * segmentTicks ≤ ticks.toInt) :
    hlsStartSegmentNumber ticks = UInt32.ofNat (2 ^ 32 - 1) := by
  rw [segmentTicks_eq] at h
  rw [hlsStartSegmentNumber, if_neg]
  rw [segmentTicks_eq]
  omega

/-- A request is started at the boundary of the segment that it writes first, which FFmpeg calls 0
unless it is told, and shifts its output by as much. -/
def StartsAtBoundary (requestedTicks : Int64) (request : HlsTranscodeRequest) : Prop :=
  request.startPositionTicks.toInt = (request.hlsStartNumber.getD 0).toNat * segmentTicks ∧
    request.startPositionTicks.toInt ≤ requestedTicks.toInt ∧
    requestedTicks.toInt - request.startPositionTicks.toInt ≤ segmentTicks ∧
    request.outputTsOffsetTicks.getD 0 = request.startPositionTicks

theorem startsAtBoundary_align_iff {request : HlsTranscodeRequest}
    (hnumber : request.hlsStartNumber = none) (hoffset : request.outputTsOffsetTicks = none) :
    StartsAtBoundary request.startPositionTicks (alignHlsRequestSegmentTimeline request) ↔
      request.startPositionTicks = 0 ∨ segmentTicks ≤ request.startPositionTicks.toInt ∧
        request.startPositionTicks.toInt ≤ 2 ^ 32 * segmentTicks := by
  obtain ⟨ticks, hticks⟩ : ∃ ticks, ticks = request.startPositionTicks := ⟨_, rfl⟩
  rw [StartsAtBoundary, alignHlsRequestSegmentTimeline, ← hticks]
  by_cases hlow : ticks.toInt < segmentTicks
  · -- The number is 0, and nothing is done.
    have hzero : hlsStartSegmentNumber ticks = 0 := by
      have hsegment : max ticks.toInt 0 / segmentTicks = 0 := by
        rw [segmentTicks_eq] at hlow ⊢
        omega
      rw [hlsStartSegmentNumber]
      simp only [hsegment]
      rfl
    simp only [hzero, if_true, hnumber, hoffset, Option.getD_none, ← hticks]
    have hstart : ticks = 0 ↔ ticks.toInt = 0 :=
      ⟨fun h => by rw [h]; rfl, fun h => Int64.toInt_inj.mp (h.trans rfl)⟩
    rw [hstart]
    have hfirst : (0 : UInt32).toNat * segmentTicks = 0 := by decide
    rw [hfirst]
    constructor
    · exact fun h => .inl h.1
    · rintro (h | ⟨h, -⟩)
      · exact ⟨h, le_rfl, by rw [segmentTicks_eq]; omega, (hstart.mpr h).symm⟩
      · exact absurd hlow (Int.not_lt.mpr h)
  · obtain ⟨id, hid, hnumber⟩ : ∃ id : Nat, (id = if ticks.toInt < 2 ^ 32 * segmentTicks then
        (ticks.toInt / segmentTicks).toNat else 2 ^ 32 - 1) ∧
        hlsStartSegmentNumber ticks = UInt32.ofNat id := by
      refine ⟨_, rfl, ?_⟩
      split
      · rename_i hhigh
        rw [segmentTicks_eq] at hlow hhigh
        refine hlsStartSegmentNumber_eq ?_ ?_ ?_
        all_goals rw [segmentTicks_eq]; omega
      · rename_i hhigh
        exact hlsStartSegmentNumber_of_gt (Int.not_lt.mp hhigh)
    have hlt : id < 2 ^ 32 := by
      rw [hid, segmentTicks_eq]
      split <;> omega
    have hpositive : 0 < id := by
      rw [segmentTicks_eq] at hlow
      rw [hid, segmentTicks_eq]
      split <;> omega
    have htoNat : (UInt32.ofNat id).toNat = id := UInt32.toNat_ofNat_of_lt' hlt
    have hne : UInt32.ofNat id ≠ 0 := by
      intro h
      rw [h] at htoNat
      exact absurd htoNat (Nat.ne_of_lt hpositive)
    have hstart : ticks ≠ 0 := by
      rintro rfl
      exact hlow (by decide)
    rw [hnumber, if_neg hne]
    simp only [Option.getD_some, toInt_hlsSegmentStartPositionTicks, htoNat, and_true, true_and,
      hstart, false_or]
    rw [hid, segmentTicks_eq]
    rw [segmentTicks_eq] at hlow
    split <;> omega

def HlsSegment.contains (segment : HlsSegment) (ticks : Int) : Prop :=
  segment.startTicks ≤ ticks ∧ ticks < segment.startTicks + segment.lengthTicks

/-- The segments are numbered in order and tile the runtime, and a seek finds each by its number. -/
structure Tiles (runtimeTicks : Int64) (playlist : SeekablePlaylist) : Prop where
  numbered : playlist.segments.map (·.id.toNat) = List.range playlist.segments.length
  within : ∀ segment ∈ playlist.segments, ∀ ticks, segment.contains ticks →
    0 ≤ ticks ∧ ticks < runtimeTicks.toInt
  covers : ∀ ticks, 0 ≤ ticks → ticks < runtimeTicks.toInt →
    ∃! segment, segment ∈ playlist.segments ∧ segment.contains ticks
  found : ∀ segment ∈ playlist.segments,
    (hlsSegmentStartPositionTicks segment.id).toInt = segment.startTicks ∧
      ∀ ticks : Int64, segment.contains ticks.toInt → hlsStartSegmentNumber ticks = segment.id
  offset : ∀ ticks ∈ playlist.startTicks, ∃ segment ∈ playlist.segments, segment.contains ticks

section Tiles

variable {runtimeTicks : Int64} {offset : Option Int}

theorem contains_segmentAt_iff {runtimeTicks ticks : Int} {id : Nat} :
    (segmentAt runtimeTicks id).contains ticks ↔
      id * segmentTicks ≤ ticks ∧ ticks < id * segmentTicks + segmentTicks ∧
        ticks < runtimeTicks := by
  rw [HlsSegment.contains, segmentAt]
  constructor <;> intro h <;> simp only at h ⊢ <;> omega

theorem mem_segments_iff {segment : HlsSegment} :
    segment ∈ (List.range (min (segmentCount runtimeTicks.toInt) (2 ^ 32))).map
        (segmentAt runtimeTicks.toInt) ↔
      ∃ id : Nat, id < 2 ^ 32 ∧ id * segmentTicks < runtimeTicks.toInt ∧
        segment = segmentAt runtimeTicks.toInt id := by
  rw [List.mem_map]
  constructor
  · rintro ⟨id, hid, rfl⟩
    have hid := List.mem_range.mp hid
    exact ⟨id, by omega, lt_segmentCount_iff.mp (by omega), rfl⟩
  · rintro ⟨id, hid, hlt, rfl⟩
    have hcount := lt_segmentCount_iff.mpr hlt
    exact ⟨id, List.mem_range.mpr (by omega), rfl⟩

theorem existsUnique_segment {ticks : Int} (hlow : 0 ≤ ticks) (hhigh : ticks < runtimeTicks.toInt)
    (hmax : ticks < 2 ^ 32 * segmentTicks) :
    ∃! segment, segment ∈ (List.range (min (segmentCount runtimeTicks.toInt) (2 ^ 32))).map
      (segmentAt runtimeTicks.toInt) ∧ segment.contains ticks := by
  have hquotient : ((ticks / segmentTicks).toNat : Int) = ticks / segmentTicks := by
    rw [segmentTicks_eq]
    omega
  refine ⟨segmentAt runtimeTicks.toInt (ticks / segmentTicks).toNat,
    ⟨mem_segments_iff.mpr ⟨_, ?_, ?_, rfl⟩, contains_segmentAt_iff.mpr ⟨?_, ?_, hhigh⟩⟩, ?_⟩
  · rw [segmentTicks_eq] at hmax ⊢
    omega
  · rw [hquotient, segmentTicks_eq]
    omega
  · rw [hquotient, segmentTicks_eq]
    omega
  · rw [hquotient, segmentTicks_eq]
    omega
  · rintro segment ⟨hsegment, hcontains⟩
    obtain ⟨id, -, -, rfl⟩ := mem_segments_iff.mp hsegment
    obtain ⟨hstart, hend, -⟩ := contains_segmentAt_iff.mp hcontains
    have hid : id = (ticks / segmentTicks).toNat := by
      rw [segmentTicks_eq] at hstart hend ⊢
      omega
    rw [hid]

theorem tiles_of_le (h : runtimeTicks.toInt ≤ 2 ^ 32 * segmentTicks)
    (hoffset : ∀ ticks ∈ offset, 0 ≤ ticks ∧ ticks < runtimeTicks.toInt) :
    Tiles runtimeTicks ⟨offset, (List.range (min (segmentCount runtimeTicks.toInt) (2 ^ 32))).map
      (segmentAt runtimeTicks.toInt)⟩ where
  numbered := by
    rw [List.length_map, List.length_range, List.map_map]
    refine (List.map_congr_left fun id hid => ?_).trans (List.map_id _)
    have hid := (List.mem_range.mp hid).trans_le (Nat.min_le_right _ _)
    exact UInt32.toNat_ofNat_of_lt' hid
  within := by
    intro segment hsegment ticks hcontains
    obtain ⟨id, -, -, rfl⟩ := mem_segments_iff.mp hsegment
    obtain ⟨hstart, -, hend⟩ := contains_segmentAt_iff.mp hcontains
    rw [segmentTicks_eq] at hstart
    exact ⟨by omega, hend⟩
  covers ticks hlow hhigh := existsUnique_segment hlow hhigh (by omega)
  found := by
    intro segment hsegment
    obtain ⟨id, hid, -, rfl⟩ := mem_segments_iff.mp hsegment
    constructor
    · rw [toInt_hlsSegmentStartPositionTicks, segmentAt, UInt32.toNat_ofNat_of_lt' hid]
    · intro ticks hcontains
      obtain ⟨hstart, hend, -⟩ := contains_segmentAt_iff.mp hcontains
      exact hlsStartSegmentNumber_eq hid hstart hend
  offset := by
    intro ticks hticks
    obtain ⟨hlow, hhigh⟩ := hoffset ticks hticks
    exact (existsUnique_segment hlow hhigh (by omega)).exists

theorem not_tiles_of_lt (h : 2 ^ 32 * segmentTicks < runtimeTicks.toInt) :
    ¬Tiles runtimeTicks ⟨offset, (List.range (min (segmentCount runtimeTicks.toInt) (2 ^ 32))).map
      (segmentAt runtimeTicks.toInt)⟩ := by
  intro htiles
  obtain ⟨segment, ⟨hsegment, hcontains⟩, -⟩ := htiles.covers (2 ^ 32 * segmentTicks) (by decide) h
  obtain ⟨id, hid, -, rfl⟩ := mem_segments_iff.mp hsegment
  obtain ⟨-, hend, -⟩ := contains_segmentAt_iff.mp hcontains
  rw [segmentTicks_eq] at hend
  omega

end Tiles

/-- The playlist is rendered without an overflow and tiles the runtime, and a new request for the
position is aligned with it. -/
def KeepsOneTimeline (runtimeTicks startTicks : Int64) : Prop :=
  (∃ playlist, renderSeekableHlsMediaPlaylistFor startTicks runtimeTicks = some (some playlist) ∧
    Tiles runtimeTicks playlist) ∧
  ∀ inputPath outputPlaylistPath segmentPatternPath selection videoThreads videoPreset,
    StartsAtBoundary startTicks (alignHlsRequestSegmentTimeline (startedAt
      (newHlsTranscodeRequest inputPath outputPlaylistPath segmentPatternPath selection
        videoThreads videoPreset) startTicks))

/-- The segments end with the numbers of 32 bits, and a start within the first segment is not
aligned. -/
theorem one_hls_timeline_iff {runtimeTicks startTicks : Int64} (h : 0 < runtimeTicks.toInt) :
    KeepsOneTimeline runtimeTicks startTicks ↔
      runtimeTicks.toInt ≤ 2 ^ 32 * segmentTicks ∧
        (startTicks = 0 ∨ segmentTicks ≤ startTicks.toInt ∧
          startTicks.toInt ≤ 2 ^ 32 * segmentTicks) := by
  refine and_congr ?_ ?_
  · by_cases hoverflow : 2 ^ 63 ≤ runtimeTicks.toInt + segmentTicks
    · rw [renderSeekable_eq_none hoverflow]
      rw [segmentTicks_eq] at hoverflow ⊢
      refine iff_of_false ?_ (by omega)
      rintro ⟨playlist, hplaylist, -⟩
      cases hplaylist
    · obtain ⟨offset, hoffset, hplaylist⟩ := renderSeekable_eq startTicks h
        (Int.not_le.mp hoverflow)
      rw [hplaylist]
      constructor
      · rintro ⟨playlist, hsame, htiles⟩
        cases hsame
        by_contra hlt
        exact not_tiles_of_lt (Int.not_le.mp hlt) htiles
      · exact fun hle => ⟨_, rfl, tiles_of_le hle hoffset⟩
  · have hrequest : ∀ request : HlsTranscodeRequest, request.hlsStartNumber = none →
        request.outputTsOffsetTicks = none →
        (StartsAtBoundary startTicks (alignHlsRequestSegmentTimeline (startedAt request startTicks)) ↔
          startTicks = 0 ∨ segmentTicks ≤ startTicks.toInt ∧
            startTicks.toInt ≤ 2 ^ 32 * segmentTicks) :=
      fun request hnumber hoffset => startsAtBoundary_align_iff
        (show (startedAt request startTicks).hlsStartNumber = none from hnumber) hoffset
    constructor
    · exact fun hall => (hrequest _ rfl rfl).mp (hall "" "" "" ⟨none, none, none⟩ none .fast)
    · exact fun hstart _ _ _ _ _ _ => (hrequest _ rfl rfl).mpr hstart

theorem one_hls_timeline_of_two_hours : KeepsOneTimeline 72000000000 400000000 :=
  (one_hls_timeline_iff (by decide)).mpr ⟨by decide, by decide⟩

/-- A start at the first second is left there and written as the start of segment 0. -/
theorem start_in_first_segment_is_not_aligned :
    ∃ request : HlsTranscodeRequest,
      request = startedAt (newHlsTranscodeRequest "movie.mkv" "main.m3u8" "segment_%05d.ts"
        ⟨none, none, none⟩ none .fast) 10000000 ∧
      (alignHlsRequestSegmentTimeline request).startPositionTicks = 10000000 ∧
      (alignHlsRequestSegmentTimeline request).hlsStartNumber = none ∧
      (alignHlsRequestSegmentTimeline request).outputTsOffsetTicks = none ∧
      renderSeekableHlsMediaPlaylistFor 0 (2 ^ 63 - 1) = none :=
  ⟨_, rfl, by decide, by decide, by decide, by decide +kernel⟩

end Jellyrin.Playback.Timeline
