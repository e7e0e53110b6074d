import Jellyrin.Defs.Data.FirstsBy
import Jellyrin.Defs.Items.MediaItem
import Jellyrin.Defs.Playback.VttBlocks
import Jellyrin.Defs.Transcode.HlsLayout

/-! The subtitles of a transcode as one WebVTT document. -/

namespace Jellyrin.Playback.Subtitles

open Api Ascii Text Transcode
open Items (pathExtension)
open Json (trim Trimmed isWhitespace)

structure DirEntry where
  name : String
  text : String

structure TranscodeSession where
  subtitleStreamIndex : Option Int64
  outputPath : Path

structure TranscodeHost where
  transcodeSessionByPlaySessionId : String → Except ApiError (Option TranscodeSession)
  readDir : Path → Except ApiError (Option (List DirEntry))

def transcodeSessionSuppliesSubtitle (sessionSubtitleStreamIndex : Option Int64)
    (requestedIndex : Int64) : Bool :=
  sessionSubtitleStreamIndex == some requestedIndex

structure Combined where
  text : String
  seen : List String

def Combined.push (combined : Combined) (part : List Char) : Combined :=
  let block := trim (String.ofList part)
  if block = "" ∨ block = "WEBVTT" ∨ startsWith block "X-TIMESTAMP-MAP=" then combined
  else if (cutAt arrow block.toList).isSome ∧ block ∉ combined.seen then
    ⟨combined.text ++ block ++ "\n\n", block :: combined.seen⟩
  else combined

def nameBytes (name : String) : List Nat := (asBytes name).map UInt8.toNat

def vttPaths (entries : List DirEntry) : List DirEntry :=
  sortOn (fun entry => nameBytes entry.name)
    (entries.filter fun entry => pathExtension entry.name = some "vtt")

def combinedVtt (paths : List DirEntry) : String :=
  let combined := paths.foldl (fun combined entry =>
    (splitPair '\n' entry.text.toList).foldl Combined.push combined) ⟨"WEBVTT\n\n", []⟩
  if combined.seen = [] then emptyWebvtt else combined.text

def subtitleOutputFromTranscodeVttSegments (host : TranscodeHost) (playSessionId : Option String)
    (index : Int64) : Except ApiError (Option String) :=
  match (playSessionId.map trim).filter (· ≠ "") with
  | none => .ok none
  | some playSessionId => do
    match ← host.transcodeSessionByPlaySessionId playSessionId with
    | none => .ok none
    | some session =>
      if ¬transcodeSessionSuppliesSubtitle session.subtitleStreamIndex index then .ok none
      else
        match ← host.readDir
            (HlsTranscodeLayout.fromMediaPlaylistPath session.outputPath).sessionDir with
        | none => .ok none
        | some entries =>
          if vttPaths entries = [] then .ok none else .ok (some (combinedVtt (vttPaths entries)))

/-! Documents. -/

def vttDocument (blocks : List String) : String :=
  "WEBVTT\n\n" ++ String.join (blocks.map (· ++ "\n\n"))

theorem vttDocument_concat (blocks : List String) (block : String) :
    vttDocument (blocks ++ [block]) = vttDocument blocks ++ block ++ "\n\n" := by
  apply String.toList_injective
  simp [vttDocument]

theorem toList_vttDocument (blocks : List String) : (vttDocument blocks).toList =
    (("WEBVTT" :: blocks).map String.toList).flatMap (· ++ ['\n', '\n']) := by
  induction blocks using List.reverseRecOn with
  | nil => decide
  | append_singleton blocks block ih =>
    rw [vttDocument_concat, String.toList_append, String.toList_append, ih]
    simp

structure IsBlock (block : String) : Prop where
  noPair : NoPair '\n' block.toList
  trimmed : Trimmed block

theorem isBlock_trim {part : List Char} (h : NoPair '\n' part) :
    IsBlock (trim (String.ofList part)) where
  noPair := h.of_within ( trim_infix part)
  trimmed := Json.trimmed_trim _

theorem vttDocument_injective {blocks blocks' : List String} (h : ∀ block ∈ blocks, IsBlock block)
    (h' : ∀ block ∈ blocks', IsBlock block) (heq : vttDocument blocks = vttDocument blocks') :
    blocks = blocks' := by
  have hheader : IsBlock "WEBVTT" := ⟨noPair_of_notMem (by decide), by decide⟩
  have hsplit : ∀ {blocks : List String}, (∀ block ∈ blocks, IsBlock block) →
      splitPair '\n' (vttDocument blocks).toList =
        ("WEBVTT" :: blocks).map String.toList ++ [[]] := by
    intro blocks hblocks
    have hall := List.forall_mem_cons.mpr ⟨hheader, hblocks⟩
    rw [toList_vttDocument, splitPair_flatMap]
    · intro part hpart
      obtain ⟨block, hblock, rfl⟩ := List.mem_map.mp hpart
      exact (hall block hblock).noPair
    · intro part hpart
      obtain ⟨block, hblock, rfl⟩ := List.mem_map.mp hpart
      exact getLast?_of_trimmed (hall block hblock).trimmed
  have hparts := List.append_cancel_right ((hsplit h).symm.trans (heq ▸ hsplit h'))
  exact (List.cons.inj (List.map_injective_iff.mpr (fun _ _ => String.toList_injective) hparts)).2

/-! The loop. -/

def keepsBlock (block : String) : Bool :=
  !(block = "" || block = "WEBVTT" || startsWith block "X-TIMESTAMP-MAP=") &&
    (cutAt arrow block.toList).isSome

theorem push_eq (combined : Combined) (part : List Char) : combined.push part =
    if keepsBlock (trim (String.ofList part)) ∧ trim (String.ofList part) ∉ combined.seen then
      ⟨combined.text ++ trim (String.ofList part) ++ "\n\n",
        trim (String.ofList part) :: combined.seen⟩
    else combined := by
  rw [Combined.push, keepsBlock]
  generalize trim (String.ofList part) = block
  by_cases hheader : block = "" ∨ block = "WEBVTT" ∨ startsWith block "X-TIMESTAMP-MAP=" = true
  · have hskip : (!(decide (block = "") || decide (block = "WEBVTT") ||
        startsWith block "X-TIMESTAMP-MAP=")) = false := by
      rw [Bool.not_eq_false', Bool.or_eq_true, Bool.or_eq_true, decide_eq_true_eq,
        decide_eq_true_eq, or_assoc]
      exact hheader
    rw [if_pos hheader, hskip, Bool.false_and, if_neg (fun h => Bool.false_ne_true h.1)]
  · rw [if_neg hheader]
    obtain ⟨hempty, hweb, hmap⟩ : block ≠ "" ∧ block ≠ "WEBVTT" ∧
        startsWith block "X-TIMESTAMP-MAP=" = false := by simpa using hheader
    simp [hempty, hweb, hmap]

def keptBlocks (parts : List (List Char)) : List String :=
  firstsBy id ((parts.map fun part => trim (String.ofList part)).filter keepsBlock)

theorem foldl_push (parts : List (List Char)) :
    parts.foldl Combined.push ⟨"WEBVTT\n\n", []⟩ =
      ⟨vttDocument (keptBlocks parts), (keptBlocks parts).reverse⟩ := by
  induction parts using List.reverseRecOn with
  | nil => rfl
  | append_singleton parts part ih =>
    have hseen : ∀ block, block ∈ (keptBlocks parts).reverse ↔ block ∈
        (parts.map fun part => trim (String.ofList part)).filter keepsBlock := by
      intro block
      have hmem := @mem_map_firstsBy _ _ _ id
        ((parts.map fun part => trim (String.ofList part)).filter keepsBlock) block
      rw [List.map_id, List.map_id] at hmem
      rw [List.mem_reverse, keptBlocks, hmem]
    have hconcat : keptBlocks (parts ++ [part]) = keptBlocks parts ++
        if keepsBlock (trim (String.ofList part)) ∧
            trim (String.ofList part) ∉ (keptBlocks parts).reverse then
          [trim (String.ofList part)] else [] := by
      rw [keptBlocks, List.map_append, List.filter_append, List.map_singleton,
        List.filter_singleton]
      by_cases hkeep : keepsBlock (trim (String.ofList part)) = true
      · simp only [hkeep, cond_true, true_and, hseen, ite_not]
        rw [firstsBy_concat, List.map_id, id]
        rfl
      · rw [if_neg fun h => hkeep h.1]
        simp [hkeep, keptBlocks]
    rw [List.foldl_concat, ih, push_eq, hconcat]
    split
    · rw [vttDocument_concat, List.reverse_append]
      rfl
    · rw [List.append_nil]

theorem combinedVtt_eq (paths : List DirEntry) : combinedVtt paths =
    vttDocument (keptBlocks (paths.flatMap fun entry => splitPair '\n' entry.text.toList)) := by
  have hfold := foldl_push (paths.flatMap fun entry => splitPair '\n' entry.text.toList)
  rw [List.foldl_flatMap] at hfold
  rw [combinedVtt, hfold]
  simp only
  split
  · rename_i hnone
    rw [List.reverse_eq_nil_iff.mp hnone]
    rfl
  · rfl

/-! The segments of a transcode. -/

def mainName (i : Nat) : String := "main" ++ toString i ++ ".vtt"

section Segments

-- The cues of each segment, and the number of the last one.
variable (cues : Nat → List VttCue) (last : Nat)

def mainFile (i : Nat) : DirEntry := ⟨mainName i, segmentText (cues i)⟩

/-- The directory has the files of the segments, in any order, and no other WebVTT file. -/
def HasSegments (entries : List DirEntry) : Prop :=
  (entries.filter fun entry => pathExtension entry.name = some "vtt").Perm
    ((List.range (last + 1)).map (mainFile cues))

/-- The cues are in the order of their starts, in a segment and from segment to segment. -/
structure Continuous : Prop where
  within : ∀ i ≤ last, (cues i).Pairwise fun a b => a.start.milliseconds ≤ b.start.milliseconds
  across : ∀ i j, i < j → j ≤ last → ∀ a ∈ cues i, ∀ b ∈ cues j,
    a.start.milliseconds ≤ b.start.milliseconds

def InTimeOrder (output : String) : Prop :=
  ∃ emitted : List VttCue, output = vttDocument (emitted.map VttCue.block) ∧
    (emitted.map VttCue.block).Nodup ∧
    (∀ block, block ∈ emitted.map VttCue.block ↔ ∃ i ≤ last, ∃ cue ∈ cues i, cue.block = block) ∧
    emitted.Pairwise fun a b => a.start.milliseconds ≤ b.start.milliseconds

/-- No segment whose file is sorted before that of an earlier one starts a cue after a cue that
is not in a file before that one. -/
def NoneGoesBack : Prop :=
  ∀ i ≤ last, ∀ j ≤ last, i < j → nameBytes (mainName j) < nameBytes (mainName i) →
    ∀ a ∈ cues j, ∀ b ∈ cues i,
      (∀ k ≤ last, nameBytes (mainName k) < nameBytes (mainName i) →
        b.block ∉ (cues k).map VttCue.block) →
      a.start.milliseconds ≤ b.start.milliseconds

variable {cues last}

theorem nameBytes_mainName_injective {i j : Nat}
    (h : nameBytes (mainName i) = nameBytes (mainName j)) : i = j := by
  have hbytes := List.map_injective_iff.mpr (fun _ _ => UInt8.toNat_inj.mp) h
  have hname : ("main" ++ toString i ++ ".vtt").toList = ("main" ++ toString j ++ ".vtt").toList :=
    congrArg String.toList (asBytes_inj.mp hbytes)
  simp only [String.toList_append, List.append_assoc] at hname
  have hdigits := List.append_cancel_right (List.append_cancel_left hname)
  exact toString_injective (String.toList_injective hdigits)

theorem vttPaths_eq {entries : List DirEntry} (h : HasSegments cues last entries) :
    ∃ order : List Nat, vttPaths entries = order.map (mainFile cues) ∧
      (∀ i, i ∈ order ↔ i ≤ last) ∧
      order.Pairwise fun i j => nameBytes (mainName i) < nameBytes (mainName j) := by
  have hnames : ((List.range (last + 1)).map fun i => nameBytes (mainName i)).Nodup :=
    List.nodup_range.map fun _ _ => nameBytes_mainName_injective
  have hperm := sortOn_perm (fun i => nameBytes (mainName i)) (List.range (last + 1))
  have hsorted := pairwise_lt_sortOn hnames
  refine ⟨sortOn (fun i => nameBytes (mainName i)) (List.range (last + 1)), ?_, ?_, hsorted⟩
  · exact sortOn_eq ((hperm.map (mainFile cues)).trans h.symm)
      (List.pairwise_map.mpr (hsorted.imp id))
  · intro i
    rw [mem_sortOn, List.mem_range, Nat.lt_succ_iff]

theorem isBlock_block (cue : VttCue) : IsBlock cue.block := by
  have h := isBlock_trim cue.noPair_text
  rwa [String.ofList_toList] at h

theorem keepsBlock_block (cue : VttCue) :
    keepsBlock cue.block = !startsWith cue.block "X-TIMESTAMP-MAP=" := by
  obtain ⟨rest, hrest⟩ := cue.toList_block
  obtain ⟨after, hcut⟩ := cue.cutAt_block
  have hmem : '>' ∈ cue.block.toList := by
    rw [hrest]
    simp
  have hne : ∀ text : String, '>' ∉ text.toList → cue.block ≠ text := by
    rintro text htext heq
    exact htext (heq ▸ hmem)
  rw [keepsBlock, hcut]
  simp [hne "" (by decide), hne "WEBVTT" (by decide)]

theorem keptBlocks_order (order : List Nat) :
    keptBlocks ((order.map (mainFile cues)).flatMap fun entry => splitPair '\n' entry.text.toList) =
      firstsBy id (((order.flatMap cues).map VttCue.block).filter keepsBlock) := by
  have hheader : keepsBlock "WEBVTT" = false := by decide
  rw [keptBlocks, List.flatMap_map, List.map_flatMap]
  congr 1
  induction order with
  | nil => rfl
  | cons i order ih =>
    rw [List.flatMap_cons, List.flatMap_cons, List.filter_append, ih, List.map_append,
      List.filter_append]
    congr 1
    rw [mainFile, blocks_segmentText, List.filter_cons_of_neg (by simp [hheader])]

theorem rowsInOrder_iff (hcontinuous : Continuous cues last) {order : List Nat}
    (hmem : ∀ i, i ∈ order ↔ i ≤ last) :
    RowsInOrder VttCue.block (fun cue => cue.start.milliseconds)
      (fun i => nameBytes (mainName i)) cues order ↔ NoneGoesBack cues last := by
  constructor
  · intro h i hi j hj _ hbefore a ha b hb hnew
    exact h i ((hmem i).mpr hi) j ((hmem j).mpr hj) hbefore a ha b hb
      fun k hk => hnew k ((hmem k).mp hk)
  · intro h i hi j hj hbefore a ha b hb hnew
    obtain hlt | rfl | hgt := Nat.lt_trichotomy i j
    · exact h i ((hmem i).mp hi) j ((hmem j).mp hj) hlt hbefore a ha b hb
        fun k hk => hnew k ((hmem k).mpr hk)
    · exact absurd hbefore (lt_irrefl _)
    · exact hcontinuous.across j i hgt ((hmem i).mp hi) a ha b hb

theorem map_milliseconds_eq {emitted emitted' : List VttCue}
    (h : emitted.map VttCue.block = emitted'.map VttCue.block) :
    emitted.map (fun cue => cue.start.milliseconds) =
      emitted'.map fun cue => cue.start.milliseconds := by
  induction emitted generalizing emitted' with
  | nil =>
    cases emitted' with
    | nil => rfl
    | cons cue emitted' => cases h
  | cons cue emitted ih =>
    cases emitted' with
    | nil => cases h
    | cons cue' emitted' =>
      obtain ⟨hblock, hrest⟩ := List.cons.inj h
      rw [List.map_cons, List.map_cons, ih hrest, VttCue.milliseconds_eq_of_block_eq hblock]

theorem inTimeOrder_iff (hcontinuous : Continuous cues last) {order : List Nat}
    (hmem : ∀ i, i ∈ order ↔ i ≤ last)
    (horder : order.Pairwise fun i j => nameBytes (mainName i) < nameBytes (mainName j)) :
    InTimeOrder cues last (combinedVtt (order.map (mainFile cues))) ↔
      (∀ i ≤ last, ∀ cue ∈ cues i, startsWith cue.block "X-TIMESTAMP-MAP=" = false) ∧
        NoneGoesBack cues last := by
  have hcue : ∀ cue, cue ∈ order.flatMap cues ↔ ∃ i ≤ last, cue ∈ cues i := by
    intro cue
    simp only [List.mem_flatMap, hmem]
  have hpairwise : (firstsBy VttCue.block (order.flatMap cues)).Pairwise
      (fun a b => a.start.milliseconds ≤ b.start.milliseconds) ↔
        RowsInOrder VttCue.block (fun cue => cue.start.milliseconds)
          (fun i => nameBytes (mainName i)) cues order :=
    pairwise_firstsBy_flatMap_iff horder (fun i hi => hcontinuous.within i ((hmem i).mp hi))
      VttCue.milliseconds_eq_of_block_eq
  rw [rowsInOrder_iff hcontinuous hmem] at hpairwise
  rw [← hpairwise, combinedVtt_eq, keptBlocks_order]
  -- without headers the blocks are those of the first cues
  have hkept : (∀ i ≤ last, ∀ cue ∈ cues i, startsWith cue.block "X-TIMESTAMP-MAP=" = false) →
      firstsBy id (((order.flatMap cues).map VttCue.block).filter keepsBlock) =
        (firstsBy VttCue.block (order.flatMap cues)).map VttCue.block := by
    intro hheader
    rw [List.filter_eq_self.mpr, firstsBy_map]
    intro block hblock
    obtain ⟨cue, hmemcue, rfl⟩ := List.mem_map.mp hblock
    obtain ⟨i, hi, hmemcue⟩ := (hcue cue).mp hmemcue
    rw [keepsBlock_block, hheader i hi cue hmemcue]
    rfl
  constructor
  · rintro ⟨emitted, houtput, -, hall, hsorted⟩
    have hblocks := vttDocument_injective (fun block hblock => ?_) (fun block hblock => ?_) houtput
    · have hheader : ∀ i ≤ last, ∀ cue ∈ cues i,
          startsWith cue.block "X-TIMESTAMP-MAP=" = false := by
        intro i hi cue hmemcue
        have hshown := (hall cue.block).mpr ⟨i, hi, cue, hmemcue, rfl⟩
        rw [← hblocks] at hshown
        have hkeeps := (List.mem_filter.mp ((firstsBy_sublist id _).mem hshown)).2
        rwa [keepsBlock_block, Bool.not_eq_true'] at hkeeps
      refine ⟨hheader, ?_⟩
      rw [hkept hheader] at hblocks
      rw [← List.pairwise_map (R := (· ≤ ·)), map_milliseconds_eq hblocks, List.pairwise_map]
      exact hsorted
    · obtain ⟨hblock, -⟩ := List.mem_filter.mp ((firstsBy_sublist id _).mem hblock)
      obtain ⟨cue, -, rfl⟩ := List.mem_map.mp hblock
      exact isBlock_block cue
    · obtain ⟨cue, -, rfl⟩ := List.mem_map.mp hblock
      exact isBlock_block cue
  · rintro ⟨hheader, hsorted⟩
    refine ⟨firstsBy VttCue.block (order.flatMap cues), by rw [hkept hheader], nodup_firstsBy, ?_,
      hsorted⟩
    intro block
    rw [mem_map_firstsBy, List.mem_map]
    constructor
    · rintro ⟨cue, hmemcue, rfl⟩
      obtain ⟨i, hi, hmemcue⟩ := (hcue cue).mp hmemcue
      exact ⟨i, hi, cue, hmemcue, rfl⟩
    · rintro ⟨i, hi, cue, hmemcue, rfl⟩
      exact ⟨cue, (hcue cue).mpr ⟨i, hi, hmemcue⟩, rfl⟩

theorem noneGoesBack_of_le_nine (h : last ≤ 9) : NoneGoesBack cues last := by
  have hnames : ∀ i ≤ 9, ∀ j ≤ 9, i < j → ¬nameBytes (mainName j) < nameBytes (mainName i) := by
    decide
  intro i hi j hj hij hbefore
  exact absurd hbefore (hnames i (hi.trans h) j (hj.trans h) hij)

theorem vttPaths_ne_nil {entries : List DirEntry} (h : HasSegments cues last entries) :
    vttPaths entries ≠ [] := by
  obtain ⟨order, hpaths, hmem, -⟩ := vttPaths_eq h
  rw [hpaths, ne_eq, List.map_eq_nil_iff]
  intro hnil
  have hzero := (hmem 0).mpr (Nat.zero_le _)
  rw [hnil] at hzero
  cases hzero

theorem hasSegments_append {others : List DirEntry}
    (h : ∀ entry ∈ others, pathExtension entry.name ≠ some "vtt") :
    HasSegments cues last (others ++ (List.range (last + 1)).map (mainFile cues)) := by
  have hmain : ∀ i, pathExtension (mainName i) = some "vtt" := by
    intro i
    have hname : (mainName i).toList = ("main".toList ++ (toString i).toList) ++
        ['.', 'v', 't', 't'] := by
      simp [mainName]
    have hslash : '/' ∉ (mainName i).toList := by
      rw [hname]
      simp only [List.mem_append, not_or]
      exact ⟨⟨by decide, fun hmem => absurd (isDigit_of_mem_toString hmem) (by decide)⟩,
        by decide⟩
    have hlong : ∀ text : String, text.toList.length < 4 → mainName i ≠ text := by
      rintro text hlength rfl
      rw [hname] at hlength
      simp at hlength
      omega
    have hcomponents : Items.pathComponents (mainName i) = [mainName i] := by
      rw [Items.pathComponents, split_of_notMem hslash, List.filter_cons_of_pos, List.filter_nil]
      simp [hlong "" (by decide), hlong "." (by decide)]
    rw [pathExtension, hcomponents]
    simp only [List.getLast?_singleton, Option.filter_some, hlong ".." (by decide), ne_eq,
      not_false_eq_true, decide_true, if_true, Option.bind_eq_bind, Option.bind_some, hname,
      List.rtakeWhile, List.rdropWhile, List.reverse_append]
    simp
  rw [HasSegments, List.filter_append, List.filter_eq_nil_iff.mpr fun entry hentry => by
    simpa using h entry hentry, List.nil_append, List.filter_eq_self.mpr]
  intro entry hentry
  obtain ⟨i, -, rfl⟩ := List.mem_map.mp hentry
  exact decide_eq_true (hmain i)

theorem subtitleOutputFromTranscodeVttSegments_eq {host : TranscodeHost} {playSessionId : String}
    {index : Int64} {session : TranscodeSession} {entries : List DirEntry}
    (hid : trim playSessionId ≠ "")
    (hsession : host.transcodeSessionByPlaySessionId (trim playSessionId) = .ok (some session))
    (hindex : session.subtitleStreamIndex = some index)
    (hdir : host.readDir (HlsTranscodeLayout.fromMediaPlaylistPath session.outputPath).sessionDir =
      .ok (some entries)) (hne : vttPaths entries ≠ []) :
    subtitleOutputFromTranscodeVttSegments host (some playSessionId) index =
      .ok (some (combinedVtt (vttPaths entries))) := by
  have hsupplies : transcodeSessionSuppliesSubtitle session.subtitleStreamIndex index = true := by
    rw [transcodeSessionSuppliesSubtitle, hindex, beq_self_eq_true]
  rw [subtitleOutputFromTranscodeVttSegments, Option.map_some, Option.filter_some,
    if_pos (by simpa using hid)]
  simp only [hsession, hdir, hsupplies, bind, Except.bind]
  rw [if_neg (by simp), if_neg hne]

/-- The document of a session that has the subtitle is in time order exactly if no cue is taken
for a header and no file is sorted before one whose cues it does not come before. -/
theorem vttSegments_inTimeOrder_iff {host : TranscodeHost} {playSessionId : String}
    {index : Int64} {session : TranscodeSession} {entries : List DirEntry}
    (hid : trim playSessionId ≠ "")
    (hsession : host.transcodeSessionByPlaySessionId (trim playSessionId) = .ok (some session))
    (hindex : session.subtitleStreamIndex = some index)
    (hdir : host.readDir (HlsTranscodeLayout.fromMediaPlaylistPath session.outputPath).sessionDir =
      .ok (some entries))
    (hsegments : HasSegments cues last entries) (hcontinuous : Continuous cues last) :
    (∃ output, subtitleOutputFromTranscodeVttSegments host (some playSessionId) index =
        .ok (some output) ∧ InTimeOrder cues last output) ↔
      (∀ i ≤ last, ∀ cue ∈ cues i, startsWith cue.block "X-TIMESTAMP-MAP=" = false) ∧
        NoneGoesBack cues last := by
  have houtput := subtitleOutputFromTranscodeVttSegments_eq hid hsession hindex hdir
    (vttPaths_ne_nil hsegments)
  obtain ⟨order, hpaths, hmem, horder⟩ := vttPaths_eq hsegments
  rw [← inTimeOrder_iff hcontinuous hmem horder, houtput, hpaths]
  simp

end Segments

def shownHost (entries : List DirEntry) : TranscodeHost where
  transcodeSessionByPlaySessionId _ := .ok (some ⟨some 2, ["play", "main.m3u8"]⟩)
  readDir _ := .ok (some entries)

def mainPlaylist : List DirEntry := [⟨"main.m3u8", "#EXTM3U\n"⟩]

theorem isNumeral_one : ∀ text ∈ some "01", IsNumeral text := by
  rintro _ ⟨⟩
  exact ⟨by decide, forall_mem_of_all (by decide)⟩

def lastCue : VttCue :=
  { laterCue with
    start := ⟨some "01", 6, 45, 7, isNumeral_one, by decide, by decide, by decide⟩
    stop := ⟨some "01", 6, 46, 7, isNumeral_one, by decide, by decide, by decide⟩
    start_lt_stop := by decide }

def cuesIn (first second : Nat) (i : Nat) : List VttCue :=
  if i = first then [laterCue] else if i = second then [lastCue] else []

theorem continuous_cuesIn {first second last : Nat} (h : first < second) :
    Continuous (cuesIn first second) last where
  within i _ := by
    rw [cuesIn]
    split
    · exact List.pairwise_singleton _ _
    · split
      · exact List.pairwise_singleton _ _
      · exact List.Pairwise.nil
  across i j hij _ a ha b hb := by
    simp only [cuesIn] at ha hb
    have hle : laterCue.start.milliseconds ≤ lastCue.start.milliseconds := by decide
    split at ha
    · split at hb
      · omega
      · split at hb
        · cases List.mem_singleton.mp ha
          cases List.mem_singleton.mp hb
          exact hle
        · cases hb
    · split at ha
      · rw [if_neg (by omega), if_neg (by omega)] at hb
        cases hb
      · cases ha

theorem startsWith_cuesIn {first second i : Nat} {cue : VttCue} (h : cue ∈ cuesIn first second i) :
    startsWith cue.block "X-TIMESTAMP-MAP=" = false := by
  rw [cuesIn] at h
  split at h
  · cases List.mem_singleton.mp h
    decide
  · split at h
    · cases List.mem_singleton.mp h
      decide
    · cases h

theorem twoSegments_inTimeOrder : ∃ output,
    subtitleOutputFromTranscodeVttSegments (shownHost (mainPlaylist ++
      (List.range 2).map (mainFile (cuesIn 0 1)))) (some "play") 2 = .ok (some output) ∧
        InTimeOrder (cuesIn 0 1) 1 output := by
  refine (vttSegments_inTimeOrder_iff (by decide) rfl rfl rfl (hasSegments_append (by decide))
    (continuous_cuesIn (by decide))).mpr ⟨fun i _ cue hcue => startsWith_cuesIn hcue, ?_⟩
  exact noneGoesBack_of_le_nine (by decide)

theorem elevenSegments_not_inTimeOrder :
    HasSegments (cuesIn 2 10) 10 (mainPlaylist ++ (List.range 11).map (mainFile (cuesIn 2 10))) ∧
      Continuous (cuesIn 2 10) 10 ∧
      ¬∃ output, subtitleOutputFromTranscodeVttSegments (shownHost (mainPlaylist ++
        (List.range 11).map (mainFile (cuesIn 2 10)))) (some "play") 2 = .ok (some output) ∧
          InTimeOrder (cuesIn 2 10) 10 output := by
  have hsegments : HasSegments (cuesIn 2 10) 10
      (mainPlaylist ++ (List.range 11).map (mainFile (cuesIn 2 10))) :=
    hasSegments_append (by decide)
  have hcontinuous : Continuous (cuesIn 2 10) 10 := continuous_cuesIn (by decide)
  refine ⟨hsegments, hcontinuous, ?_⟩
  obtain ⟨order, hpaths, hmem, horder⟩ := vttPaths_eq hsegments
  rw [subtitleOutputFromTranscodeVttSegments_eq (by decide) rfl rfl rfl
    (vttPaths_ne_nil hsegments), hpaths]
  rintro ⟨output, houtput, hinorder⟩
  cases houtput
  obtain ⟨-, hback⟩ := (inTimeOrder_iff hcontinuous hmem horder).mp hinorder
  have hblocks : laterCue.block ≠ lastCue.block := by decide
  have hle := hback 2 (by decide) 10 (by decide) (by decide) (by decide) lastCue (by simp [cuesIn])
    laterCue (by simp [cuesIn]) fun k _ hk hmem => by
      rw [cuesIn] at hmem
      split at hmem
      · rename_i heq
        rw [heq] at hk
        exact lt_irrefl _ hk
      · split at hmem
        · exact hblocks (List.mem_singleton.mp hmem)
        · cases hmem
  exact absurd hle (by decide)

end Jellyrin.Playback.Subtitles
