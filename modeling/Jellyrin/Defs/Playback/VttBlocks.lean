import Jellyrin.Defs.Data.Lexicographic
import Jellyrin.Defs.Data.Separated
import Jellyrin.Defs.Playback.SrtEvents

/-! The block of a cue in a WebVTT text: what stands between blank lines, without the white space
around it. -/

namespace Jellyrin.Playback.Subtitles

open Ascii Text Separated
open Json (trim Trimmed isWhitespace)

theorem intercalate_cons_eq {α : Type} (a : α) (line : List α) (ls : List (List α)) :
    [a].intercalate (line :: ls) = line ++ ls.flatMap (a :: ·) := by
  induction ls generalizing line with
  | nil => simp [List.intercalate_singleton]
  | cons next ls ih =>
    rw [List.intercalate_cons_cons, ih, List.flatMap_cons, List.append_assoc,
      List.singleton_append, List.cons_append]

theorem milliseconds_eq_of_text_eq {timestamp other : Timestamp}
    (h : timestamp.text = other.text) : timestamp.milliseconds = other.milliseconds := by
  have hparts : timestamp.parts = other.parts := by
    rw [← timestamp.split_text, ← other.split_text, h]
  obtain ⟨hhours, hrest⟩ := List.append_inj' hparts rfl
  simp only [List.cons.injEq, and_true] at hrest
  obtain ⟨hminutes, hseconds⟩ := hrest
  have hcut : some ((zeroPadded 2 timestamp.seconds).toList,
      (zeroPadded 3 timestamp.millis).toList) =
        some ((zeroPadded 2 other.seconds).toList, (zeroPadded 3 other.millis).toList) := by
    rw [← timestamp.cutAt_seconds, ← other.cutAt_seconds, hseconds]
  simp only [Option.some.injEq, Prod.mk.injEq, String.toList_inj] at hcut
  have hhours : timestamp.hours = other.hours := by
    cases hfirst : timestamp.hours <;> cases hsecond : other.hours <;> simp_all
  rw [Timestamp.milliseconds, Timestamp.milliseconds, hhours, zeroPadded_inj.mp hminutes,
    zeroPadded_inj.mp hcut.1, zeroPadded_inj.mp hcut.2]

namespace VttCue

variable (cue : VttCue)

def block : String := trim cue.text

def front : List Char := cue.identifier.elim [] fun identifier => identifier.toList ++ ['\n']

theorem toList_text : ∃ rest, cue.text.toList =
    cue.front ++ cue.start.text.toList ++ ([' ', '-', '-'] ++ '>' :: rest) := by
  have htiming : cue.timing.toList = cue.start.text.toList ++
      ([' ', '-', '-'] ++ '>' :: (" " ++ cue.stop.text ++ cue.settings).toList) := by
    simp [timing]
  rw [text, String.toList_intercalate, textLines, front]
  cases cue.identifier with
  | none =>
    refine ⟨(" " ++ cue.stop.text ++ cue.settings).toList ++
      (cue.payload.map String.toList).flatMap ('\n' :: ·), ?_⟩
    rw [Option.toList_none, List.nil_append, List.map_cons, htiming]
    rw [show "\n".toList = ['\n'] from rfl, intercalate_cons_eq]
    simp
  | some identifier =>
    refine ⟨(" " ++ cue.stop.text ++ cue.settings).toList ++
      (cue.payload.map String.toList).flatMap ('\n' :: ·), ?_⟩
    rw [Option.toList_some, List.singleton_append, List.map_cons, List.map_cons, htiming]
    rw [show "\n".toList = ['\n'] from rfl, intercalate_cons_eq]
    simp

theorem toList_block : ∃ rest, cue.block.toList = cue.front.dropWhile isWhitespace ++
    cue.start.text.toList ++ ([' ', '-', '-'] ++ '>' :: rest) := by
  obtain ⟨rest, hrest⟩ := cue.toList_text
  have hne : cue.start.text.toList ≠ [] := by
    intro hnil
    have hlength := congrArg List.length cue.start.split_text
    rw [String.toList_eq_nil_iff.mp hnil] at hlength
    have hone : (split ':' "").length = 1 := by decide
    simp [Timestamp.parts, hone] at hlength
  refine ⟨rest.rdropWhile isWhitespace, ?_⟩
  rw [block, Json.toList_trim, hrest, rdropWhile_dropWhile_append hne
    (fun c hc => isWhitespace_of_mem_timestamp hc), rdropWhile_append_cons (by decide)]

theorem noArrow_front : ¬arrow <:+: cue.front := by
  rw [front]
  cases hidentifier : cue.identifier with
  | none => simp [arrow]
  | some identifier =>
    intro harrow
    have hwithin : ['-', '-'] ++ ['>'] <:+: identifier.toList :=
      infix_of_infix_append (by decide) harrow
    exact cue.noArrow_identifier identifier hidentifier hwithin

theorem cutAt_block : ∃ rest, cutAt arrow cue.block.toList =
    some (cue.front.dropWhile isWhitespace ++ cue.start.text.toList ++ [' '], rest) := by
  obtain ⟨rest, hrest⟩ := cue.toList_block
  refine ⟨rest, ?_⟩
  have hfirst : ¬arrow <:+: cue.front.dropWhile isWhitespace ++ cue.start.text.toList ++ [' '] ++
      arrow.dropLast := by
    have hstart : '>' ∉ cue.start.text.toList ++ [' ', '-', '-'] := by
      rw [List.mem_append, not_or]
      exact ⟨SrtCue.notMem_timestamp (by decide) (by decide) (by decide), by decide⟩
    intro harrow
    rw [List.append_assoc, List.append_assoc] at harrow
    have hfront : ['-', '-'] ++ ['>'] <:+: cue.front.dropWhile isWhitespace :=
      infix_of_infix_append hstart harrow
    exact cue.noArrow_front (hfront.trans (List.dropWhile_suffix _).isInfix)
  have hcut := cutAt_append_of_first (by decide) hfirst rest
  rw [hrest, ← hcut]
  simp [arrow]

theorem endsAt_front : EndsAt '\n' (cue.front.dropWhile isWhitespace) := by
  rw [front]
  cases cue.identifier with
  | none =>
    intro c hc
    cases hc
  | some identifier => exact endsAt_dropWhile isWhitespace identifier.toList '\n'

theorem milliseconds_eq_of_block_eq {cue other : VttCue} (h : cue.block = other.block) :
    cue.start.milliseconds = other.start.milliseconds := by
  obtain ⟨rest, hrest⟩ := cue.cutAt_block
  obtain ⟨rest', hrest'⟩ := other.cutAt_block
  rw [h, hrest'] at hrest
  obtain ⟨hbefore, -⟩ := Prod.mk.inj (Option.some.inj hrest)
  have hword : ∀ timestamp : Timestamp, '\n' ∉ timestamp.text.toList := fun _ =>
    SrtCue.notMem_timestamp (by decide) (by decide) (by decide)
  have hstart := List.append_cancel_right hbefore
  have hnil : BeginsAt '\n' [] := by
    rintro _ ⟨⟩
  have hframed := (framed_eq_iff cue.endsAt_front other.endsAt_front (hword cue.start)
    (hword other.start) hnil hnil).mp (by simpa using hstart.symm)
  obtain ⟨-, htext, -⟩ | ⟨_, -, hnil⟩ | ⟨_, -, hnil⟩ := hframed
  · exact milliseconds_eq_of_text_eq (String.toList_injective htext)
  · cases hnil
  · cases hnil

theorem exists_lines : ∃ line ls, cue.text.toList = ['\n'].intercalate (line :: ls) ∧
    (∀ line' ∈ line :: ls, '\n' ∉ line') ∧ ∀ line' ∈ ls, line' ≠ [] := by
  have hline : ∀ line ∈ cue.textLines, '\n' ∉ line.toList := by
    intro line hline
    simp only [textLines, List.mem_append, List.mem_cons] at hline
    obtain hidentifier | rfl | hpayload := hline
    · exact (cue.oneLine line (by simp [hidentifier])).1
    · exact cue.oneLine_timing.1
    · exact (cue.oneLine line (by simp [hpayload])).1
  have hne : ∀ line ∈ (cue.timing :: cue.payload).map String.toList, line ≠ [] := by
    intro line hmem
    obtain ⟨text, htext, rfl⟩ := List.mem_map.mp hmem
    rw [ne_eq, String.toList_eq_nil_iff]
    obtain rfl | hpayload := List.mem_cons.mp htext
    · exact cue.timing_ne_empty
    · exact cue.ne_empty_payload text hpayload
  have hlists : ∀ line ∈ cue.textLines.map String.toList, '\n' ∉ line := by
    intro line hmem
    obtain ⟨text, htext, rfl⟩ := List.mem_map.mp hmem
    exact hline text htext
  rw [text, String.toList_intercalate]
  rw [textLines] at hlists ⊢
  cases hidentifier : cue.identifier with
  | none =>
    rw [hidentifier] at hlists
    exact ⟨cue.timing.toList, cue.payload.map String.toList, rfl, hlists,
      fun line hmem => hne line (List.mem_cons_of_mem _ hmem)⟩
  | some identifier =>
    rw [hidentifier] at hlists
    exact ⟨identifier.toList, (cue.timing :: cue.payload).map String.toList, rfl, hlists, hne⟩

theorem noPair_text : NoPair '\n' cue.text.toList := by
  obtain ⟨line, ls, htext, hlines, hne⟩ := cue.exists_lines
  rw [htext]
  exact noPair_intercalate hlines hne

theorem getLast?_text_ne : cue.text.toList.getLast? ≠ some '\n' := by
  obtain ⟨line, ls, htext, hlines, hne⟩ := cue.exists_lines
  rw [htext]
  exact getLast?_intercalate_ne hlines hne

end VttCue

/-! Segments. -/

def segmentText (cues : List VttCue) : String :=
  "WEBVTT\n" ++ String.join (cues.map fun cue => "\n" ++ cue.text ++ "\n")

theorem blocks_cues {part : List Char} (hpair : NoPair '\n' part)
    (hlast : part.getLast? ≠ some '\n') (cues : List VttCue) :
    (splitPair '\n' (part ++ '\n' :: (String.join
      (cues.map fun cue => "\n" ++ cue.text ++ "\n")).toList)).map
        (fun part => trim (String.ofList part)) =
      trim (String.ofList part) :: cues.map VttCue.block := by
  induction cues generalizing part with
  | nil =>
    have hend : NoPair '\n' (part ++ ['\n']) := by
      rw [NoPair, List.isChain_append]
      refine ⟨hpair, List.IsChain.singleton _, ?_⟩
      intro b hb c _ hboth
      exact hlast (hboth.1 ▸ hb)
    have hblank : ∀ c ∈ ['\n'], isWhitespace c = true := List.forall_mem_singleton.mpr (by decide)
    rw [List.map_nil, List.map_nil, ← Json.trim_append_of_blank part hblank]
    exact congrArg (List.map _) (splitPair_of_noPair hend)
  | cons cue cues ih =>
    have hsplit : part ++ '\n' :: (String.join
        ((cue :: cues).map fun cue => "\n" ++ cue.text ++ "\n")).toList =
          part ++ '\n' :: '\n' :: (cue.text.toList ++ '\n' :: (String.join
            (cues.map fun cue => "\n" ++ cue.text ++ "\n")).toList) := by
      simp
    rw [hsplit, splitPair_append hpair hlast, List.map_cons,
      ih cue.noPair_text cue.getLast?_text_ne, List.map_cons, VttCue.block, String.ofList_toList]

theorem blocks_segmentText (cues : List VttCue) :
    (splitPair '\n' (segmentText cues).toList).map (fun part => trim (String.ofList part)) =
      "WEBVTT" :: cues.map VttCue.block := by
  have htext : (segmentText cues).toList = "WEBVTT".toList ++ '\n' :: (String.join
      (cues.map fun cue => "\n" ++ cue.text ++ "\n")).toList := by
    simp [segmentText]
  rw [htext, blocks_cues (noPair_of_notMem (by decide)) (by decide)]
  congr 1

end Jellyrin.Playback.Subtitles
