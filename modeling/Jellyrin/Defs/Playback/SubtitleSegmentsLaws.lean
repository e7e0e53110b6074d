import Jellyrin.Defs.Data.JsonObject
import Jellyrin.Defs.Data.Numerals
import Jellyrin.Defs.Data.Tiling
import Jellyrin.Defs.Playback.SubtitleSegments

/-! The windows of a subtitle playlist, and the cues of the responses for them. -/

namespace Jellyrin.Playback.Subtitles

open Api Ascii Text
open Json (trim Trimmed isWhitespace)

theorem saturating_eq {n : Int} (hlow : -2 ^ 63 ≤ n) (hhigh : n < 2 ^ 63) : saturating n = n := by
  rw [saturating]
  omega

theorem saturating_sum {a b c d : Int} (ha : 0 ≤ a) (hb : 0 ≤ b) (hc : 0 ≤ c) (hd : 0 ≤ d)
    (h : a + b + c + d < 2 ^ 63) :
    saturating (saturating (saturating (saturating a + saturating b) + saturating c) +
      saturating d) = a + b + c + d := by
  have hfits : ∀ {n : Int}, 0 ≤ n → n < 2 ^ 63 → saturating n = n :=
    fun hlow hhigh => saturating_eq (by omega) hhigh
  rw [hfits ha (by omega), hfits hb (by omega), hfits hc (by omega), hfits hd (by omega)]
  rw [hfits (n := a + b) (by omega) (by omega)]
  rw [hfits (n := a + b + c) (by omega) (by omega), hfits (by omega) h]

/-! Cues of a WebVTT text. -/

structure Timestamp where
  hours : Option String
  minutes : Nat
  seconds : Nat
  millis : Nat
  isNumeral_hours : ∀ text ∈ hours, IsNumeral text
  minutes_lt : minutes < 60
  seconds_lt : seconds < 60
  millis_lt : millis < 1000

namespace Timestamp

def parts (timestamp : Timestamp) : List String :=
  timestamp.hours.toList ++ [zeroPadded 2 timestamp.minutes,
    zeroPadded 2 timestamp.seconds ++ "." ++ zeroPadded 3 timestamp.millis]

def text (timestamp : Timestamp) : String := ":".intercalate timestamp.parts

def milliseconds (timestamp : Timestamp) : Nat :=
  ((timestamp.hours.elim 0 numeralValue * 60 + timestamp.minutes) * 60 + timestamp.seconds) * 1000 +
    timestamp.millis

def ticks (timestamp : Timestamp) : Int := 10000 * timestamp.milliseconds

theorem isDigit_of_mem_parts {timestamp : Timestamp} {part : String}
    (hpart : part ∈ timestamp.parts) {c : Char} (hc : c ∈ part.toList) :
    c.isDigit = true ∨ c = '.' := by
  rw [parts, List.mem_append, Option.mem_toList] at hpart
  cases hpart with
  | inl hhours => exact .inl ((timestamp.isNumeral_hours part hhours).2 c hc)
  | inr hrest =>
    simp only [List.mem_cons, List.not_mem_nil, or_false] at hrest
    obtain rfl | rfl := hrest
    · exact .inl ((isNumeral_zeroPadded _ _).2 c hc)
    · simp only [String.toList_append, List.mem_append] at hc
      obtain (hc | hc) | hc := hc
      · exact .inl ((isNumeral_zeroPadded _ _).2 c hc)
      · exact .inr (by simpa using hc)
      · exact .inl ((isNumeral_zeroPadded _ _).2 c hc)

theorem split_text (timestamp : Timestamp) : split ':' timestamp.text = timestamp.parts := by
  refine split_intercalate ':' (fun part hpart hc => ?_) (by simp [parts])
  obtain hdigit | hdot := isDigit_of_mem_parts hpart hc
  · exact absurd hdigit (by decide)
  · exact absurd hdot (by decide)

theorem cutAt_seconds (timestamp : Timestamp) :
    cutAt ['.'] (zeroPadded 2 timestamp.seconds ++ "." ++
        zeroPadded 3 timestamp.millis).toList =
      some ((zeroPadded 2 timestamp.seconds).toList, (zeroPadded 3 timestamp.millis).toList) := by
  rw [String.toList_append, String.toList_append]
  exact cutAt_append ((isNumeral_zeroPadded _ _).notMem (by decide)) _

theorem take_millis (timestamp : Timestamp) :
    String.ofList ((zeroPadded 3 timestamp.millis).toList.take 3) =
      zeroPadded 3 timestamp.millis := by
  have hdigits : (Nat.toDigits 10 timestamp.millis).length ≤ 3 :=
    (Nat.length_toDigits_le_iff (by decide) (by decide)).mpr timestamp.millis_lt
  rw [List.take_of_length_le (length_zeroPadded hdigits).le, String.ofList_toList]

theorem parseI64_zeroPadded (width : Nat) {n : Nat} (h : n < 1000) :
    parseI64 (zeroPadded width n) = some (n : Int) := by
  have hvalue := numeralValue_zeroPadded width n
  rw [parseI64_of_isNumeral (isNumeral_zeroPadded width n) (by omega), hvalue]

theorem parseVttTimestampTicks_text {timestamp : Timestamp} (h : timestamp.ticks < 2 ^ 63) :
    parseVttTimestampTicks timestamp.text = some timestamp.ticks := by
  have hminutes := parseI64_zeroPadded 2 (timestamp.minutes_lt.trans (by decide))
  have hseconds := parseI64_zeroPadded 2 (timestamp.seconds_lt.trans (by decide))
  have hmillis := parseI64_zeroPadded 3 timestamp.millis_lt
  obtain ⟨minutes_lt, seconds_lt, millis_lt⟩ :=
    (⟨timestamp.minutes_lt, timestamp.seconds_lt, timestamp.millis_lt⟩ : _ ∧ _ ∧ _)
  rw [ticks, milliseconds] at h ⊢
  rw [parseVttTimestampTicks, split_text, parts]
  cases hhours : timestamp.hours with
  | none =>
    rw [hhours] at h
    simp only [Option.elim_none, Nat.zero_mul] at h ⊢
    simp only [Option.toList_none, List.nil_append, List.reverse_cons, List.reverse_nil,
      List.cons_append, hminutes, cutAt_seconds, String.ofList_toList, hseconds, take_millis,
      hmillis, Option.bind_eq_bind, Option.bind_some, List.head?_nil, Option.elim_none,
      List.tail_nil, ne_eq, not_true_eq_false, if_false, Option.some.injEq]
    rw [saturating_sum (by omega) (by omega) (by omega) (by omega) (by omega)]
    omega
  | some hours =>
    rw [hhours] at h
    have hnumeral := timestamp.isNumeral_hours hours (hhours ▸ rfl)
    simp only [Option.elim_some] at h ⊢
    have hparse := parseI64_of_isNumeral hnumeral (by omega)
    simp only [Option.toList_some, List.cons_append, List.nil_append, List.reverse_cons,
      List.reverse_nil, hminutes, cutAt_seconds, String.ofList_toList, hseconds, take_millis,
      hmillis, hparse, Option.bind_eq_bind, Option.bind_some, List.head?_cons, Option.elim_some,
      List.tail_cons, ne_eq, not_true_eq_false, if_false, Option.some.injEq]
    rw [saturating_sum (by omega) (by omega) (by omega) (by omega) (by omega)]
    omega

end Timestamp

structure VttCue where
  identifier : Option String
  start : Timestamp
  stop : Timestamp
  settings : String
  payload : List String
  start_lt_stop : start.milliseconds < stop.milliseconds
  noArrow_identifier : ∀ line ∈ identifier, ¬"-->".toList <:+: line.toList
  oneLine : ∀ line ∈ identifier.toList ++ settings :: payload,
    '\n' ∉ line.toList ∧ '\r' ∉ line.toList
  ne_empty_payload : ∀ line ∈ payload, line ≠ ""

structure Cue where
  identifier : Option String
  startMs : Nat
  stopMs : Nat
  payload : List String
  deriving DecidableEq

def Cue.startTicks (cue : Cue) : Int := 10000 * cue.startMs

namespace VttCue

def timing (cue : VttCue) : String :=
  cue.start.text ++ " " ++ "-->" ++ (" " ++ cue.stop.text ++ cue.settings)

def textLines (cue : VttCue) : List String := cue.identifier.toList ++ cue.timing :: cue.payload

def text (cue : VttCue) : String := "\n".intercalate cue.textLines

def toCue (cue : VttCue) : Cue where
  identifier := cue.identifier
  startMs := cue.start.milliseconds
  stopMs := cue.stop.milliseconds
  payload := cue.payload

end VttCue

/-! The blocks of a text. -/

def normalizeNewlines (cs : List Char) : List Char :=
  (replaceCrlf cs).map fun c => if c = '\r' then '\n' else c

def blocks (text : String) : List String :=
  (splitPair '\n' (normalizeNewlines text.toList)).map fun part => trim (String.ofList part)

def Contains (response : String) (cue : Cue) : Prop :=
  ∃ written : VttCue, written.text ∈ blocks response ∧ written.toCue = cue

theorem normalizeNewlines_eq_self {cs : List Char} (h : '\r' ∉ cs) :
    normalizeNewlines cs = cs := by
  rw [normalizeNewlines, replaceCrlf_eq_self h]
  refine (List.map_congr_left fun c hc => ?_).trans (List.map_id _)
  rw [if_neg, id]
  exact fun heq => h (heq ▸ hc)

theorem trim_infix (part : List Char) : (trim (String.ofList part)).toList <:+: part := by
  have htrim : (trim (String.ofList part)).toList =
      (part.dropWhile isWhitespace).rdropWhile isWhitespace := by
    rw [trim, String.toList_ofList, String.toList_ofList]
    rfl
  rw [htrim]
  have hfront := List.rdropWhile_prefix (p := isWhitespace) (l := part.dropWhile isWhitespace)
  exact hfront.isInfix.trans (List.dropWhile_suffix _).isInfix

theorem getLast?_of_trimmed {text : String} (h : Trimmed text) :
    text.toList.getLast? ≠ some '\n' := by
  have hlast := List.rdropWhile_eq_self_iff.mp (Json.trimmed_iff.mp h).2
  intro hnewline
  have hne : text.toList ≠ [] := by
    rintro hnil
    rw [hnil] at hnewline
    cases hnewline
  have hend := hlast hne
  rw [List.getLast?_eq_some_getLast hne] at hnewline
  rw [Option.some.inj hnewline] at hend
  exact hend (by decide)

theorem trim_append_space {text : String} (h : ∀ c ∈ text.toList, isWhitespace c = false) :
    trim (text ++ " ") = text := by
  have hdrop : ∀ {cs : List Char}, (∀ c ∈ cs, isWhitespace c = false) →
      cs.dropWhile isWhitespace = cs := by
    intro cs hcs
    cases cs with
    | nil => rfl
    | cons c cs => rw [List.dropWhile_cons_of_neg (by simp [hcs c List.mem_cons_self])]
  have hspace : isWhitespace ' ' = true := by decide
  rw [trim, String.toList_append]
  cases hlist : text.toList with
  | nil =>
    rw [show " ".toList = [' '] from rfl, List.nil_append, List.dropWhile_cons_of_pos hspace]
    rw [← String.ofList_toList (s := text), hlist]
    rfl
  | cons c cs =>
    rw [hlist] at h
    have hc := h c List.mem_cons_self
    rw [List.cons_append, List.dropWhile_cons_of_neg (by simp [hc]), ← List.cons_append,
      show " ".toList = [' '] from rfl, List.reverse_append, List.reverse_singleton,
      List.singleton_append, List.dropWhile_cons_of_pos hspace,
      hdrop (fun d hd => h d (List.mem_reverse.mp hd)), List.reverse_reverse, ← hlist,
      String.ofList_toList]

theorem mem_timestamp_text {timestamp : Timestamp} {c : Char} (hc : c ∈ timestamp.text.toList) :
    c.isDigit = true ∨ c = '.' ∨ c = ':' := by
  obtain hcolon | ⟨part, hpart, hmem⟩ := mem_intercalate hc
  · exact .inr (.inr (List.mem_singleton.mp hcolon))
  · obtain hdigit | hdot := Timestamp.isDigit_of_mem_parts hpart hmem
    · exact .inl hdigit
    · exact .inr (.inl hdot)

namespace VttCue

variable (cue : VttCue)

theorem oneLine_timing : '\n' ∉ cue.timing.toList ∧ '\r' ∉ cue.timing.toList := by
  have hstamp : ∀ (timestamp : Timestamp) {c : Char}, c.isDigit = false → c ≠ '.' → c ≠ ':' →
      c ∉ timestamp.text.toList := by
    intro timestamp c hdigit hdot hcolon hmem
    obtain h | h | h := mem_timestamp_text hmem
    · rw [h] at hdigit
      cases hdigit
    · exact hdot h
    · exact hcolon h
  have hsettings := cue.oneLine cue.settings (by simp)
  constructor
  · have hstart := hstamp cue.start (c := '\n') (by decide) (by decide) (by decide)
    have hstop := hstamp cue.stop (c := '\n') (by decide) (by decide) (by decide)
    simp [timing, hstart, hstop, hsettings.1]
  · have hstart := hstamp cue.start (c := '\r') (by decide) (by decide) (by decide)
    have hstop := hstamp cue.stop (c := '\r') (by decide) (by decide) (by decide)
    simp [timing, hstart, hstop, hsettings.2]

theorem timing_ne_empty : cue.timing ≠ "" := by
  intro hempty
  have hlist := congrArg String.toList hempty
  simp [timing] at hlist

theorem lines_text : lines cue.text = cue.textLines := by
  refine lines_intercalate (by simp [textLines]) ?_ ?_
  · intro line hline
    simp only [textLines, List.mem_append, List.mem_cons] at hline
    obtain hidentifier | rfl | hpayload := hline
    · exact cue.oneLine line (by simp [hidentifier])
    · exact cue.oneLine_timing
    · exact cue.oneLine line (by simp [hpayload])
  · rw [textLines, List.getLast?_append_of_ne_nil _ (by simp)]
    intro hlast
    cases List.mem_cons.mp (List.mem_of_getLast? hlast) with
    | inl htiming => exact cue.timing_ne_empty htiming.symm
    | inr hpayload => exact cue.ne_empty_payload _ hpayload rfl

theorem cutAt_timing : cutAt "-->".toList cue.timing.toList =
    some ((cue.start.text ++ " ").toList, (" " ++ cue.stop.text ++ cue.settings).toList) := by
  have hdash : '-' ∉ (cue.start.text ++ " ").toList := by
    intro hmem
    rw [String.toList_append, List.mem_append] at hmem
    cases hmem with
    | inl hstart =>
      obtain h | h | h := mem_timestamp_text hstart
      · exact absurd h (by decide)
      · exact absurd h (by decide)
      · exact absurd h (by decide)
    | inr hspace => exact absurd hspace (by decide)
  have happend : cue.timing.toList = (cue.start.text ++ " ").toList ++ ['-', '-', '>'] ++
      (" " ++ cue.stop.text ++ cue.settings).toList := by
    simp [timing]
  rw [happend]
  exact cutAt_append hdash _

end VttCue

theorem cueStartTicks_eq (block : String) : cueStartTicks block =
    (lines block).findSome? fun line => (cutAt "-->".toList line.toList).bind fun parts =>
      parseVttTimestampTicks (trim (String.ofList parts.1)) := rfl

theorem cueStartTicks_text {cue : VttCue} (h : cue.start.ticks < 2 ^ 63) :
    cueStartTicks cue.text = some cue.start.ticks := by
  have hblank : ∀ c ∈ cue.start.text.toList, isWhitespace c = false := by
    intro c hc
    obtain hdigit | rfl | rfl := mem_timestamp_text hc
    · simp only [Char.isDigit, Bool.and_eq_true, decide_eq_true_eq, ge_iff_le,
        UInt32.le_iff_toNat_le] at hdigit
      have hrange : 48 ≤ c.toNat ∧ c.toNat ≤ 57 := hdigit
      simp only [isWhitespace]
      grind
    · decide
    · decide
  have htiming : (cutAt "-->".toList cue.timing.toList).bind (fun parts =>
      parseVttTimestampTicks (trim (String.ofList parts.1))) = some cue.start.ticks := by
    rw [cue.cutAt_timing, Option.bind_some]
    simp only
    rw [String.ofList_toList, trim_append_space hblank, Timestamp.parseVttTimestampTicks_text h]
  rw [cueStartTicks_eq, cue.lines_text, VttCue.textLines]
  cases hidentifier : cue.identifier with
  | none =>
    rw [Option.toList_none, List.nil_append, List.findSome?_cons, htiming]
  | some identifier =>
    have hnone := cutAt_eq_none (cue.noArrow_identifier identifier hidentifier)
    rw [Option.toList_some, List.singleton_append, List.findSome?_cons, hnone, Option.bind_none,
      List.findSome?_cons, htiming]

theorem toList_foldl_kept (keep : String → Bool) (parts : List (List Char)) (filtered : String) :
    (parts.foldl (fun filtered part =>
        let block := trim (String.ofList part)
        if keep block then filtered ++ block ++ "\n\n" else filtered) filtered).toList =
      filtered.toList ++ ((parts.map fun part => trim (String.ofList part)).filter keep).flatMap
        fun block => block.toList ++ ['\n', '\n'] := by
  induction parts generalizing filtered with
  | nil => simp
  | cons part parts ih =>
    rw [List.foldl_cons, ih, List.map_cons, List.filter_cons]
    cases hkeep : keep (trim (String.ofList part)) with
    | true => simp [hkeep]
    | false => simp [hkeep]

theorem blocks_cuesStartingInWindow {output : String} (houtput : '\r' ∉ output.toList)
    {start stop : Int} (h : start < stop) :
    blocks (subtitleVttCuesStartingInWindow output start stop) =
      "WEBVTT" :: (blocks output).filter (keptBlock start stop) ++ [""] := by
  have hnormal := replaceCrlf_eq_self houtput
  have hblocks : blocks output = (splitPair '\n' output.toList).map
      fun part => trim (String.ofList part) := by
    rw [blocks, normalizeNewlines_eq_self houtput]
  have hmem : ∀ block ∈ (blocks output).filter (keptBlock start stop), Trimmed block ∧
      NoPair '\n' block.toList ∧ '\r' ∉ block.toList := by
    intro block hblock
    rw [hblocks] at hblock
    obtain ⟨part, hpart, rfl⟩ := List.mem_map.mp (List.mem_of_mem_filter hblock)
    have hwithin := trim_infix part
    exact ⟨Json.trimmed_trim _, (noPair_of_mem_splitPair hpart).of_within hwithin,
      fun hr => houtput (mem_of_mem_splitPair hpart (hwithin.subset hr))⟩
  have htext : (subtitleVttCuesStartingInWindow output start stop).toList =
      ("WEBVTT" :: (blocks output).filter (keptBlock start stop)).flatMap
        fun block => block.toList ++ ['\n', '\n'] := by
    rw [subtitleVttCuesStartingInWindow, if_neg (by omega), hnormal, toList_foldl_kept, ← hblocks]
    rfl
  have hreturn : '\r' ∉ (subtitleVttCuesStartingInWindow output start stop).toList := by
    rw [htext, List.mem_flatMap]
    rintro ⟨block, hblock, hr⟩
    obtain hr | hr := List.mem_append.mp hr
    · cases List.mem_cons.mp hblock with
      | inl heq =>
        rw [heq] at hr
        exact absurd hr (by decide)
      | inr hkept => exact (hmem block hkept).2.2 hr
    · exact absurd hr (by decide)
  have hsplit : splitPair '\n' (subtitleVttCuesStartingInWindow output start stop).toList =
      ("WEBVTT" :: (blocks output).filter (keptBlock start stop)).map String.toList ++ [[]] := by
    rw [htext, ← splitPair_flatMap (a := '\n')
      (("WEBVTT" :: (blocks output).filter (keptBlock start stop)).map String.toList),
      List.flatMap_map]
    · intro part hpart
      obtain ⟨block, hblock, rfl⟩ := List.mem_map.mp hpart
      cases List.mem_cons.mp hblock with
      | inl heq =>
        rw [heq]
        unfold NoPair
        decide
      | inr hkept => exact (hmem block hkept).2.1
    · intro part hpart
      obtain ⟨block, hblock, rfl⟩ := List.mem_map.mp hpart
      cases List.mem_cons.mp hblock with
      | inl heq =>
        rw [heq]
        decide
      | inr hkept => exact getLast?_of_trimmed (hmem block hkept).1
  rw [blocks, normalizeNewlines_eq_self hreturn, hsplit, List.map_append, List.map_map]
  refine congrArg₂ (· ++ ·) ?_ rfl
  refine (List.map_congr_left fun block hblock => ?_).trans (List.map_id _)
  rw [Function.comp_apply, String.ofList_toList, id]
  cases List.mem_cons.mp hblock with
  | inl heq =>
    rw [heq]
    decide
  | inr hkept => exact (hmem block hkept).1

theorem mem_blocks_cuesStartingInWindow {output : String} (houtput : '\r' ∉ output.toList)
    {start stop ticks : Int} (h : start < stop) {block : String}
    (hblock : cueStartTicks block = some ticks) :
    block ∈ blocks (subtitleVttCuesStartingInWindow output start stop) ↔
      block ∈ blocks output ∧ startsWith block "X-TIMESTAMP-MAP=" = false ∧
        start ≤ ticks ∧ ticks < stop := by
  have hnone : cueStartTicks "" = none ∧ cueStartTicks "WEBVTT" = none := by decide
  have hempty : block ≠ "" := by
    rintro rfl
    rw [hnone.1] at hblock
    cases hblock
  have hheader : block ≠ "WEBVTT" := by
    rintro rfl
    rw [hnone.2] at hblock
    cases hblock
  rw [blocks_cuesStartingInWindow houtput h]
  simp [hempty, hheader, keptBlock, hblock]

theorem prefix_intercalate_iff {sep : Char} {front : List Char} (h : sep ∉ front)
    (line : List Char) (ls : List (List Char)) :
    front <+: [sep].intercalate (line :: ls) ↔ front <+: line := by
  cases ls with
  | nil => rw [List.intercalate_singleton]
  | cons next ls =>
    rw [List.intercalate_cons_cons, List.append_assoc, List.singleton_append]
    constructor
    · intro hfront
      by_cases hlength : front.length ≤ line.length
      · exact List.prefix_of_prefix_length_le hfront (List.prefix_append _ _) hlength
      · have hfirst : line ++ [sep] <+: front := by
          refine List.prefix_of_prefix_length_le ?_ hfront ?_
          · exact ⟨[sep].intercalate (next :: ls), by simp⟩
          · rw [List.length_append, List.length_singleton]
            omega
        exact absurd (hfirst.subset (by simp)) h
    · exact fun hfront => hfront.trans (List.prefix_append _ _)

theorem startsWith_text (written : VttCue) :
    startsWith written.text "X-TIMESTAMP-MAP=" =
      written.identifier.any fun identifier => startsWith identifier "X-TIMESTAMP-MAP=" := by
  have hseparator : '\n' ∉ "X-TIMESTAMP-MAP=".toList := by decide
  rw [Bool.eq_iff_iff, startsWith, VttCue.text, String.toList_intercalate, VttCue.textLines]
  cases hidentifier : written.identifier with
  | none =>
    have hdigit : ∀ c ∈ written.start.text.toList, c ≠ 'X' := by
      rintro c hc rfl
      obtain h | h | h := mem_timestamp_text hc
      · exact absurd h (by decide)
      · exact absurd h (by decide)
      · exact absurd h (by decide)
    have htiming : ¬"X-TIMESTAMP-MAP=".toList <+: written.timing.toList := by
      rintro ⟨rest, hrest⟩
      cases hlist : written.start.text.toList with
      | nil => simp [VttCue.timing, hlist] at hrest
      | cons c cs =>
        simp [VttCue.timing, hlist] at hrest
        exact hdigit c (by simp [hlist]) hrest.1.symm
    have hfront := prefix_intercalate_iff hseparator written.timing.toList
      (written.payload.map String.toList)
    simp only [Option.toList_none, List.nil_append, List.map_cons, Option.any_none,
      List.isPrefixOf_iff_prefix, Bool.false_eq_true, iff_false]
    exact fun h => htiming (hfront.mp h)
  | some identifier =>
    have hfront := prefix_intercalate_iff hseparator identifier.toList
      ((written.timing :: written.payload).map String.toList)
    simp only [Option.toList_some, List.singleton_append, List.map_cons, Option.any_some, startsWith,
      List.isPrefixOf_iff_prefix] at hfront ⊢
    exact hfront

/-! The windows. -/

variable {window : SubtitleWindow}

section Windows

variable {runtimeTicks : Int64} {segmentTicks : { ticks : Int // 0 < ticks }}

variable (runtimeTicks segmentTicks) in
theorem tiling_windowsFrom (positionTicks : Int) :
    Tiling SubtitleWindow.startTicks SubtitleWindow.endTicks
      (min runtimeTicks.toInt positionTicks)
      (windowsFrom runtimeTicks segmentTicks positionTicks) runtimeTicks.toInt := by
  fun_induction windowsFrom runtimeTicks segmentTicks positionTicks with
  | case1 positionTicks h ih =>
    have hnext := position_lt_next segmentTicks.property h
    refine ⟨?_, ?_, ih⟩
    · rw [min_eq_right h.le]
    · rw [min_eq_right h.le]
      exact lt_min h hnext
  | case2 positionTicks h => exact min_eq_left (le_of_not_gt h)

theorem whole_seconds_of_mem {positionTicks : Int} (hlow : 0 ≤ positionTicks)
    (hposition : positionTicks < runtimeTicks.toInt → 10000000 ∣ positionTicks)
    (hsegment : 10000000 ∣ segmentTicks.val)
    (h : window ∈ windowsFrom runtimeTicks segmentTicks positionTicks) :
    10000000 ∣ window.startTicks ∧
      (window.endTicks = runtimeTicks.toInt ∨ 10000000 ∣ window.endTicks) := by
  have hmax := runtimeTicks.toInt_lt
  fun_induction windowsFrom runtimeTicks segmentTicks positionTicks with
  | case1 positionTicks hbefore ih =>
    have hpositive := segmentTicks.property
    have hnext : saturating (positionTicks + segmentTicks) < runtimeTicks.toInt →
        saturating (positionTicks + segmentTicks) = positionTicks + segmentTicks := by
      rw [saturating]
      omega
    cases List.mem_cons.mp h with
    | inl heq =>
      subst heq
      refine ⟨hposition hbefore, ?_⟩
      by_cases hlast : saturating (positionTicks + segmentTicks) < runtimeTicks.toInt
      · right
        simp only
        rw [min_eq_right hlast.le, hnext hlast]
        exact Int.dvd_add (hposition hbefore) hsegment
      · exact .inl (min_eq_left (le_of_not_gt hlast))
    | inr hmem =>
      refine ih ?_ (fun hbelow => ?_) hmem
      · exact hlow.trans (position_lt_next hpositive hbefore).le
      · rw [hnext hbelow]
        exact Int.dvd_add (hposition hbefore) hsegment
  | case2 positionTicks hbefore => cases h

end Windows

/-! What FFmpeg is told. -/

def toldMilliseconds (ticks : Int) : Nat :=
  F64.nearest (F64.ofNatDiv (max ticks 0).toNat 10000000 * 10 ^ 3)

theorem formatTicksAsFfmpegSeconds_eq (ticks : Int) :
    formatTicksAsFfmpegSeconds ticks = toString (toldMilliseconds ticks / 1000) ++ "." ++
      zeroPadded 3 (toldMilliseconds ticks % 1000) := rfl

theorem abs_toldMilliseconds_sub_lt {ticks : Int} (hlow : 0 ≤ ticks) (hhigh : ticks < 2 ^ 63) :
    |(toldMilliseconds ticks : ℚ) - ticks / 10000| < 1 := by
  obtain ⟨n, rfl⟩ := Int.eq_ofNat_of_zero_le hlow
  have hn : (n : ℚ) < 2 ^ 63 := by exact_mod_cast hhigh
  have hquotient := F64.abs_ofNatDiv_sub_le n (show 0 < 10000000 by decide)
  have hpositive : 0 ≤ F64.ofNatDiv n 10000000 * 10 ^ 3 :=
    mul_nonneg (F64.round_nonneg _) (by norm_num)
  have hnearest := F64.abs_nearest_sub_le hpositive
  have hmax : (max (n : Int) 0).toNat = n := by simp
  rw [toldMilliseconds, hmax]
  rw [abs_le] at hquotient hnearest
  push_cast at hquotient ⊢
  rw [abs_lt]
  constructor <;> linarith

theorem le_toldMilliseconds {ticks : Int} (ms : Nat) (hhigh : ticks < 2 ^ 63)
    (h : 10000 * (ms : Int) ≤ ticks) : ms ≤ toldMilliseconds ticks := by
  have hclose := abs_lt.mp (abs_toldMilliseconds_sub_lt (by omega) hhigh)
  have hms : (10000 : ℚ) * ms ≤ ticks := by exact_mod_cast h
  by_contra hlt
  have hnext : (toldMilliseconds ticks : ℚ) + 1 ≤ ms := by
    exact_mod_cast Nat.succ_le_of_lt (Nat.lt_of_not_le hlt)
  linarith

theorem toldMilliseconds_eq (ms : Nat) (h : 10000 * (ms : Int) < 2 ^ 63) :
    toldMilliseconds (10000 * ms) = ms := by
  refine Nat.le_antisymm ?_ (le_toldMilliseconds ms h (le_refl _))
  have hclose := abs_lt.mp (abs_toldMilliseconds_sub_lt (by omega) h)
  push_cast at hclose
  by_contra hlt
  have hnext : (ms : ℚ) + 1 ≤ toldMilliseconds (10000 * ms) := by
    exact_mod_cast Nat.succ_le_of_lt (Nat.lt_of_not_le hlt)
  linarith

/-! The responses for the windows. -/

structure Sidecar where
  file : SubtitleFile
  cues : List Cue
  startMs_lt_stopMs : ∀ cue ∈ cues, cue.startMs < cue.stopMs
  contains : subtitlePathFormat file = some "vtt" → ∀ cue ∈ cues, Contains file.text cue

def windowArgs (file : SubtitleFile) (window : SubtitleWindow) : List String :=
  (subtitleCommand file.path 0 "vtt" window.startTicks (some window.endTicks)).args

/-- FFmpeg keeps the timestamps and writes the cues that are active in the range it is told, in
lines that end in a line feed, and none of them that starts after the range. -/
structure Extracts (cues : List Cue) (window : SubtitleWindow) (output : String) : Prop where
  noReturn : '\r' ∉ output.toList
  active : ∀ cue ∈ cues, cue.startMs < toldMilliseconds window.endTicks →
    toldMilliseconds window.startTicks < cue.stopMs → Contains output cue
  stops : ∀ cue ∈ cues, Contains output cue → cue.startMs < toldMilliseconds window.endTicks

/-- A cue that FFmpeg is told to extract in its window, and that is not taken for a header. -/
def Extractable (runtimeTicks : Int64) (cue : Cue) : Prop :=
  cue.startMs < toldMilliseconds runtimeTicks.toInt ∧
    cue.identifier.any (fun identifier => startsWith identifier "X-TIMESTAMP-MAP=") = false

variable {ffmpeg : List String → Except ApiError (Option String)}

def DeliveredOnce (ffmpeg : List String → Except ApiError (Option String)) (file : SubtitleFile)
    (windows : List SubtitleWindow) (cue : Cue) : Prop :=
  ∃! i : Nat, ∃ window response, windows[i]? = some window ∧
    windowResponse ffmpeg file window = .ok response ∧ Contains response cue

theorem contains_cuesStartingInWindow_iff {output : String} (houtput : '\r' ∉ output.toList)
    {start stop : Int} (h : start < stop) {cue : Cue} (hcue : cue.startTicks < 2 ^ 63) :
    Contains (subtitleVttCuesStartingInWindow output start stop) cue ↔
      Contains output cue ∧
        cue.identifier.any (fun identifier => startsWith identifier "X-TIMESTAMP-MAP=") = false ∧
        start ≤ cue.startTicks ∧ cue.startTicks < stop := by
  have hblock : ∀ written : VttCue, written.toCue = cue →
      (written.text ∈ blocks (subtitleVttCuesStartingInWindow output start stop) ↔
        written.text ∈ blocks output ∧
          cue.identifier.any (fun identifier => startsWith identifier "X-TIMESTAMP-MAP=") = false ∧
          start ≤ cue.startTicks ∧ cue.startTicks < stop) := by
    rintro written rfl
    rw [mem_blocks_cuesStartingInWindow houtput h (cueStartTicks_text hcue), startsWith_text]
    rfl
  constructor
  · rintro ⟨written, hmem, hwritten⟩
    obtain ⟨houtput, hrest⟩ := (hblock written hwritten).mp hmem
    exact ⟨⟨written, houtput, hwritten⟩, hrest⟩
  · rintro ⟨⟨written, hmem, hwritten⟩, hrest⟩
    exact ⟨written, (hblock written hwritten).mpr ⟨hmem, hrest⟩, hwritten⟩

theorem windowResponse_eq {file : SubtitleFile} (hstart : 0 ≤ window.startTicks)
    (h : window.startTicks < window.endTicks) {output : String}
    (houtput : ffmpeg (windowArgs file window) = .ok (some output)) :
    windowResponse ffmpeg file window =
      if subtitlePathFormat file = some "vtt" ∧ window.startTicks = 0 then .ok file.text
      else .ok (subtitleVttCuesStartingInWindow output window.startTicks window.endTicks) := by
  have hend : (some window.endTicks).filter (0 ≤ ·) = some window.endTicks := by
    simp only [Option.filter_some, decide_eq_true_eq, ite_eq_left_iff]
    omega
  rw [windowResponse, max_eq_left hstart, hend, subtitleOutputFromExternalPath]
  refine if_congr Iff.rfl rfl ?_
  rw [windowArgs] at houtput
  simp [subtitleOutputFromFfmpeg, houtput, preservesVttTimeline, bind, Except.bind]

theorem contains_output_iff {cues : List Cue} {runtimeTicks : Int64} {output : String}
    (hextracts : Extracts cues window output) (hstart : 0 ≤ window.startTicks)
    (hend : window.endTicks ≤ runtimeTicks.toInt) (hwhole : 10000000 ∣ window.startTicks ∧
      (window.endTicks = runtimeTicks.toInt ∨ 10000000 ∣ window.endTicks)) {cue : Cue}
    (hcue : cue ∈ cues) (hshown : cue.startMs < cue.stopMs)
    (hlow : window.startTicks ≤ cue.startTicks) (hhigh : cue.startTicks < window.endTicks) :
    Contains output cue ↔ cue.startMs < toldMilliseconds runtimeTicks.toInt := by
  have hmax := runtimeTicks.toInt_lt
  rw [Cue.startTicks] at hlow hhigh
  have hfrom : toldMilliseconds window.startTicks < cue.stopMs := by
    obtain ⟨seconds, hseconds⟩ := hwhole.1
    obtain ⟨n, rfl⟩ := Int.eq_ofNat_of_zero_le (show 0 ≤ seconds by omega)
    have htold := toldMilliseconds_eq (1000 * n) (by push_cast; omega)
    rw [show window.startTicks = 10000 * ((1000 * n : Nat) : Int) by push_cast; omega, htold]
    omega
  have hto : cue.startMs < toldMilliseconds window.endTicks ↔
      cue.startMs < toldMilliseconds runtimeTicks.toInt := by
    obtain hlast | ⟨seconds, hseconds⟩ := hwhole.2
    · rw [hlast]
    · obtain ⟨n, rfl⟩ := Int.eq_ofNat_of_zero_le (show 0 ≤ seconds by omega)
      have hticks : window.endTicks = 10000 * ((1000 * n : Nat) : Int) := by
        push_cast
        omega
      have hbefore : cue.startMs < 1000 * n := by omega
      have htold := toldMilliseconds_eq (1000 * n) (by omega)
      have hruntime := le_toldMilliseconds (1000 * n) hmax (by omega)
      rw [hticks, htold]
      exact iff_of_true hbefore (hbefore.trans_le hruntime)
  rw [← hto]
  exact ⟨fun hcontains => hextracts.stops cue hcue hcontains,
    fun hbefore => hextracts.active cue hcue hbefore hfrom⟩

theorem subtitlePlaylist_eq_ok {runtimeTicks segmentLength : Int64} {playlist : SubtitlePlaylist}
    (h : subtitlePlaylist (some runtimeTicks) (some segmentLength) = .ok playlist) :
    0 < runtimeTicks.toInt ∧ segmentLength.toInt * 10000000 < 2 ^ 63 ∧
      ∃ hlength : 0 < segmentLength.toInt * 10000000, playlist.windows =
        windowsFrom runtimeTicks ⟨segmentLength.toInt * 10000000, hlength⟩ 0 := by
  rw [subtitlePlaylist] at h
  split at h
  · cases h
  · rename_i runtime hfilter
    obtain ⟨rfl, hpositive⟩ : runtimeTicks = runtime ∧ 0 < runtime := by
      simpa using hfilter
    simp only at h
    split at h
    · rename_i hlength
      split at h
      · rename_i hfits
        cases h
        exact ⟨Int64.lt_iff_toInt_lt.mp hpositive, hfits, Int.mul_pos hlength (by decide), rfl⟩
      · cases h
    · cases h

section Delivery

variable {sidecar : Sidecar} {runtimeTicks : Int64} {segmentTicks : { ticks : Int // 0 < ticks }}
  {cue : Cue}

theorem windowResponse_contains_iff (hsegment : 10000000 ∣ segmentTicks.val)
    (hcue : cue ∈ sidecar.cues) (hbefore : cue.startTicks < runtimeTicks.toInt)
    (hwindow : window ∈ windowsFrom runtimeTicks segmentTicks 0)
    (hffmpeg : ∃ output, ffmpeg (windowArgs sidecar.file window) = .ok (some output) ∧
      Extracts sidecar.cues window output) :
    (∃ response, windowResponse ffmpeg sidecar.file window = .ok response ∧
        Contains response cue) ↔
      (subtitlePathFormat sidecar.file = some "vtt" ∧ window.startTicks = 0) ∨
        (window.startTicks ≤ cue.startTicks ∧ cue.startTicks < window.endTicks) ∧
          Extractable runtimeTicks cue := by
  have hmax := runtimeTicks.toInt_lt
  obtain ⟨output, houtput, hextracts⟩ := hffmpeg
  have hlow : 0 ≤ cue.startTicks := by
    rw [Cue.startTicks]
    omega
  have hruntime : 0 < runtimeTicks.toInt := hlow.trans_lt hbefore
  have htiling := tiling_windowsFrom runtimeTicks segmentTicks 0
  rw [min_eq_right hruntime.le] at htiling
  obtain ⟨hstart, hlt, hend⟩ := htiling.bounds_of_mem hwindow
  have hwhole := whole_seconds_of_mem (le_refl 0) (fun _ => Int.dvd_zero _) hsegment hwindow
  rw [windowResponse_eq hstart hlt houtput]
  by_cases hfile : subtitlePathFormat sidecar.file = some "vtt" ∧ window.startTicks = 0
  · rw [if_pos hfile]
    exact iff_of_true ⟨_, rfl, sidecar.contains hfile.1 cue hcue⟩ (.inl hfile)
  · rw [if_neg hfile]
    have hcontains := contains_cuesStartingInWindow_iff hextracts.noReturn hlt
      (hbefore.trans hmax)
    constructor
    · rintro ⟨response, heq, hresponse⟩
      rw [← Except.ok.inj heq] at hresponse
      obtain ⟨hmem, hidentifier, hfrom, hto⟩ := hcontains.mp hresponse
      exact .inr ⟨⟨hfrom, hto⟩, (contains_output_iff hextracts hstart hend hwhole hcue
        (sidecar.startMs_lt_stopMs cue hcue) hfrom hto).mp hmem, hidentifier⟩
    · rintro (hraw | ⟨⟨hfrom, hto⟩, htold, hidentifier⟩)
      · exact absurd hraw hfile
      · exact ⟨_, rfl, hcontains.mpr ⟨(contains_output_iff hextracts hstart hend hwhole hcue
          (sidecar.startMs_lt_stopMs cue hcue) hfrom hto).mpr htold, hidentifier, hfrom, hto⟩⟩

end Delivery

theorem existsUnique_or_iff {own : Nat → Prop} {raw extracted : Prop} [Decidable raw]
    (hown : ∃! i, own i) :
    (∃! i, raw ∧ i = 0 ∨ own i ∧ extracted) ↔ if raw then own 0 ∨ ¬extracted else extracted := by
  obtain ⟨i, hi, hunique⟩ := hown
  by_cases hraw : raw
  · simp only [hraw, true_and, if_true]
    constructor
    · rintro ⟨j, hj, hall⟩
      by_cases hextracted : extracted
      · refine .inl ?_
        have hzero := hall 0 (.inl rfl)
        have hplace := hall i (.inr ⟨hi, hextracted⟩)
        rwa [hzero, ← hplace]
      · exact .inr hextracted
    · rintro (hzero | hextracted)
      · refine ⟨0, .inl rfl, ?_⟩
        rintro j (heq | ⟨hj, -⟩)
        · exact heq
        · exact (hunique j hj).trans (hunique 0 hzero).symm
      · refine ⟨0, .inl rfl, ?_⟩
        rintro j (heq | ⟨-, hj⟩)
        · exact heq
        · exact absurd hj hextracted
  · simp only [hraw, false_and, false_or, if_false]
    constructor
    · rintro ⟨j, ⟨-, hextracted⟩, -⟩
      exact hextracted
    · exact fun hextracted => ⟨i, ⟨hi, hextracted⟩, fun j hj => hunique j hj.1⟩

/-- The windows follow one another up to the runtime.  A cue is delivered once if FFmpeg gets it,
unless the file goes out as it is for the first window and the cue starts in a later one. -/
theorem subtitle_cues_delivered_once_iff (sidecar : Sidecar) {runtimeTicks segmentLength : Int64}
    {playlist : SubtitlePlaylist}
    (hplaylist : subtitlePlaylist (some runtimeTicks) (some segmentLength) = .ok playlist)
    (hffmpeg : ∀ window ∈ playlist.windows, ∃ output,
      ffmpeg (windowArgs sidecar.file window) = .ok (some output) ∧
        Extracts sidecar.cues window output) :
    Tiling SubtitleWindow.startTicks SubtitleWindow.endTicks 0 playlist.windows
        runtimeTicks.toInt ∧
      ∀ cue ∈ sidecar.cues, cue.startTicks < runtimeTicks.toInt →
        (DeliveredOnce ffmpeg sidecar.file playlist.windows cue ↔
          if subtitlePathFormat sidecar.file = some "vtt" then
            cue.startTicks < segmentLength.toInt * 10000000 ∨ ¬Extractable runtimeTicks cue
          else Extractable runtimeTicks cue) := by
  obtain ⟨hruntime, hfits, hlength, hwindows⟩ := subtitlePlaylist_eq_ok hplaylist
  have htiling := tiling_windowsFrom runtimeTicks
    ⟨segmentLength.toInt * 10000000, hlength⟩ 0
  rw [min_eq_right hruntime.le, ← hwindows] at htiling
  refine ⟨htiling, fun cue hcue hbefore => ?_⟩
  have hlow : 0 ≤ cue.startTicks := by
    rw [Cue.startTicks]
    omega
  have hown := htiling.existsUnique_index hlow hbefore
  have hfirst : playlist.windows[0]? = some ⟨0, min runtimeTicks.toInt
      (segmentLength.toInt * 10000000)⟩ := by
    rw [hwindows, windowsFrom, dif_pos hruntime, Int.zero_add, saturating_eq (by omega) hfits]
    rfl
  have hzero : ∀ (i : Nat) (window : SubtitleWindow), playlist.windows[i]? = some window →
      (window.startTicks = 0 ↔ i = 0) := by
    intro i window hwindow
    constructor
    · intro hstart
      obtain ⟨j, -, hunique⟩ := htiling.existsUnique_index (le_refl (0 : Int)) hruntime
      have hlt := (htiling.bounds_of_mem (List.mem_of_getElem? hwindow)).2.1
      have hleast : (0 : Int) < min runtimeTicks.toInt (segmentLength.toInt * 10000000) :=
        lt_min hruntime hlength
      rw [hunique i ⟨window, hwindow, le_of_eq hstart, by rwa [hstart] at hlt⟩,
        hunique 0 ⟨_, hfirst, le_refl 0, hleast⟩]
    · rintro rfl
      cases hfirst.symm.trans hwindow
      rfl
  have hindex : ∀ i : Nat, (∃ window response, playlist.windows[i]? = some window ∧
      windowResponse ffmpeg sidecar.file window = .ok response ∧ Contains response cue) ↔
      subtitlePathFormat sidecar.file = some "vtt" ∧ i = 0 ∨
        (∃ window, playlist.windows[i]? = some window ∧ window.startTicks ≤ cue.startTicks ∧
          cue.startTicks < window.endTicks) ∧ Extractable runtimeTicks cue := by
    intro i
    have hresponse : ∀ window, playlist.windows[i]? = some window → _ := fun window hwindow =>
      windowResponse_contains_iff (Int.dvd_mul_left _ _) hcue hbefore
        (hwindows ▸ List.mem_of_getElem? hwindow) (hffmpeg window (List.mem_of_getElem? hwindow))
    constructor
    · rintro ⟨window, response, hwindow, hcontains⟩
      obtain ⟨hfile, hstart⟩ | ⟨hwithin, hextractable⟩ :=
        (hresponse window hwindow).mp ⟨response, hcontains⟩
      · exact .inl ⟨hfile, (hzero i window hwindow).mp hstart⟩
      · exact .inr ⟨⟨window, hwindow, hwithin⟩, hextractable⟩
    · rintro (⟨hfile, rfl⟩ | ⟨⟨window, hwindow, hwithin⟩, hextractable⟩)
      · obtain ⟨response, hcontains⟩ := (hresponse _ hfirst).mpr (.inl ⟨hfile, rfl⟩)
        exact ⟨_, response, hfirst, hcontains⟩
      · obtain ⟨response, hcontains⟩ := (hresponse window hwindow).mpr
          (.inr ⟨hwithin, hextractable⟩)
        exact ⟨window, response, hwindow, hcontains⟩
  have hplace : (∃ window, playlist.windows[0]? = some window ∧
      window.startTicks ≤ cue.startTicks ∧ cue.startTicks < window.endTicks) ↔
      cue.startTicks < segmentLength.toInt * 10000000 := by
    rw [hfirst]
    simp [hlow, hbefore]
  unfold DeliveredOnce
  simp only [hindex]
  rw [existsUnique_or_iff hown, hplace]

/-! A cue of the second window. -/

def laterCue : VttCue where
  identifier := none
  start := ⟨none, 0, 15, 0, by simp, by decide, by decide, by decide⟩
  stop := ⟨none, 0, 16, 0, by simp, by decide, by decide, by decide⟩
  settings := ""
  payload := ["later"]
  start_lt_stop := by decide
  noArrow_identifier := by simp
  oneLine := by decide
  ne_empty_payload := by decide

def laterOutput : String := "WEBVTT\n\n" ++ laterCue.text ++ "\n"

theorem contains_laterOutput : Contains laterOutput laterCue.toCue :=
  ⟨laterCue, by decide, rfl⟩

def laterVtt : Sidecar where
  file := ⟨"later.vtt", some "vtt", laterOutput⟩
  cues := [laterCue.toCue]
  startMs_lt_stopMs := by decide
  contains _ := by simpa using contains_laterOutput

def laterSrt : Sidecar where
  file := ⟨"later.srt", some "srt", "1\n00:00:15,000 --> 00:00:16,000\nlater\n"⟩
  cues := [laterCue.toCue]
  startMs_lt_stopMs := by decide
  contains hvtt := absurd hvtt (by decide)

def laterFfmpeg (args : List String) : Except ApiError (Option String) :=
  .ok (some (if "-ss" ∈ args then laterOutput else emptyWebvtt))

def laterWindows : List SubtitleWindow := [⟨0, 100000000⟩, ⟨100000000, 200000000⟩]

theorem windowsFrom_later : windowsFrom 200000000 ⟨100000000, by decide⟩ 0 = laterWindows := by
  rw [windowsFrom, dif_pos (by decide), windowsFrom, dif_pos (by decide), windowsFrom,
    dif_neg (by decide)]
  decide

theorem subtitlePlaylist_later :
    subtitlePlaylist (some 200000000) (some 10) = .ok ⟨10, laterWindows⟩ := by
  rw [← windowsFrom_later]
  rfl

theorem toldMilliseconds_later :
    toldMilliseconds 100000000 = 10000 ∧ toldMilliseconds 200000000 = 20000 :=
  ⟨toldMilliseconds_eq 10000 (by decide), toldMilliseconds_eq 20000 (by decide)⟩

theorem extractable_laterCue : Extractable 200000000 laterCue.toCue := by
  have htold : toldMilliseconds (200000000 : Int64).toInt = 20000 := toldMilliseconds_later.2
  refine ⟨?_, rfl⟩
  rw [htold]
  decide

theorem laterFfmpeg_extracts {sidecar : Sidecar} (hcues : sidecar.cues = [laterCue.toCue])
    (hpath : sidecar.file.path ≠ "-ss") (hwindow : window ∈ laterWindows) :
    ∃ output, laterFfmpeg (windowArgs sidecar.file window) = .ok (some output) ∧
      Extracts sidecar.cues window output := by
  rw [hcues]
  simp only [laterWindows, List.mem_cons, List.not_mem_nil, or_false] at hwindow
  obtain rfl | rfl := hwindow
  · have hformat : formatTicksAsFfmpegSeconds 100000000 ≠ "-ss" := by
      rw [formatTicksAsFfmpegSeconds_eq, toldMilliseconds_later.1]
      decide
    have hargs : "-ss" ∉ windowArgs sidecar.file ⟨0, 100000000⟩ := by
      have hmap : "-ss" ≠ "0:" ++ toString (0 : Int) := by decide
      simpa [windowArgs, SubtitleCommand.args, subtitleCommand, preservesVttTimeline,
        subtitleFfmpegFormat, Option.filter, hpath.symm] using ⟨hformat.symm, hmap⟩
    have hempty : ¬Contains emptyWebvtt laterCue.toCue := by
      rintro ⟨written, hmem, hwritten⟩
      have hstart : written.start.ticks = 150000000 := congrArg Cue.startTicks hwritten
      have hfits : written.start.ticks < 2 ^ 63 := by omega
      have hticks := cueStartTicks_text hfits
      have hblocks : ∀ block ∈ blocks emptyWebvtt, cueStartTicks block = none := by
        decide
      cases hticks.symm.trans (hblocks _ hmem)
    refine ⟨emptyWebvtt, by rw [laterFfmpeg, if_neg hargs], by decide, ?_, ?_⟩
    · simp [toldMilliseconds_later.1, laterCue, VttCue.toCue, Timestamp.milliseconds]
    · simpa using fun hcontains => absurd hcontains hempty
  · have hargs : "-ss" ∈ windowArgs sidecar.file ⟨100000000, 200000000⟩ := by
      simp [windowArgs, SubtitleCommand.args, subtitleCommand, preservesVttTimeline]
    refine ⟨laterOutput, by rw [laterFfmpeg, if_pos hargs], by decide, ?_, ?_⟩
    · simpa using fun _ _ => contains_laterOutput
    · simp [toldMilliseconds_later.2, laterCue, VttCue.toCue, Timestamp.milliseconds]

/-- The file is the first response, with the cue, and the second response has the cue again. -/
theorem later_cue_delivered_twice :
    ∃ playlist, subtitlePlaylist (some 200000000) (some 10) = .ok playlist ∧
      (∀ window ∈ playlist.windows, ∃ output,
        laterFfmpeg (windowArgs laterVtt.file window) = .ok (some output) ∧
          Extracts laterVtt.cues window output) ∧
      laterCue.toCue ∈ laterVtt.cues ∧ laterCue.toCue.startTicks < 200000000 ∧
      ¬DeliveredOnce laterFfmpeg laterVtt.file playlist.windows laterCue.toCue := by
  have hcue : laterCue.toCue ∈ laterVtt.cues := List.mem_singleton.mpr rfl
  have hextracts : ∀ window ∈ laterWindows, ∃ output,
      laterFfmpeg (windowArgs laterVtt.file window) = .ok (some output) ∧
        Extracts laterVtt.cues window output :=
    fun _ => laterFfmpeg_extracts rfl (by decide)
  have hbefore : laterCue.toCue.startTicks < (200000000 : Int64).toInt := by decide
  have hmem : ∀ window ∈ laterWindows, window ∈ windowsFrom 200000000 ⟨100000000, by decide⟩ 0 := by
    rw [windowsFrom_later]
    exact fun _ hwindow => hwindow
  have hresponse : ∀ window ∈ laterWindows, _ := fun window hwindow =>
    windowResponse_contains_iff (by decide) hcue hbefore (hmem window hwindow)
      (hextracts window hwindow)
  refine ⟨_, subtitlePlaylist_later, hextracts, hcue, by decide, ?_⟩
  rintro ⟨i, -, hunique⟩
  obtain ⟨first, hfirst⟩ := (hresponse ⟨0, 100000000⟩ (by decide)).mpr (.inl ⟨rfl, rfl⟩)
  obtain ⟨second, hsecond⟩ := (hresponse ⟨100000000, 200000000⟩ (by decide)).mpr
    (.inr ⟨by decide, extractable_laterCue⟩)
  have hzero := hunique 0 ⟨_, first, rfl, hfirst⟩
  have hone := hunique 1 ⟨_, second, rfl, hsecond⟩
  omega

theorem later_cue_delivered_once :
    DeliveredOnce laterFfmpeg laterSrt.file laterWindows laterCue.toCue := by
  have hcue : laterCue.toCue ∈ laterSrt.cues := List.mem_singleton.mpr rfl
  have hdelivered := (subtitle_cues_delivered_once_iff laterSrt subtitlePlaylist_later
    fun _ => laterFfmpeg_extracts rfl (by decide)).2 _ hcue (by decide)
  rw [if_neg (by decide)] at hdelivered
  exact hdelivered.mpr extractable_laterCue

end Jellyrin.Playback.Subtitles
