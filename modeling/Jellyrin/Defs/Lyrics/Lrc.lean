import Jellyrin.Defs.Data.FirstsBy
import Jellyrin.Defs.Data.Lexicographic
import Jellyrin.Defs.Playback.SubtitleSegmentsLaws

/-! Lyrics with time tags. -/

namespace Jellyrin.Lyrics

open Ascii Text
open Json (trim Trimmed isWhitespace)
open Playback.Subtitles (saturating saturating_eq)

def fractionTicks (fraction : List Char) : Option Int :=
  let digits := (fraction.take 7).filter Char.isDigit
  if digits = [] then some 0
  else (parseI64 (String.ofList digits)).map fun n => saturating (n * 10 ^ (7 - digits.length))

def parseLrcTimestampTicks (value : String) : Option Int := do
  let (minutes, rest) ← cutAt [':'] value.toList
  let minutes ← parseI64 (String.ofList minutes)
  let (seconds, fraction) := ((cutAt ['.'] rest).or (cutAt [','] rest)).getD (rest, [])
  let seconds ← parseI64 (String.ofList seconds)
  if seconds < 0 ∨ 60 ≤ seconds then none
  else
    let fraction ← fractionTicks fraction
    some (saturating (saturating (saturating (saturating (minutes * 60) + seconds) * 10000000) +
      fraction))

theorem length_after_lt {stripped tag rest : List Char}
    (h : cutAt [']'] stripped = some (tag, rest)) :
    (rest.dropWhile isWhitespace).length < stripped.length + 1 := by
  have hlength := congrArg List.length (cutAt_eq_some h)
  have hdrop := (List.dropWhile_suffix (l := rest) isWhitespace).length_le
  simp only [List.length_append, List.length_singleton] at hlength
  omega

/-- The tags in front of a line, and what is left behind them.  The first tag that is no time is
dropped, and ends the loop. -/
def peelTags : List Char → List Int × List Char
  | '[' :: stripped =>
    match _h : cutAt [']'] stripped with
    | none => ([], '[' :: stripped)
    | some (tag, rest) =>
      match parseLrcTimestampTicks (String.ofList tag) with
      | some start =>
        let (starts, remainder) := peelTags (rest.dropWhile isWhitespace)
        (start :: starts, remainder)
      | none => ([], rest.dropWhile isWhitespace)
  | remainder => ([], remainder)
termination_by remainder => remainder.length
decreasing_by exact length_after_lt _h

structure LyricLine where
  text : String
  start : Int
  deriving DecidableEq

def lyricLines (rawLine : String) : List LyricLine :=
  let (starts, remainder) := peelTags (trim rawLine).toList
  let text := trim (String.ofList remainder)
  if text = "" then [] else starts.map fun start => ⟨text, start⟩

def parseLrcLyricsLines (text : String) : List LyricLine :=
  sortOn LyricLine.start ((lines text).flatMap lyricLines)

/-! The grammar of a line. -/

inductive Peels : List Char → List (List Char) → List Char → Prop
  | time : ']' ∉ tag → (parseLrcTimestampTicks (String.ofList tag)).isSome →
      Peels (rest.dropWhile isWhitespace) tags remainder →
      Peels ('[' :: (tag ++ [']'] ++ rest)) (tag :: tags) remainder
  | other : ']' ∉ tag → parseLrcTimestampTicks (String.ofList tag) = none →
      Peels ('[' :: (tag ++ [']'] ++ rest)) [] (rest.dropWhile isWhitespace)
  | unclosed : ']' ∉ rest → Peels ('[' :: rest) [] ('[' :: rest)
  | text : rest.head? ≠ some '[' → Peels rest [] rest

theorem peelTags_closed {tag : List Char} (h : ']' ∉ tag) (rest : List Char) :
    peelTags ('[' :: (tag ++ [']'] ++ rest)) =
      match parseLrcTimestampTicks (String.ofList tag) with
      | some start => (start :: (peelTags (rest.dropWhile isWhitespace)).1,
          (peelTags (rest.dropWhile isWhitespace)).2)
      | none => ([], rest.dropWhile isWhitespace) := by
  rw [peelTags]
  split
  · rename_i hcut
    rw [cutAt_append h] at hcut
    cases hcut
  · rename_i tag' rest' hcut
    rw [cutAt_append h] at hcut
    cases hcut
    rfl

theorem peelTags_unclosed {rest : List Char} (h : ']' ∉ rest) :
    peelTags ('[' :: rest) = ([], '[' :: rest) := by
  have hcut : cutAt [']'] rest = none :=
    cutAt_eq_none fun hwithin => h (hwithin.subset List.mem_cons_self)
  rw [peelTags]
  split
  · rfl
  · rename_i hsome
    rw [hcut] at hsome
    cases hsome

theorem peelTags_text {rest : List Char} (h : rest.head? ≠ some '[') :
    peelTags rest = ([], rest) := by
  rw [peelTags]
  rintro stripped rfl
  exact h rfl

theorem Peels.peelTags_eq {cs remainder : List Char} {tags : List (List Char)}
    (h : Peels cs tags remainder) :
    peelTags cs = (tags.filterMap fun tag => parseLrcTimestampTicks (String.ofList tag),
      remainder) := by
  induction h with
  | time htag htime _ ih =>
    obtain ⟨start, hstart⟩ := Option.isSome_iff_exists.mp htime
    rw [peelTags_closed htag, hstart, ih, List.filterMap_cons]
    simp only [hstart]
  | other htag hnone => rw [peelTags_closed htag, hnone, List.filterMap_nil]
  | unclosed hrest => rw [peelTags_unclosed hrest, List.filterMap_nil]
  | text hrest => rw [peelTags_text hrest, List.filterMap_nil]

theorem exists_peels (cs : List Char) : ∃ tags remainder, Peels cs tags remainder := by
  fun_induction peelTags cs with
  | case1 stripped hcut => exact ⟨[], _, .unclosed (notMem_of_cutAt_eq_none hcut)⟩
  | case2 stripped tag rest hcut start hstart starts remainder hpeel ih =>
    obtain ⟨tags, remainder, hpeels⟩ := ih
    rw [cutAt_eq_some hcut]
    exact ⟨tag :: tags, remainder,
      .time (notMem_of_cutAt_eq_some hcut) (by rw [hstart]; rfl) hpeels⟩
  | case3 stripped tag rest hcut hnone =>
    rw [cutAt_eq_some hcut]
    exact ⟨[], _, .other (notMem_of_cutAt_eq_some hcut) hnone⟩
  | case4 rest hne =>
    refine ⟨[], rest, .text ?_⟩
    intro hhead
    obtain ⟨stripped, rfl⟩ := List.head?_eq_some_iff.mp hhead
    exact hne stripped rfl

/-! Times. -/

theorem fractionTicks_eq (fraction : List Char) : ∃ n : Nat, n < 10 ^ 7 ∧
    n = Nat.ofDigitChars 10 ((fraction.take 7).filter Char.isDigit) 0 *
      10 ^ (7 - ((fraction.take 7).filter Char.isDigit).length) ∧
    fractionTicks fraction = some (n : Int) := by
  have hlength : ((fraction.take 7).filter Char.isDigit).length ≤ 7 :=
    (List.length_filter_le _ _).trans (List.length_take_le 7 fraction)
  have hdigit : ∀ c ∈ (fraction.take 7).filter Char.isDigit, c.isDigit = true :=
    fun c hc => (List.mem_filter.mp hc).2
  rw [fractionTicks]
  generalize (fraction.take 7).filter Char.isDigit = digits at hlength hdigit ⊢
  have hvalue := ofDigitChars_lt_pow hdigit
  have hscaled : Nat.ofDigitChars 10 digits 0 * 10 ^ (7 - digits.length) < 10 ^ 7 := by
    calc Nat.ofDigitChars 10 digits 0 * 10 ^ (7 - digits.length)
        < 10 ^ digits.length * 10 ^ (7 - digits.length) :=
          Nat.mul_lt_mul_of_pos_right hvalue (Nat.pow_pos (by decide))
      _ = 10 ^ 7 := by rw [← Nat.pow_add, Nat.add_sub_cancel' hlength]
  refine ⟨_, hscaled, rfl, ?_⟩
  by_cases hempty : digits = []
  · rw [if_pos hempty, hempty]
    rfl
  · have hnumeral : IsNumeral (String.ofList digits) :=
      ⟨fun heq => hempty (by simpa using heq), by simpa using hdigit⟩
    have hnumber : numeralValue (String.ofList digits) = Nat.ofDigitChars 10 digits 0 := by
      rw [numeralValue, String.toList_ofList]
    have hsmall : Nat.ofDigitChars 10 digits 0 < 2 ^ 63 :=
      hvalue.trans (lt_of_le_of_lt (Nat.pow_le_pow_right (by decide) hlength) (by decide))
    rw [if_neg hempty, parseI64_of_isNumeral hnumeral (hnumber ▸ hsmall), hnumber, Option.map_some]
    have hcast : (Nat.ofDigitChars 10 digits 0 : Int) * 10 ^ (7 - digits.length) =
        ((Nat.ofDigitChars 10 digits 0 * 10 ^ (7 - digits.length) : Nat) : Int) := by
      push_cast
      rfl
    rw [hcast, saturating_eq (by omega) (by omega)]

def tagMinutes (tag : List Char) : Option Int :=
  (cutAt [':'] tag).bind fun parts => parseI64 (String.ofList parts.1)

theorem exists_of_parseLrcTimestampTicks {tag : List Char} {start : Int}
    (h : parseLrcTimestampTicks (String.ofList tag) = some start) :
    ∃ minutes seconds fraction : Int, tagMinutes tag = some minutes ∧
      (0 ≤ seconds ∧ seconds < 60) ∧ (0 ≤ fraction ∧ fraction < 10 ^ 7) ∧
      start = saturating (saturating (saturating (saturating (minutes * 60) + seconds) *
        10000000) + fraction) := by
  rw [parseLrcTimestampTicks, String.toList_ofList] at h
  simp only [Option.bind_eq_bind] at h
  obtain ⟨⟨minutesText, rest⟩, hcut, h⟩ := Option.bind_eq_some_iff.mp h
  obtain ⟨minutes, hminutes, h⟩ := Option.bind_eq_some_iff.mp h
  obtain ⟨seconds, -, h⟩ := Option.bind_eq_some_iff.mp h
  split at h
  · cases h
  · rename_i hrange
    obtain ⟨fraction, hfraction, h⟩ := Option.bind_eq_some_iff.mp h
    obtain ⟨n, hn, -, heq⟩ := fractionTicks_eq _
    rw [heq] at hfraction
    cases hfraction
    refine ⟨minutes, seconds, n, ?_, by omega, ⟨by omega, by exact_mod_cast hn⟩,
      (Option.some.inj h).symm⟩
    rw [tagMinutes, hcut, Option.bind_some, hminutes]

theorem exists_minutes {tag : List Char} {start : Int}
    (h : parseLrcTimestampTicks (String.ofList tag) = some start) :
    ∃ minutes, tagMinutes tag = some minutes ∧ (0 ≤ start ↔ 0 ≤ minutes) := by
  obtain ⟨minutes, seconds, fraction, hminutes, hseconds, hfraction, rfl⟩ :=
    exists_of_parseLrcTimestampTicks h
  refine ⟨minutes, hminutes, ?_⟩
  simp only [saturating]
  omega

theorem start_lt {tag : List Char} {start : Int}
    (h : parseLrcTimestampTicks (String.ofList tag) = some start) : start < 2 ^ 63 := by
  obtain ⟨minutes, seconds, fraction, -, -, -, rfl⟩ := exists_of_parseLrcTimestampTicks h
  rw [saturating]
  omega

/-! Lines. -/

theorem mem_lyricLines {rawLine : String} {tags : List (List Char)} {remainder : List Char}
    (h : Peels (trim rawLine).toList tags remainder) {line : LyricLine} :
    line ∈ lyricLines rawLine ↔ trim (String.ofList remainder) ≠ "" ∧
      line.text = trim (String.ofList remainder) ∧
      ∃ tag ∈ tags, parseLrcTimestampTicks (String.ofList tag) = some line.start := by
  rw [lyricLines, h.peelTags_eq]
  simp only
  split
  · rename_i hempty
    simp [hempty]
  · rename_i hne
    rw [List.mem_map]
    constructor
    · rintro ⟨start, hstart, rfl⟩
      exact ⟨hne, rfl, List.mem_filterMap.mp hstart⟩
    · rintro ⟨-, htext, hstart⟩
      exact ⟨line.start, List.mem_filterMap.mpr hstart, by rw [← htext]⟩

theorem Peels.isSome {cs remainder : List Char} {tags : List (List Char)}
    (h : Peels cs tags remainder) :
    ∀ tag ∈ tags, (parseLrcTimestampTicks (String.ofList tag)).isSome := by
  induction h with
  | time _ htime _ ih => exact List.forall_mem_cons.mpr ⟨htime, ih⟩
  | other => simp
  | unclosed => simp
  | text => simp

theorem mem_parseLrcLyricsLines {text : String} {line : LyricLine} :
    line ∈ parseLrcLyricsLines text ↔ ∃ rawLine ∈ lines text, line ∈ lyricLines rawLine := by
  rw [parseLrcLyricsLines, mem_sortOn, List.mem_flatMap]

theorem start_lt_of_mem {text : String} {line : LyricLine} (h : line ∈ parseLrcLyricsLines text) :
    line.start < 2 ^ 63 := by
  obtain ⟨rawLine, -, hline⟩ := mem_parseLrcLyricsLines.mp h
  obtain ⟨tags, remainder, hpeels⟩ := exists_peels (trim rawLine).toList
  obtain ⟨-, -, tag, -, hstart⟩ := (mem_lyricLines hpeels).mp hline
  exact start_lt hstart

def MinutesNotNegative (rawLine : String) : Prop :=
  ∀ tags remainder, Peels (trim rawLine).toList tags remainder →
    trim (String.ofList remainder) ≠ "" → ∀ tag ∈ tags, ∀ minutes ∈ tagMinutes tag, 0 ≤ minutes

theorem starts_nonneg_iff (text : String) :
    (∀ line ∈ parseLrcLyricsLines text, 0 ≤ line.start) ↔
      ∀ rawLine ∈ lines text, MinutesNotNegative rawLine := by
  constructor
  · intro h rawLine hrawLine tags remainder hpeels hne tag htag minutes hminutes
    obtain ⟨start, hstart⟩ := Option.isSome_iff_exists.mp (hpeels.isSome tag htag)
    obtain ⟨minutes', hminutes', hsign⟩ := exists_minutes hstart
    rw [Option.mem_def, hminutes'] at hminutes
    cases hminutes
    have hline : ⟨trim (String.ofList remainder), start⟩ ∈ lyricLines rawLine :=
      (mem_lyricLines hpeels).mpr ⟨hne, rfl, tag, htag, hstart⟩
    exact hsign.mp (h _ (mem_parseLrcLyricsLines.mpr ⟨rawLine, hrawLine, hline⟩))
  · intro h line hline
    obtain ⟨rawLine, hrawLine, hline⟩ := mem_parseLrcLyricsLines.mp hline
    obtain ⟨tags, remainder, hpeels⟩ := exists_peels (trim rawLine).toList
    obtain ⟨hne, -, tag, htag, hstart⟩ := (mem_lyricLines hpeels).mp hline
    obtain ⟨minutes, hminutes, hsign⟩ := exists_minutes hstart
    exact hsign.mpr (h rawLine hrawLine tags remainder hpeels hne tag htag minutes hminutes)

/-! Writing. -/

structure LrcTime where
  minutes : String
  seconds : Nat
  fraction : Option String
  isNumeral_minutes : IsNumeral minutes
  seconds_lt : seconds < 60
  isDigit_fraction : ∀ digits ∈ fraction, ∀ c ∈ digits.toList, c.isDigit = true
  length_fraction : ∀ digits ∈ fraction, digits.toList.length ≤ 7

namespace LrcTime

variable (time : LrcTime)

def tag : String :=
  time.minutes ++ ":" ++ zeroPadded 2 time.seconds ++ time.fraction.elim "" ("." ++ ·)

def ticks : Int :=
  ((numeralValue time.minutes * 60 + time.seconds) * 10000000 + time.fraction.elim 0 fun digits =>
    numeralValue digits * 10 ^ (7 - digits.toList.length) : Nat)

theorem mem_tag {c : Char} (hc : c ∈ time.tag.toList) : c.isDigit = true ∨ c = ':' ∨ c = '.' := by
  simp only [tag, String.toList_append, List.mem_append] at hc
  obtain ((hc | hc) | hc) | hc := hc
  · exact .inl (time.isNumeral_minutes.2 c hc)
  · exact .inr (.inl (List.mem_singleton.mp hc))
  · exact .inl ((isNumeral_zeroPadded _ _).2 c hc)
  · cases hfraction : time.fraction with
    | none => simp [hfraction] at hc
    | some digits =>
      simp only [hfraction, Option.elim_some, String.toList_append, List.mem_append] at hc
      obtain hc | hc := hc
      · exact .inr (.inr (List.mem_singleton.mp hc))
      · exact .inl (time.isDigit_fraction digits hfraction c hc)

theorem notMem_tag {c : Char} (hdigit : c.isDigit = false) (hcolon : c ≠ ':') (hdot : c ≠ '.') :
    c ∉ time.tag.toList := by
  intro hmem
  obtain h | h | h := time.mem_tag hmem
  · rw [h] at hdigit
    cases hdigit
  · exact hcolon h
  · exact hdot h

theorem cutAt_rest : ((cutAt ['.'] (zeroPadded 2 time.seconds ++
      time.fraction.elim "" ("." ++ ·)).toList).or (cutAt [','] (zeroPadded 2 time.seconds ++
        time.fraction.elim "" ("." ++ ·)).toList)).getD ((zeroPadded 2 time.seconds ++
          time.fraction.elim "" ("." ++ ·)).toList, []) =
    ((zeroPadded 2 time.seconds).toList, (time.fraction.getD "").toList) := by
  have hnumeral := isNumeral_zeroPadded 2 time.seconds
  cases time.fraction with
  | none =>
    have hnone : ∀ c : Char, c.isDigit = false → cutAt [c] (zeroPadded 2 time.seconds).toList =
        none := fun c hc => cutAt_eq_none fun hwithin =>
      hnumeral.notMem hc (hwithin.subset List.mem_cons_self)
    simp [hnone '.' (by decide), hnone ',' (by decide)]
  | some digits =>
    have hdot : '.' ∉ (zeroPadded 2 time.seconds).toList := hnumeral.notMem (by decide)
    have hcut : cutAt ['.'] ((zeroPadded 2 time.seconds).toList ++ ['.'] ++ digits.toList) =
        some ((zeroPadded 2 time.seconds).toList, digits.toList) := cutAt_append hdot _
    have hrest : (zeroPadded 2 time.seconds ++ (some digits).elim "" ("." ++ ·)).toList =
        (zeroPadded 2 time.seconds).toList ++ ['.'] ++ digits.toList := by
      simp
    rw [hrest, hcut]
    rfl

theorem fractionTicks_fraction : fractionTicks (time.fraction.getD "").toList =
    some ((time.fraction.elim 0 fun digits =>
      numeralValue digits * 10 ^ (7 - digits.toList.length) : Nat) : Int) := by
  cases hfraction : time.fraction with
  | none => decide
  | some digits =>
    obtain ⟨n, -, hn, hticks⟩ := fractionTicks_eq digits.toList
    rw [List.take_of_length_le (time.length_fraction digits hfraction),
      List.filter_eq_self.mpr (time.isDigit_fraction digits hfraction)] at hn
    rw [Option.getD_some, hticks, hn]
    rfl

theorem parseLrcTimestampTicks_tag (h : time.ticks < 2 ^ 63) :
    parseLrcTimestampTicks time.tag = some time.ticks := by
  have htag : time.tag.toList = time.minutes.toList ++ [':'] ++
      (zeroPadded 2 time.seconds ++ time.fraction.elim "" ("." ++ ·)).toList := by
    simp [tag]
  have hseconds : parseI64 (zeroPadded 2 time.seconds) = some (time.seconds : Int) :=
    Playback.Subtitles.Timestamp.parseI64_zeroPadded 2 (time.seconds_lt.trans (by decide))
  have hlt := time.seconds_lt
  rw [ticks] at h ⊢
  have hminutes := parseI64_of_isNumeral time.isNumeral_minutes (by omega)
  rw [parseLrcTimestampTicks, htag,
    cutAt_append (time.isNumeral_minutes.notMem (by decide))]
  simp only [Option.bind_eq_bind, Option.bind_some, String.ofList_toList, hminutes, cutAt_rest,
    hseconds]
  rw [if_neg (by omega), fractionTicks_fraction]
  generalize (time.fraction.elim 0 fun digits =>
    numeralValue digits * 10 ^ (7 - digits.toList.length)) = fraction at h ⊢
  rw [Option.bind_some, saturating_eq (n := (numeralValue time.minutes : Int) * 60) (by omega)
    (by omega), saturating_eq (n := (numeralValue time.minutes : Int) * 60 + time.seconds) (by omega)
    (by omega), saturating_eq (n := ((numeralValue time.minutes : Int) * 60 + time.seconds) *
      10000000) (by omega) (by omega), saturating_eq (by omega) (by omega)]
  refine congrArg some ?_
  push_cast
  rfl

end LrcTime

structure LrcEntry where
  times : List LrcTime
  text : String
  times_ne_nil : times ≠ []
  text_ne_empty : text ≠ ""
  trimmed : Trimmed text
  noBracket : text.toList.head? ≠ some '['
  oneLine : OneLine text

def bracketed (times : List LrcTime) : List Char :=
  times.flatMap fun time => '[' :: (time.tag.toList ++ [']'])

namespace LrcEntry

variable (entry : LrcEntry)

def render : String := String.ofList (bracketed entry.times) ++ entry.text

def lines : List LyricLine := entry.times.map fun time => ⟨entry.text, time.ticks⟩

theorem dropWhile_bracketed (times : List LrcTime) :
    (bracketed times ++ entry.text.toList).dropWhile isWhitespace =
      bracketed times ++ entry.text.toList := by
  cases times with
  | nil => exact (Json.trimmed_iff.mp entry.trimmed).1
  | cons time times =>
    rw [bracketed, List.flatMap_cons, List.cons_append, List.cons_append]
    exact List.dropWhile_cons_of_neg (by decide)

theorem trim_render : trim entry.render = entry.render := by
  have hne : entry.text.toList ≠ [] := fun hnil =>
    entry.text_ne_empty (String.toList_eq_nil_iff.mp hnil)
  have hlast := List.rdropWhile_eq_self_iff.mp (Json.trimmed_iff.mp entry.trimmed).2 hne
  refine Json.trimmed_iff.mpr ⟨?_, ?_⟩
  · rw [render, String.toList_append, String.toList_ofList, dropWhile_bracketed]
  · rw [render, String.toList_append, List.rdropWhile_eq_self_iff]
    intro hrender
    rw [List.getLast_append_of_ne_nil hrender hne]
    exact hlast

theorem peels_bracketed {times : List LrcTime} (h : ∀ time ∈ times, time.ticks < 2 ^ 63) :
    Peels (bracketed times ++ entry.text.toList) (times.map fun time => time.tag.toList)
      entry.text.toList := by
  induction times with
  | nil => exact .text entry.noBracket
  | cons time times ih =>
    obtain ⟨htime, htimes⟩ := List.forall_mem_cons.mp h
    have hrest := ih htimes
    rw [← entry.dropWhile_bracketed] at hrest
    have hline : bracketed (time :: times) ++ entry.text.toList =
        '[' :: (time.tag.toList ++ [']'] ++ (bracketed times ++ entry.text.toList)) := by
      simp [bracketed]
    rw [hline]
    refine .time (time.notMem_tag (by decide) (by decide) (by decide)) ?_ hrest
    rw [String.ofList_toList, time.parseLrcTimestampTicks_tag htime]
    rfl

theorem lyricLines_render (h : ∀ time ∈ entry.times, time.ticks < 2 ^ 63) :
    lyricLines entry.render = entry.lines := by
  have hpeels := (entry.peels_bracketed h).peelTags_eq
  have hstarts : (entry.times.map fun time => time.tag.toList).filterMap
      (fun tag => parseLrcTimestampTicks (String.ofList tag)) = entry.times.map LrcTime.ticks := by
    rw [List.filterMap_map]
    refine (List.filterMap_congr (g := some ∘ LrcTime.ticks) fun time htime => ?_).trans
      (congrFun List.filterMap_eq_map _)
    rw [Function.comp_apply, String.ofList_toList, time.parseLrcTimestampTicks_tag (h time htime)]
    rfl
  rw [lyricLines, trim_render, render, String.toList_append, String.toList_ofList, hpeels, hstarts]
  simp only [String.ofList_toList]
  rw [entry.trimmed, if_neg entry.text_ne_empty, List.map_map]
  rfl

theorem oneLine_render : OneLine entry.render := by
  have hrender : ∀ {c : Char}, c.isDigit = false → c ∉ [':', '.', '[', ']'] →
      c ∉ entry.text.toList → c ∉ entry.render.toList := by
    intro c hdigit hother htext hmem
    simp only [List.mem_cons, List.not_mem_nil, or_false, not_or] at hother
    rw [render, String.toList_append, String.toList_ofList, List.mem_append] at hmem
    obtain hmem | hmem := hmem
    · obtain ⟨time, -, hmem⟩ := List.mem_flatMap.mp hmem
      obtain hmem | hmem := List.mem_cons.mp hmem
      · exact hother.2.2.1 hmem
      · obtain hmem | hmem := List.mem_append.mp hmem
        · exact time.notMem_tag hdigit hother.1 hother.2.1 hmem
        · exact hother.2.2.2 (List.mem_singleton.mp hmem)
    · exact htext hmem
  exact ⟨hrender (by decide) (by decide) entry.oneLine.1,
    hrender (by decide) (by decide) entry.oneLine.2⟩

end LrcEntry

def lrcDocument (entries : List LrcEntry) : String := terminated (entries.map LrcEntry.render)

theorem parseLrcLyricsLines_document {entries : List LrcEntry}
    (h : ∀ entry ∈ entries, ∀ time ∈ entry.times, time.ticks < 2 ^ 63) :
    parseLrcLyricsLines (lrcDocument entries) =
      sortOn LyricLine.start (entries.flatMap LrcEntry.lines) := by
  have hlines : lines (lrcDocument entries) = entries.map LrcEntry.render := by
    refine lines_terminated fun line hline => ?_
    obtain ⟨entry, -, rfl⟩ := List.mem_map.mp hline
    exact entry.oneLine_render
  rw [parseLrcLyricsLines, hlines, List.flatMap_map]
  exact congrArg _ (List.flatMap_congr fun entry hentry => entry.lyricLines_render (h entry hentry))

/-- A document gives its lines back by their times, exactly if the times fit in 64 bits; and the
starts of a text are not negative exactly if no minutes in front of a line of it are. -/
theorem parseLrcLyricsLines_iff (entries : List LrcEntry) (text : String) :
    (StablySorted LyricLine.start (entries.flatMap LrcEntry.lines)
        (parseLrcLyricsLines (lrcDocument entries)) ↔
      ∀ entry ∈ entries, ∀ time ∈ entry.times, time.ticks < 2 ^ 63) ∧
    ((∀ line ∈ parseLrcLyricsLines text, 0 ≤ line.start) ↔
      ∀ rawLine ∈ lines text, MinutesNotNegative rawLine) := by
  refine ⟨⟨fun h entry hentry time htime => ?_, fun h => ?_⟩, starts_nonneg_iff text⟩
  · refine @start_lt_of_mem (lrcDocument entries) ⟨entry.text, time.ticks⟩ ?_
    rw [stablySorted_iff.mp h, mem_sortOn, List.mem_flatMap]
    exact ⟨entry, hentry, List.mem_map.mpr ⟨time, htime, rfl⟩⟩
  · exact stablySorted_iff.mpr (parseLrcLyricsLines_document h)

def chorusTime (seconds : Nat) (h : seconds < 60) : LrcTime where
  minutes := "01"
  seconds
  fraction := some "25"
  isNumeral_minutes := ⟨by decide, by simp⟩
  seconds_lt := h
  isDigit_fraction := by simp
  length_fraction := by simp

def chorus : List LrcEntry :=
  [⟨[chorusTime 53 (by decide), chorusTime 37 (by decide)], "La la", by simp, by decide, by decide,
      by decide, ⟨by decide, by decide⟩⟩,
    ⟨[chorusTime 41 (by decide)], "Oh", by simp, by decide, by decide, by decide,
      ⟨by decide, by decide⟩⟩]

theorem chorus_sorted :
    StablySorted LyricLine.start (chorus.flatMap LrcEntry.lines)
      (parseLrcLyricsLines (lrcDocument chorus)) :=
  (parseLrcLyricsLines_iff chorus "").1.mpr (by decide)

theorem negative_start : ∃ line ∈ parseLrcLyricsLines "[-1:00]x", line.start < 0 := by
  have hpeels : Peels (trim "[-1:00]x").toList ["-1:00".toList] ['x'] := by
    have hwritten : (trim "[-1:00]x").toList = '[' :: ("-1:00".toList ++ [']'] ++ ['x']) := by
      decide
    rw [hwritten]
    exact .time (by decide) (by decide) (.text (by decide))
  have hline : ⟨"x", -600000000⟩ ∈ lyricLines "[-1:00]x" :=
    (mem_lyricLines hpeels).mpr
      ⟨by decide, by decide, "-1:00".toList, List.mem_singleton_self _, by decide⟩
  exact ⟨_, mem_parseLrcLyricsLines.mpr ⟨"[-1:00]x", by decide, hline⟩, by decide⟩

end Jellyrin.Lyrics
