import Jellyrin.Defs.Data.Calendar
import Jellyrin.Defs.Data.JsonObject
import Jellyrin.Defs.Xtream.Epg

/-! When a guide is read without a panic, and dated by its numbers. -/

namespace Jellyrin.Xtream

open Json LiveTv.Guide Slices Text

variable {DateTime : Type} (crates : EpgCrates DateTime)

/-- What is documented of date-times: the years from -9999 to 9999 can be represented, and RFC 3339
names the instant of a year without a sign. -/
structure EpgCrates.Documented : Prop where
  accepted : ∀ seconds, (∃ value, crates.fromUnixTimestamp seconds = some value) ↔
    -377705116800 ≤ seconds ∧ seconds ≤ 253402300799
  formatted : ∀ seconds value, 0 ≤ seconds → crates.fromUnixTimestamp seconds = some value →
    ∃ text, crates.formatRfc3339 value = some text
  denoted : ∀ seconds value text, crates.fromUnixTimestamp seconds = some value →
    crates.formatRfc3339 value = some text → Instant.ofText text = some seconds

/-! The source of a date. -/

inductive DateSource where
  | text (value : String)
  | timestamp (seconds : Nat)

def isDated (value : String) : Bool :=
  trim value ≠ "" && (crates.parsesRfc3339 (trim value) || hasDateShape (dateTimeWords (trim value)))

def dateSource (listing : Json) (keys : List String) (stampKey : String) : Option DateSource :=
  match (keys.filterMap listing.stringField).find? (isDated crates) with
  | some value => some (.text value)
  | none => (timestampField listing stampKey).map .timestamp

def startSource (listing : Json) : Option DateSource :=
  dateSource crates listing ["start", "start_time"] "start_timestamp"

def endSource (listing : Json) : Option DateSource :=
  dateSource crates listing ["end", "stop", "end_time"] "stop_timestamp"

/-- A date that is kept as it is, or of which the slices do not cut a character. -/
def SlicedOnBoundaries (value : String) : Prop :=
  crates.parsesRfc3339 (trim value) = true ∨
    ∀ offset ∈ [10, 11, 19], IsCharBoundary (dateTimeWords (trim value)) offset

def DateSource.Accepted : DateSource → Prop
  | .text _ => True
  | .timestamp seconds => seconds ≤ 253402300799 ∨ 2 ^ 64 - 377705116800 ≤ seconds

def DateSource.Wraps : DateSource → Prop
  | .text _ => False
  | .timestamp seconds => 2 ^ 63 ≤ seconds

/-! Guides that are read without a panic and dated by their numbers, and sound listings. -/

structure SafeEpg (channelId : String) (epg : Json) : Prop where
  noPanic : parseEpgPrograms crates channelId epg ≠ .error .charBoundary
  startDenotes : ∀ entry ∈ (epgListings epg).zipIdx, ∀ program,
    parseEpgProgram crates channelId entry = .ok (some program) →
    ∀ seconds, startSource crates entry.1 = some (.timestamp seconds) →
    ∃ text, program.get "StartDate" = some (.string text) ∧ Instant.ofText text = some (seconds : Int)
  endDenotes : ∀ entry ∈ (epgListings epg).zipIdx, ∀ program,
    parseEpgProgram crates channelId entry = .ok (some program) →
    ∀ seconds, endSource crates entry.1 = some (.timestamp seconds) →
    ∃ text, program.get "EndDate" = some (.string text) ∧ Instant.ofText text = some (seconds : Int)

structure SoundListing (listing : Json) : Prop where
  boundaries : ∀ value, startSource crates listing = some (.text value) ∨
    endSource crates listing = some (.text value) → SlicedOnBoundaries crates value
  timestamps : ∀ start finish, startSource crates listing = some start →
    endSource crates listing = some finish → start.Accepted → finish.Accepted →
    ¬ start.Wraps ∧ ¬ finish.Wraps

/-! Dates from texts. -/

variable {crates}

theorem formatDatetime_of_not_isDated {value : String} (h : isDated crates value = false) :
    formatDatetime crates value = .ok none := by
  simp only [isDated, Bool.and_eq_false_iff, decide_eq_false_iff_not, not_not,
    Bool.or_eq_false_iff] at h
  unfold formatDatetime
  by_cases hempty : trim value = ""
  · simp only [hempty, if_true]
    rfl
  · obtain ⟨hparse, hshape⟩ := h.resolve_left hempty
    simp only [hempty, hparse, hshape, if_false, Bool.false_eq_true]
    rfl

section Dated

variable {value : String} (h : isDated crates value = true)
include h

theorem formatDatetime_of_sliced (hsliced : SlicedOnBoundaries crates value) :
    ∃ date, formatDatetime crates value = .ok (some date) := by
  simp only [isDated, Bool.and_eq_true, decide_eq_true_eq, Bool.or_eq_true] at h
  obtain ⟨hne, hdated⟩ := h
  unfold formatDatetime
  by_cases hparse : crates.parsesRfc3339 (trim value) = true
  · simp only [hne, hparse, if_true, if_false]
    exact ⟨trim value, rfl⟩
  · have hbounds := hsliced.resolve_left hparse
    have hshape := hdated.resolve_left hparse
    obtain ⟨date, hdate⟩ := (exists_sliceRange_iff (Nat.zero_le 10)).mpr
      ⟨isCharBoundary_zero _, hbounds 10 (by simp)⟩
    obtain ⟨time, htime⟩ := (exists_sliceRange_iff (show 11 ≤ 19 by decide)).mpr
      ⟨hbounds 11 (by simp), hbounds 19 (by simp)⟩
    simp only [hne, hparse, hshape, if_true, if_false, hdate, htime]
    exact ⟨_, rfl⟩

theorem formatDatetime_of_not_sliced (hcut : ¬ SlicedOnBoundaries crates value) :
    formatDatetime crates value = .error .charBoundary := by
  simp only [isDated, Bool.and_eq_true, decide_eq_true_eq, Bool.or_eq_true] at h
  obtain ⟨hne, hdated⟩ := h
  obtain ⟨hparse, hbounds⟩ := not_or.mp hcut
  have hshape := hdated.resolve_left hparse
  unfold formatDatetime
  simp only [hne, hparse, hshape, if_true, if_false]
  by_cases hdate : IsCharBoundary (dateTimeWords (trim value)) 10
  case pos =>
    obtain ⟨date, hslice⟩ := (exists_sliceRange_iff (Nat.zero_le 10)).mpr
      ⟨isCharBoundary_zero _, hdate⟩
    have htime : ¬ (IsCharBoundary (dateTimeWords (trim value)) 11 ∧
        IsCharBoundary (dateTimeWords (trim value)) 19) := by
      intro htime
      apply hbounds
      simp [hdate, htime]
    rw [hslice, sliceRange_eq_error (by decide) htime]
    rfl
  case neg =>
    rw [sliceRange_eq_error (Nat.zero_le 10) fun hboth => hdate hboth.2]
    rfl

end Dated

theorem epgDatetime_eq (listing : Json) (keys : List String) :
    epgDatetime crates listing keys =
      match (keys.filterMap listing.stringField).find? (isDated crates) with
      | some value => formatDatetime crates value
      | none => .ok none := by
  induction keys with
  | nil => rfl
  | cons key keys ih =>
    rw [epgDatetime]
    cases hvalue : listing.stringField key with
    | none =>
      rw [List.filterMap_cons_none hvalue]
      exact ih
    | some value =>
      rw [List.filterMap_cons_some hvalue]
      cases hdated : isDated crates value with
      | false =>
        rw [List.find?_cons_of_neg (by simp [hdated]), ← ih]
        simp only [formatDatetime_of_not_isDated hdated]
        rfl
      | true =>
        rw [List.find?_cons_of_pos hdated]
        by_cases hsliced : SlicedOnBoundaries crates value
        · obtain ⟨date, hdate⟩ := formatDatetime_of_sliced hdated hsliced
          simp only [hdate]
          rfl
        · simp only [formatDatetime_of_not_sliced hdated hsliced]
          rfl

/-! Dates of listings. -/

variable (crates) in
def dateOf : Option DateSource → Except Panic (Option String)
  | some (.text value) => formatDatetime crates value
  | some (.timestamp seconds) =>
    .ok ((crates.fromUnixTimestamp (asI64 seconds)).map (formatTimeForJson crates))
  | none => .ok none

section Sources

variable {listing : Json} {keys : List String} {stampKey : String}

theorem isDated_of_dateSource {value : String}
    (h : dateSource crates listing keys stampKey = some (.text value)) :
    isDated crates value = true := by
  cases hfind : (keys.filterMap listing.stringField).find? (isDated crates) with
  | some found =>
    rw [dateSource, hfind] at h
    cases h
    exact List.find?_some hfind
  | none =>
    rw [dateSource, hfind] at h
    obtain ⟨seconds, -, heq⟩ := Option.map_eq_some_iff.mp h
    cases heq

theorem epgDate_eq : epgDate crates listing keys stampKey =
    dateOf crates (dateSource crates listing keys stampKey) := by
  rw [epgDate, epgDatetime_eq]
  cases hfind : (keys.filterMap listing.stringField).find? (isDated crates) with
  | some value =>
    have hdated : isDated crates value = true := List.find?_some hfind
    rw [dateSource, hfind]
    by_cases hsliced : SlicedOnBoundaries crates value
    · obtain ⟨date, hdate⟩ := formatDatetime_of_sliced hdated hsliced
      simp only [dateOf, hdate]
      rfl
    · simp only [dateOf, formatDatetime_of_not_sliced hdated hsliced]
      rfl
  | none =>
    rw [dateSource, hfind, epgTimestamp, List.findSome?_singleton]
    cases timestampField listing stampKey with
    | none => rfl
    | some seconds => rfl

end Sources

theorem lt_of_parseUnsigned {max n : Nat} {text : String} (h : parseUnsigned max text = some n) :
    n ≤ max := by
  simp only [parseUnsigned] at h
  split at h
  · cases h
  · split at h
    case isTrue hle =>
      cases h
      exact hle
    case isFalse => cases h

theorem lt_of_timestampField {listing : Json} {key : String} {seconds : Nat}
    (h : timestampField listing key = some seconds) : seconds < 2 ^ 64 := by
  rw [timestampField, Option.or_eq_some_iff] at h
  cases h with
  | inl hfield =>
    unfold liveTvU64Field at hfield
    split at hfield
    · split at hfield
      · cases hfield
        omega
      · cases hfield
    · exact Nat.lt_of_le_pred (by decide) (lt_of_parseUnsigned hfield)
    · cases hfield
  | inr htext =>
    obtain ⟨text, -, hparse⟩ := Option.bind_eq_some_iff.mp htext.2
    exact Nat.lt_of_le_pred (by decide) (lt_of_parseUnsigned hparse)

theorem lt_of_dateSource {listing : Json} {keys : List String} {stampKey : String} {seconds : Nat}
    (h : dateSource crates listing keys stampKey = some (.timestamp seconds)) :
    seconds < 2 ^ 64 := by
  unfold dateSource at h
  split at h
  · cases h
  · obtain ⟨number, hnumber, heq⟩ := Option.map_eq_some_iff.mp h
    cases heq
    exact lt_of_timestampField hnumber

section Timestamps

variable (h : crates.Documented) {seconds : Nat}
include h

theorem exists_fromUnixTimestamp_iff (hlt : seconds < 2 ^ 64) :
    (∃ value, crates.fromUnixTimestamp (asI64 seconds) = some value) ↔
      (DateSource.timestamp seconds).Accepted := by
  rw [h.accepted, DateSource.Accepted, asI64]
  split <;> omega

theorem ofText_formatTime (hwraps : ¬ (DateSource.timestamp seconds).Wraps) {value : DateTime}
    (hvalue : crates.fromUnixTimestamp (asI64 seconds) = some value) :
    Instant.ofText (formatTimeForJson crates value) = some (seconds : Int) := by
  have hsigned : asI64 seconds = seconds := if_pos (Nat.not_le.mp hwraps)
  rw [hsigned] at hvalue
  obtain ⟨text, htext⟩ := h.formatted seconds value (Int.natCast_nonneg seconds) hvalue
  rw [formatTimeForJson, htext]
  exact h.denoted seconds value text hvalue htext

theorem ofText_formatTime_of_wraps (hlt : seconds < 2 ^ 64)
    (hwraps : (DateSource.timestamp seconds).Wraps)
    {value : DateTime} (hvalue : crates.fromUnixTimestamp (asI64 seconds) = some value) :
    Instant.ofText (formatTimeForJson crates value) ≠ some (seconds : Int) := by
  have hwraps : 2 ^ 63 ≤ seconds := hwraps
  intro htext
  cases hformat : crates.formatRfc3339 value with
  | some text =>
    rw [formatTimeForJson, hformat, Option.getD_some,
      h.denoted _ value text hvalue hformat, Option.some_inj, asI64, if_neg (by omega)] at htext
    omega
  | none =>
    have hepoch : Instant.ofText "1970-01-01T00:00:00Z" = some 0 := by decide
    rw [formatTimeForJson, hformat, Option.getD_none, hepoch, Option.some_inj] at htext
    omega

end Timestamps

/-! What a source gives. -/

section Given

variable {listing : Json} {keys : List String} {stampKey : String}

theorem dateOf_ne_error_iff :
    dateOf crates (dateSource crates listing keys stampKey) ≠ .error .charBoundary ↔
      ∀ value, dateSource crates listing keys stampKey = some (.text value) →
        SlicedOnBoundaries crates value := by
  cases hsource : dateSource crates listing keys stampKey with
  | none => simp [dateOf]
  | some source =>
    cases source with
    | timestamp seconds => simp [dateOf]
    | text value =>
      have hdated := isDated_of_dateSource hsource
      simp only [dateOf, Option.some_inj, DateSource.text.injEq, forall_eq']
      by_cases hsliced : SlicedOnBoundaries crates value
      · obtain ⟨date, hdate⟩ := formatDatetime_of_sliced hdated hsliced
        simp [hdate, hsliced]
      · simp [formatDatetime_of_not_sliced hdated hsliced, hsliced]

theorem exists_dateOf_iff (h : crates.Documented)
    (hsafe : dateOf crates (dateSource crates listing keys stampKey) ≠ .error .charBoundary) :
    (∃ date, dateOf crates (dateSource crates listing keys stampKey) = .ok (some date)) ↔
      ∃ source, dateSource crates listing keys stampKey = some source ∧ source.Accepted := by
  rw [dateOf_ne_error_iff] at hsafe
  cases hsource : dateSource crates listing keys stampKey with
  | none => simp [dateOf]
  | some source =>
    simp only [Option.some_inj, exists_eq_left']
    cases source with
    | timestamp seconds =>
      rw [← exists_fromUnixTimestamp_iff h (lt_of_dateSource hsource)]
      simp [dateOf]
    | text value =>
      have hdate := formatDatetime_of_sliced (isDated_of_dateSource hsource) (hsafe value hsource)
      simp [dateOf, hdate, DateSource.Accepted]

theorem ofText_dateOf_iff (h : crates.Documented) {seconds : Nat} {date : String}
    (hsource : dateSource crates listing keys stampKey = some (.timestamp seconds))
    (hdate : dateOf crates (dateSource crates listing keys stampKey) = .ok (some date)) :
    Instant.ofText date = some (seconds : Int) ↔ ¬ (DateSource.timestamp seconds).Wraps := by
  rw [hsource] at hdate
  obtain ⟨value, hvalue, rfl⟩ := Option.map_eq_some_iff.mp (Except.ok.inj hdate)
  constructor
  · intro htext hwraps
    exact ofText_formatTime_of_wraps h (lt_of_dateSource hsource) hwraps hvalue htext
  · intro hwraps
    exact ofText_formatTime h hwraps hvalue

end Given

/-! Programmes. -/

theorem get_startDate (channelId : String) (index : Nat) (listing : Json) (start finish : String) :
    (epgProgram crates channelId index listing start finish).get "StartDate" =
      some (.string start) :=
  get_ofFields (by simp) (by simp)

theorem get_endDate (channelId : String) (index : Nat) (listing : Json) (start finish : String) :
    (epgProgram crates channelId index listing start finish).get "EndDate" =
      some (.string finish) :=
  get_ofFields (by simp) (by simp)

section Program

variable {channelId : String} {entry : Json × Nat}

theorem parseEpgProgram_eq (channelId : String) (entry : Json × Nat) :
    parseEpgProgram crates channelId entry =
      dateOf crates (startSource crates entry.1) >>= fun start =>
        dateOf crates (endSource crates entry.1) >>= fun finish =>
          .ok (start.bind fun start =>
            finish.map (epgProgram crates channelId entry.2 entry.1 start)) := by
  rw [parseEpgProgram, epgStart, epgEnd, epgDate_eq, epgDate_eq]
  rfl

theorem parseEpgProgram_eq_some {program : Json} :
    parseEpgProgram crates channelId entry = .ok (some program) ↔
      ∃ start finish, dateOf crates (startSource crates entry.1) = .ok (some start) ∧
        dateOf crates (endSource crates entry.1) = .ok (some finish) ∧
        program = epgProgram crates channelId entry.2 entry.1 start finish := by
  rw [parseEpgProgram_eq]
  constructor
  case mp =>
    intro h
    obtain ⟨start, hstart, h⟩ := exists_of_bind_eq_ok h
    obtain ⟨finish, hfinish, h⟩ := exists_of_bind_eq_ok h
    obtain ⟨start, rfl, hmap⟩ := Option.bind_eq_some_iff.mp (Except.ok.inj h)
    obtain ⟨finish, rfl, rfl⟩ := Option.map_eq_some_iff.mp hmap
    exact ⟨start, finish, hstart, hfinish, rfl⟩
  case mpr =>
    rintro ⟨start, finish, hstart, hfinish, rfl⟩
    rw [hstart, ok_bind, hfinish, ok_bind]
    rfl

theorem parseEpgProgram_ne_error_iff :
    parseEpgProgram crates channelId entry ≠ .error .charBoundary ↔
      dateOf crates (startSource crates entry.1) ≠ .error .charBoundary ∧
        dateOf crates (endSource crates entry.1) ≠ .error .charBoundary := by
  rw [parseEpgProgram_eq]
  cases hstart : dateOf crates (startSource crates entry.1) with
  | error panic =>
    cases panic
    simp [bind, Except.bind]
  | ok start =>
    cases hfinish : dateOf crates (endSource crates entry.1) with
    | error panic =>
      cases panic
      simp [bind, Except.bind]
    | ok finish => simp [bind, Except.bind]

end Program

theorem parseEpgPrograms_ne_error_iff {channelId : String} {epg : Json} :
    parseEpgPrograms crates channelId epg ≠ .error .charBoundary ↔
      ∀ entry ∈ (epgListings epg).zipIdx,
        parseEpgProgram crates channelId entry ≠ .error .charBoundary := by
  rw [parseEpgPrograms]
  constructor
  case mp =>
    intro h entry hentry herror
    cases hmap : (epgListings epg).zipIdx.mapM (parseEpgProgram crates channelId) with
    | error panic =>
      cases panic
      rw [hmap] at h
      exact h rfl
    | ok programs =>
      obtain ⟨program, -, hprogram⟩ := exists_mem_of_forall₂ (forall₂_of_mapM hmap) hentry
      rw [herror] at hprogram
      cases hprogram
  case mpr =>
    intro h
    have hall : ∀ entry ∈ (epgListings epg).zipIdx,
        ∃ program, parseEpgProgram crates channelId entry = .ok program := by
      intro entry hentry
      cases hprogram : parseEpgProgram crates channelId entry with
      | error panic =>
        cases panic
        exact absurd hprogram (h entry hentry)
      | ok program => exact ⟨program, rfl⟩
    obtain ⟨programs, hprograms⟩ := exists_mapM_eq_ok hall
    rw [hprograms]
    rintro ⟨⟩

theorem exists_mem_zipIdx {α : Type} {l : List α} {a : α} (h : a ∈ l) :
    ∃ index, (a, index) ∈ l.zipIdx := by
  obtain ⟨index, hindex⟩ := List.mem_iff_getElem?.mp h
  exact ⟨index, List.mem_zipIdx_iff_getElem?.mpr hindex⟩

theorem mem_of_mem_zipIdx {α : Type} {l : List α} {entry : α × Nat} (h : entry ∈ l.zipIdx) :
    entry.1 ∈ l :=
  List.mem_of_getElem? (List.mem_zipIdx_iff_getElem?.mp h)

section Entries

variable {channelId : String} {epg : Json}

theorem SafeEpg.soundListing (hdocumented : crates.Documented) (h : SafeEpg crates channelId epg)
    {entry : Json × Nat} (hentry : entry ∈ (epgListings epg).zipIdx) :
    SoundListing crates entry.1 := by
  have hsafe := parseEpgProgram_ne_error_iff.mp
    (parseEpgPrograms_ne_error_iff.mp h.noPanic entry hentry)
  constructor
  case boundaries =>
    intro value hsource
    cases hsource with
    | inl hstart => exact dateOf_ne_error_iff.mp hsafe.1 value hstart
    | inr hend => exact dateOf_ne_error_iff.mp hsafe.2 value hend
  case timestamps =>
    intro start finish hstart hfinish hstartAccepted hfinishAccepted
    obtain ⟨startDate, hstartDate⟩ := (exists_dateOf_iff hdocumented hsafe.1).mpr
      ⟨start, hstart, hstartAccepted⟩
    obtain ⟨endDate, hendDate⟩ := (exists_dateOf_iff hdocumented hsafe.2).mpr
      ⟨finish, hfinish, hfinishAccepted⟩
    have hprogram := (@parseEpgProgram_eq_some _ crates channelId entry _).mpr
      ⟨startDate, endDate, hstartDate, hendDate, rfl⟩
    constructor
    · cases start with
      | text value => exact not_false
      | timestamp seconds =>
        obtain ⟨text, hget, htext⟩ := h.startDenotes entry hentry _ hprogram seconds hstart
        rw [get_startDate, Option.some_inj, string.injEq] at hget
        rw [← hget] at htext
        exact (ofText_dateOf_iff hdocumented hstart hstartDate).mp htext
    · cases finish with
      | text value => exact not_false
      | timestamp seconds =>
        obtain ⟨text, hget, htext⟩ := h.endDenotes entry hentry _ hprogram seconds hfinish
        rw [get_endDate, Option.some_inj, string.injEq] at hget
        rw [← hget] at htext
        exact (ofText_dateOf_iff hdocumented hfinish hendDate).mp htext

theorem SoundListing.not_wraps (hdocumented : crates.Documented) {entry : Json × Nat}
    (h : SoundListing crates entry.1) {startDate endDate : String}
    (hstart : dateOf crates (startSource crates entry.1) = .ok (some startDate))
    (hfinish : dateOf crates (endSource crates entry.1) = .ok (some endDate)) :
    (∀ start, startSource crates entry.1 = some start → ¬ start.Wraps) ∧
      ∀ finish, endSource crates entry.1 = some finish → ¬ finish.Wraps := by
  obtain ⟨start, hstartSource, hstartAccepted⟩ :=
    (exists_dateOf_iff hdocumented (by rw [← startSource, hstart]; exact nofun)).mp
      ⟨startDate, hstart⟩
  obtain ⟨finish, hfinishSource, hfinishAccepted⟩ :=
    (exists_dateOf_iff hdocumented (by rw [← endSource, hfinish]; exact nofun)).mp
      ⟨endDate, hfinish⟩
  obtain ⟨hstartWraps, hfinishWraps⟩ := h.timestamps start finish hstartSource hfinishSource
    hstartAccepted hfinishAccepted
  constructor
  · intro start' hstart'
    cases hstartSource.symm.trans hstart'
    exact hstartWraps
  · intro finish' hfinish'
    cases hfinishSource.symm.trans hfinish'
    exact hfinishWraps

end Entries

theorem safeEpg_iff (h : crates.Documented) (channelId : String) (epg : Json) :
    SafeEpg crates channelId epg ↔ ∀ listing ∈ epgListings epg, SoundListing crates listing := by
  constructor
  case mp =>
    intro hsafe listing hlisting
    obtain ⟨index, hindex⟩ := exists_mem_zipIdx hlisting
    exact hsafe.soundListing h hindex
  case mpr =>
    intro hsound
    constructor
    case noPanic =>
      rw [parseEpgPrograms_ne_error_iff]
      intro entry hentry
      have hlisting := hsound entry.1 (mem_of_mem_zipIdx hentry)
      rw [parseEpgProgram_ne_error_iff]
      exact ⟨dateOf_ne_error_iff.mpr fun value hvalue => hlisting.boundaries value (.inl hvalue),
        dateOf_ne_error_iff.mpr fun value hvalue => hlisting.boundaries value (.inr hvalue)⟩
    case startDenotes =>
      intro entry hentry program hprogram seconds hsource
      obtain ⟨start, finish, hstart, hfinish, rfl⟩ := parseEpgProgram_eq_some.mp hprogram
      have hwraps := (hsound entry.1 (mem_of_mem_zipIdx hentry)).not_wraps h hstart hfinish
      exact ⟨start, get_startDate _ _ _ _ _,
        (ofText_dateOf_iff h hsource hstart).mpr (hwraps.1 _ hsource)⟩
    case endDenotes =>
      intro entry hentry program hprogram seconds hsource
      obtain ⟨start, finish, hstart, hfinish, rfl⟩ := parseEpgProgram_eq_some.mp hprogram
      have hwraps := (hsound entry.1 (mem_of_mem_zipIdx hentry)).not_wraps h hstart hfinish
      exact ⟨finish, get_endDate _ _ _ _ _,
        (ofText_dateOf_iff h hsource hfinish).mpr (hwraps.2 _ hsource)⟩

/-! Date-times as the seconds they denote. -/

def utcCrates : EpgCrates Int where
  parsesRfc3339 text := (Instant.ofText text).isSome
  fromUnixTimestamp seconds :=
    if -377705116800 ≤ seconds ∧ seconds ≤ 253402300799 then some seconds else none
  formatRfc3339 seconds :=
    if 0 ≤ (Date.ofDays (seconds / 86400)).year ∧ (Date.ofDays (seconds / 86400)).year ≤ 9999 then
      some (Instant.toText seconds)
    else none
  decodeStandard _ := none

theorem fromUnixTimestamp_eq_some {seconds value : Int} :
    utcCrates.fromUnixTimestamp seconds = some value ↔
      (-377705116800 ≤ seconds ∧ seconds ≤ 253402300799) ∧ seconds = value :=
  Option.ite_none_right_eq_some.trans (and_congr_right fun _ => Option.some_inj)

theorem formatRfc3339_eq_some {seconds : Int} {text : String} :
    utcCrates.formatRfc3339 seconds = some text ↔
      (0 ≤ (Date.ofDays (seconds / 86400)).year ∧
        (Date.ofDays (seconds / 86400)).year ≤ 9999) ∧ Instant.toText seconds = text :=
  Option.ite_none_right_eq_some.trans (and_congr_right fun _ => Option.some_inj)

theorem utcCrates_documented : utcCrates.Documented where
  accepted seconds := by simp [fromUnixTimestamp_eq_some]
  formatted seconds value hfirst hvalue := by
    obtain ⟨hrange, rfl⟩ := fromUnixTimestamp_eq_some.mp hvalue
    exact ⟨_, formatRfc3339_eq_some.mpr ⟨Date.year_bounds (by omega) (by omega), rfl⟩⟩
  denoted seconds value text hvalue htext := by
    obtain ⟨-, rfl⟩ := fromUnixTimestamp_eq_some.mp hvalue
    obtain ⟨hyear, rfl⟩ := formatRfc3339_eq_some.mp htext
    exact Instant.ofText_toText hyear

def hourListing : Json :=
  .object [("start_timestamp", .number 1700000000), ("stop_timestamp", .number 1700003600)]

theorem hourListing_safe : SafeEpg utcCrates "7" (.array [hourListing]) := by
  apply (safeEpg_iff utcCrates_documented "7" (.array [hourListing])).mpr
  intro listing hlisting
  obtain rfl : listing = hourListing := List.mem_singleton.mp hlisting
  have hstart : startSource utcCrates hourListing = some (.timestamp 1700000000) := rfl
  have hend : endSource utcCrates hourListing = some (.timestamp 1700003600) := rfl
  constructor
  · rintro value (h | h)
    · rw [hstart] at h
      cases h
    · rw [hend] at h
      cases h
  · intro start finish hstart' hfinish' _ _
    cases hstart.symm.trans hstart'
    cases hend.symm.trans hfinish'
    simp [DateSource.Wraps]

/-- A second ends inside of a character, and the last number of 64 bits is a second before 1970. -/
theorem cut_and_wrapped_listings :
    ¬ SafeEpg utcCrates "7" (.array [.object [("start", .string "2024-01-01 12:34:5é")]]) ∧
      ¬ SafeEpg utcCrates "7" (.array [.object
        [("start_timestamp", .number 18446744073709551615),
          ("stop_timestamp", .number 1700003600)]]) := by
  constructor
  case left =>
    intro h
    have hsound := h.soundListing utcCrates_documented (List.mem_singleton.mpr rfl)
    have hsliced := hsound.boundaries "2024-01-01 12:34:5é" (.inl rfl)
    cases hsliced with
    | inl hparse => revert hparse; decide
    | inr hbounds => exact absurd (hbounds 19 (by simp)) (by decide)
  case right =>
    intro h
    have hsound := h.soundListing utcCrates_documented (List.mem_singleton.mpr rfl)
    have hwraps := hsound.timestamps (.timestamp 18446744073709551615) (.timestamp 1700003600)
      rfl rfl (.inr (by decide)) (.inl (by decide))
    exact hwraps.1 (by decide : 2 ^ 63 ≤ 18446744073709551615)

end Jellyrin.Xtream
