import Jellyrin.Defs.Data.Calendar

/-! The window of a recording, which is worked out in three places. -/

namespace Jellyrin.LiveTv.Timers

open Ascii Text

inductive DatePanic where
  | outOfRange
  deriving DecidableEq

def nanosPerSecond : Int := 1000000000

/-- The first and the last nanosecond of the years that the crate `time` has. -/
def firstNanos : Int := Date.toDays ⟨-9999, 1, 1⟩ * 86400 * nanosPerSecond

def lastNanos : Int := (Date.toDays ⟨9999, 12, 31⟩ + 1) * 86400 * nanosPerSecond - 1

def IsLocal (nanos : Int) : Prop := firstNanos ≤ nanos ∧ nanos ≤ lastNanos

instance (nanos : Int) : Decidable (IsLocal nanos) := inferInstanceAs (Decidable (_ ∧ _))

/-- A date and time of day in nanoseconds since 1970, and how much it is ahead of UTC. -/
structure OffsetDateTime where
  localNanos : Int
  offsetSeconds : Int
  isLocal : IsLocal localNanos

namespace OffsetDateTime

def instant (time : OffsetDateTime) : Int := time.localNanos - time.offsetSeconds * nanosPerSecond

def addSeconds (time : OffsetDateTime) (seconds : Int) : Except DatePanic OffsetDateTime :=
  if h : IsLocal (time.localNanos + seconds * nanosPerSecond) then
    .ok ⟨time.localNanos + seconds * nanosPerSecond, time.offsetSeconds, h⟩
  else .error .outOfRange

end OffsetDateTime

variable (parseRfc3339 : String → Option OffsetDateTime)

def dateField (timer : Json) (field : String) : Option OffsetDateTime :=
  (timer.stringField field).bind parseRfc3339

def liveTvTimerStartDate (timer : Json) : Option OffsetDateTime :=
  dateField parseRfc3339 timer "StartDate"

def numericPadding (timer : Json) : Option Int := (timer.get "PostPaddingSeconds").bind Json.asI64

def liveTvTimerPostPaddingSeconds (timer : Json) : Int :=
  (((timer.stringField "PostPaddingSeconds").bind parseI64).or (numericPadding timer)).getD 0

def liveTvTimerRecordingEnd (timer : Json) : Except DatePanic (Option OffsetDateTime) :=
  match dateField parseRfc3339 timer "EndDate" with
  | some endDate => some <$> endDate.addSeconds (liveTvTimerPostPaddingSeconds timer)
  | none => .ok none

def spawnRecordingEnd (timer : Json) : Except DatePanic (Option OffsetDateTime) :=
  match dateField parseRfc3339 timer "EndDate" with
  | some endDate => some <$> endDate.addSeconds ((numericPadding timer).getD 0)
  | none => .ok none

def channelRecordingEnd (now : OffsetDateTime) (timer : Json) : Except DatePanic OffsetDateTime :=
  let endDate := (dateField parseRfc3339 timer "EndDate").getD now
  let postPaddingSecs :=
    (((timer.stringField "PostPaddingSeconds").bind parseI64).or (numericPadding timer)).getD 0
  endDate.addSeconds postPaddingSecs

def OneWindow (now : OffsetDateTime) (timer : Json) : Prop :=
  ∃ first second third, liveTvTimerRecordingEnd parseRfc3339 timer = .ok (some first) ∧
    spawnRecordingEnd parseRfc3339 timer = .ok (some second) ∧
    channelRecordingEnd parseRfc3339 now timer = .ok third ∧
    first.instant = second.instant ∧ second.instant = third.instant

/-- A padding that is written as a text is written as a number too, and it does not lead past the
last day. -/
structure HasPlainPadding (timer : Json) (endDate : OffsetDateTime) : Prop where
  text : ∀ seconds, (timer.stringField "PostPaddingSeconds").bind parseI64 = some seconds →
    seconds = (numericPadding timer).getD 0
  day : IsLocal (endDate.localNanos + (numericPadding timer).getD 0 * nanosPerSecond)

variable {parseRfc3339}

theorem addSeconds_eq_ok {time later : OffsetDateTime} {seconds : Int} :
    time.addSeconds seconds = .ok later ↔
      later.localNanos = time.localNanos + seconds * nanosPerSecond ∧
        later.offsetSeconds = time.offsetSeconds := by
  rw [OffsetDateTime.addSeconds]
  obtain ⟨nanos, offset, hlocal⟩ := later
  split
  · rw [Except.ok.injEq, OffsetDateTime.mk.injEq]
    exact and_congr eq_comm eq_comm
  · rename_i h
    exact iff_of_false (by simp) fun hlater => h (hlater.1 ▸ hlocal)

theorem exists_addSeconds_iff {time : OffsetDateTime} {seconds : Int} :
    (∃ later, time.addSeconds seconds = .ok later) ↔
      IsLocal (time.localNanos + seconds * nanosPerSecond) := by
  rw [OffsetDateTime.addSeconds]
  split
  · rename_i h
    exact iff_of_true ⟨_, rfl⟩ h
  · rename_i h
    exact iff_of_false (by simp) h

theorem addSeconds_inj {time first second : OffsetDateTime} {seconds others : Int}
    (hfirst : time.addSeconds seconds = .ok first) (hsecond : time.addSeconds others = .ok second) :
    first.instant = second.instant ↔ seconds = others := by
  obtain ⟨hnanos, hoffset⟩ := addSeconds_eq_ok.mp hfirst
  obtain ⟨hnanos', hoffset'⟩ := addSeconds_eq_ok.mp hsecond
  rw [OffsetDateTime.instant, OffsetDateTime.instant, hnanos, hnanos', hoffset, hoffset']
  simp only [nanosPerSecond]
  omega

theorem map_some_eq_ok {result : Except DatePanic OffsetDateTime} {later : OffsetDateTime} :
    some <$> result = .ok (some later) ↔ result = .ok later := by
  cases result with
  | error panic => exact iff_of_false (by rintro ⟨⟩) (by rintro ⟨⟩)
  | ok time => simp [Functor.map, Except.map]

theorem postPaddingSeconds_eq_iff (timer : Json) :
    liveTvTimerPostPaddingSeconds timer = (numericPadding timer).getD 0 ↔
      ∀ seconds, (timer.stringField "PostPaddingSeconds").bind parseI64 = some seconds →
        seconds = (numericPadding timer).getD 0 := by
  rw [liveTvTimerPostPaddingSeconds]
  cases (timer.stringField "PostPaddingSeconds").bind parseI64 with
  | none => simp
  | some seconds => simp

section

variable {now endDate : OffsetDateTime} {timer : Json}
  (hend : dateField parseRfc3339 timer "EndDate" = some endDate)
include hend

theorem liveTvTimerRecordingEnd_eq_ok {finish : OffsetDateTime} :
    liveTvTimerRecordingEnd parseRfc3339 timer = .ok (some finish) ↔
      endDate.addSeconds (liveTvTimerPostPaddingSeconds timer) = .ok finish := by
  rw [liveTvTimerRecordingEnd, hend, map_some_eq_ok]

theorem spawnRecordingEnd_eq_ok {finish : OffsetDateTime} :
    spawnRecordingEnd parseRfc3339 timer = .ok (some finish) ↔
      endDate.addSeconds ((numericPadding timer).getD 0) = .ok finish := by
  rw [spawnRecordingEnd, hend, map_some_eq_ok]

theorem channelRecordingEnd_eq :
    channelRecordingEnd parseRfc3339 now timer =
      endDate.addSeconds (liveTvTimerPostPaddingSeconds timer) := by
  rw [channelRecordingEnd, hend, Option.getD_some, liveTvTimerPostPaddingSeconds]

theorem OneWindow.hasPlainPadding (h : OneWindow parseRfc3339 now timer) :
    HasPlainPadding timer endDate := by
  obtain ⟨first, second, third, hfirst, hsecond, -, hsame, -⟩ := h
  rw [liveTvTimerRecordingEnd_eq_ok hend] at hfirst
  rw [spawnRecordingEnd_eq_ok hend] at hsecond
  exact ⟨(postPaddingSeconds_eq_iff timer).mp ((addSeconds_inj hfirst hsecond).mp hsame),
    exists_addSeconds_iff.mp ⟨second, hsecond⟩⟩

theorem HasPlainPadding.oneWindow (h : HasPlainPadding timer endDate) :
    OneWindow parseRfc3339 now timer := by
  obtain ⟨finish, hfinish⟩ := exists_addSeconds_iff.mpr h.day
  have hpadding := (postPaddingSeconds_eq_iff timer).mpr h.text
  refine ⟨finish, finish, finish, ?_, ?_, ?_, rfl, rfl⟩
  · rwa [liveTvTimerRecordingEnd_eq_ok hend, hpadding]
  · rwa [spawnRecordingEnd_eq_ok hend]
  · rwa [channelRecordingEnd_eq hend, hpadding]

end

/-- A timer has one window exactly where its padding is a number, or the same number as a text, and
the padded end is a date. -/
theorem oneWindow_iff (now : OffsetDateTime) {timer : Json} {endDate : OffsetDateTime}
    (hend : dateField parseRfc3339 timer "EndDate" = some endDate) :
    OneWindow parseRfc3339 now timer ↔ HasPlainPadding timer endDate :=
  ⟨OneWindow.hasPlainPadding hend, HasPlainPadding.oneWindow hend⟩

def lastEvening : OffsetDateTime := ⟨lastNanos + 1 - 3600 * nanosPerSecond, 0, by decide⟩

def lastEveningOnly (text : String) : Option OffsetDateTime :=
  if text = "9999-12-31T23:00:00Z" then some lastEvening else none

theorem oneWindow_iff_lastEvening :
    OneWindow lastEveningOnly lastEvening (.object [("EndDate", .string "9999-12-31T23:00:00Z"),
      ("PostPaddingSeconds", .number 60)]) := by
  refine (oneWindow_iff lastEvening rfl).mpr ⟨fun seconds hseconds => ?_, by decide⟩
  cases hseconds

/-- A padding of a minute that is a text is not read before a start, and one of an hour leads past
the last day. -/
theorem not_oneWindow :
    ¬ OneWindow lastEveningOnly lastEvening (.object [("EndDate", .string "9999-12-31T23:00:00Z"),
      ("PostPaddingSeconds", .string "60")]) ∧
    ¬ OneWindow lastEveningOnly lastEvening (.object [("EndDate", .string "9999-12-31T23:00:00Z"),
      ("PostPaddingSeconds", .number 3600)]) := by
  constructor
  · intro h
    have hplain : HasPlainPadding _ lastEvening := OneWindow.hasPlainPadding rfl h
    exact absurd (hplain.text 60 (by decide)) (by decide)
  · intro h
    have hplain : HasPlainPadding _ lastEvening := OneWindow.hasPlainPadding rfl h
    exact absurd hplain.day (by decide)

end Jellyrin.LiveTv.Timers
