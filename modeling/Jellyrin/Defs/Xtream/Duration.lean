import Jellyrin.Defs.Data.FixedWidth
import Jellyrin.Defs.Data.Numerals
import Jellyrin.Defs.Xtream.Catalogue

/-! The running time of an item. -/

namespace Jellyrin.Xtream

open I64 Text

def secondsOfParts : List Int → Except Overflow (Option Int)
  | [hours, minutes, seconds] => do
    let sum ← add (← mul hours 3600) (← mul minutes 60)
    return some (← add sum seconds)
  | [minutes, seconds] => return some (← add (← mul minutes 60) seconds)
  | [seconds] => return some seconds
  | _ => return none

def durationParts (duration : String) : List Int :=
  (split ':' duration).filterMap parseI64

def durationNumber (value : Json) : Option Int :=
  xtreamI64 value ["duration_secs", "duration_seconds", "duration"]

def durationSeconds (value : Json) : Except Overflow (Option Int) :=
  match durationNumber value with
  | some seconds => return some seconds
  | none =>
    match value.stringField "duration" with
    | some duration => secondsOfParts (durationParts duration)
    | none => return none

def ticksOfSeconds (seconds : Int) : Option Int :=
  if 0 < seconds then some (saturatingMul seconds 10000000) else none

def durationTicksFromMetadata (value : Json) : Except Overflow (Option Int) := do
  return (← durationSeconds value).bind ticksOfSeconds

/-! Which durations are read as they are written. -/

/-! Forms of a duration. -/

def formSeconds : List Int → Option Int
  | [hours, minutes, seconds] => some (hours * 3600 + minutes * 60 + seconds)
  | [minutes, seconds] => some (minutes * 60 + seconds)
  | [seconds] => some seconds
  | _ => none

def StepsFit : List Int → Prop
  | [hours, minutes, seconds] =>
    InRange (hours * 3600) ∧ InRange (minutes * 60) ∧ InRange (hours * 3600 + minutes * 60) ∧
      InRange (hours * 3600 + minutes * 60 + seconds)
  | [minutes, seconds] => InRange (minutes * 60) ∧ InRange (minutes * 60 + seconds)
  | _ => True

def IsInteger (field : String) : Prop :=
  match field.toList with
  | '-' :: digits => IsNumeral (String.ofList digits)
  | '+' :: digits => IsNumeral (String.ofList digits)
  | _ => IsNumeral field

def durationText (value : Json) : Option String :=
  match durationNumber value with
  | some _ => none
  | none => value.stringField "duration"

/-- The ticks of so many seconds, if they are positive and a tick count can represent them. -/
def Represents (seconds : Nat) (result : Except Overflow (Option Int)) : Prop :=
  if 0 < seconds ∧ (seconds : Int) * 10000000 < 2 ^ 63 then
    result = .ok (some (seconds * 10000000))
  else result = .ok none ∨ result = .ok (some (2 ^ 63 - 1))

structure ReadsDuration (value : Json) : Prop where
  noOverflow : durationTicksFromMetadata value ≠ .error .overflow
  hoursMinutesSeconds : ∀ text hours minutes seconds, durationText value = some text →
    split ':' text = [hours, minutes, seconds] →
    IsNumeral hours → IsNumeral minutes → IsNumeral seconds →
    Represents (3600 * numeralValue hours + 60 * numeralValue minutes + numeralValue seconds)
      (durationTicksFromMetadata value)
  minutesSeconds : ∀ text minutes seconds, durationText value = some text →
    split ':' text = [minutes, seconds] → IsNumeral minutes → IsNumeral seconds →
    Represents (60 * numeralValue minutes + numeralValue seconds) (durationTicksFromMetadata value)
  noShorterForm : ∀ text, durationText value = some text →
    (∃ field ∈ split ':' text, ¬ IsInteger field) → durationTicksFromMetadata value = .ok none

/-- What is left of a text without the fields that are no numbers of `i64`. -/
structure SoundText (text : String) : Prop where
  stepsFit : StepsFit (durationParts text)
  /-- With a field that is no integer, nothing positive is left. -/
  notPositive : (∃ field ∈ split ':' text, ¬ IsInteger field) →
    ∀ seconds ∈ formSeconds (durationParts text), seconds ≤ 0
  /-- With a number out of the range, nothing positive is left, or too much for a tick count. -/
  outOfRange : (split ':' text).length = 2 ∨ (split ':' text).length = 3 →
    (∀ field ∈ split ':' text, IsNumeral field) →
    (∃ field ∈ split ':' text, 2 ^ 63 ≤ numeralValue field) →
    ∀ seconds ∈ formSeconds (durationParts text), seconds ≤ 0 ∨ 2 ^ 63 ≤ seconds * 10000000

/-! The computation. -/

theorem secondsOfParts_of_stepsFit {parts : List Int} (h : StepsFit parts) :
    secondsOfParts parts = .ok (formSeconds parts) := by
  match parts with
  | [hours, minutes, seconds] =>
    obtain ⟨hhours, hminutes, hsum, htotal⟩ := h
    simp only [secondsOfParts, add, mul, checked_bind_of_inRange, hhours, hminutes, hsum, htotal]
    rfl
  | [minutes, seconds] =>
    obtain ⟨hminutes, htotal⟩ := h
    simp only [secondsOfParts, add, mul, checked_bind_of_inRange, hminutes, htotal]
    rfl
  | [seconds] => rfl
  | [] => rfl
  | _ :: _ :: _ :: _ :: _ => rfl

theorem stepsFit_of_secondsOfParts {parts : List Int}
    (h : secondsOfParts parts ≠ .error .overflow) : StepsFit parts := by
  by_contra hsteps
  apply h
  match parts with
  | [hours, minutes, seconds] =>
    by_cases hhours : InRange (hours * 3600)
    case neg => simp only [secondsOfParts, mul, checked_bind_of_not_inRange hhours]
    by_cases hminutes : InRange (minutes * 60)
    case neg =>
      simp only [secondsOfParts, mul, checked_bind_of_inRange hhours,
        checked_bind_of_not_inRange hminutes]
    by_cases hsum : InRange (hours * 3600 + minutes * 60)
    case neg =>
      simp only [secondsOfParts, add, mul, checked_bind_of_inRange hhours,
        checked_bind_of_inRange hminutes, checked_bind_of_not_inRange hsum]
    have htotal : ¬ InRange (hours * 3600 + minutes * 60 + seconds) := fun htotal =>
      hsteps ⟨hhours, hminutes, hsum, htotal⟩
    simp only [secondsOfParts, add, mul, checked_bind_of_inRange hhours,
      checked_bind_of_inRange hminutes, checked_bind_of_inRange hsum,
      checked_bind_of_not_inRange htotal]
  | [minutes, seconds] =>
    by_cases hminutes : InRange (minutes * 60)
    case neg => simp only [secondsOfParts, mul, checked_bind_of_not_inRange hminutes]
    have htotal : ¬ InRange (minutes * 60 + seconds) := fun htotal => hsteps ⟨hminutes, htotal⟩
    simp only [secondsOfParts, add, mul, checked_bind_of_inRange hminutes,
      checked_bind_of_not_inRange htotal]
  | [seconds] => exact absurd trivial hsteps
  | [] => exact absurd trivial hsteps
  | _ :: _ :: _ :: _ :: _ => exact absurd trivial hsteps

section Text

variable {value : Json} {text : String}

theorem durationSeconds_of_durationText (h : durationText value = some text) :
    durationSeconds value = secondsOfParts (durationParts text) := by
  cases hnumber : durationNumber value with
  | some number =>
    simp only [durationText, hnumber] at h
    cases h
  | none =>
    simp only [durationText, hnumber] at h
    simp only [durationSeconds, hnumber, h]

theorem durationTicks_of_stepsFit (h : durationText value = some text)
    (hsteps : StepsFit (durationParts text)) :
    durationTicksFromMetadata value =
      .ok ((formSeconds (durationParts text)).bind ticksOfSeconds) := by
  rw [durationTicksFromMetadata, durationSeconds_of_durationText h,
    secondsOfParts_of_stepsFit hsteps]
  rfl

theorem stepsFit_of_noOverflow (h : durationText value = some text)
    (hticks : durationTicksFromMetadata value ≠ .error .overflow) :
    StepsFit (durationParts text) := by
  apply stepsFit_of_secondsOfParts
  intro hoverflow
  apply hticks
  rw [durationTicksFromMetadata, durationSeconds_of_durationText h, hoverflow]
  rfl

end Text

theorem durationTicks_of_durationText_none {value : Json} (h : durationText value = none) :
    durationTicksFromMetadata value ≠ .error .overflow := by
  have hseconds : ∃ seconds, durationSeconds value = .ok seconds := by
    cases hnumber : durationNumber value with
    | some number =>
      simp only [durationSeconds, hnumber]
      exact ⟨some number, rfl⟩
    | none =>
      simp only [durationText, hnumber] at h
      simp only [durationSeconds, hnumber, h]
      exact ⟨none, rfl⟩
  obtain ⟨seconds, hseconds⟩ := hseconds
  rw [durationTicksFromMetadata, hseconds]
  rintro ⟨⟩

/-! Ticks. -/

theorem ticksOfSeconds_eq_none {seconds : Int} : ticksOfSeconds seconds = none ↔ seconds ≤ 0 := by
  simp [ticksOfSeconds]

theorem ticksOfSeconds_eq_max {seconds : Int} (h : 0 < seconds) :
    ticksOfSeconds seconds = some (2 ^ 63 - 1) ↔ 2 ^ 63 ≤ seconds * 10000000 := by
  rw [ticksOfSeconds, if_pos h, Option.some_inj]
  by_cases hlt : seconds * 10000000 < 2 ^ 63
  · rw [saturatingMul_of_lt (by omega) hlt]
    omega
  · rw [saturatingMul_of_le (by omega)]
    omega

theorem bind_ticks_eq_none {form : Option Int} :
    form.bind ticksOfSeconds = none ↔ ∀ seconds ∈ form, seconds ≤ 0 := by
  cases form with
  | none => simp
  | some seconds => simp [ticksOfSeconds_eq_none]

theorem bind_ticks_eq_none_or_max {form : Option Int} :
    form.bind ticksOfSeconds = none ∨ form.bind ticksOfSeconds = some (2 ^ 63 - 1) ↔
      ∀ seconds ∈ form, seconds ≤ 0 ∨ 2 ^ 63 ≤ seconds * 10000000 := by
  cases form with
  | none => simp
  | some seconds =>
    simp only [Option.bind_some, Option.mem_some_iff, forall_eq']
    rw [ticksOfSeconds_eq_none]
    by_cases hpos : 0 < seconds
    · rw [ticksOfSeconds_eq_max hpos]
    · simp [Int.not_lt.mp hpos]

theorem represents_ticks (seconds : Nat) :
    Represents seconds (.ok (ticksOfSeconds (seconds : Int))) := by
  unfold Represents
  split
  case isTrue h =>
    have hpos : 0 < (seconds : Int) := by omega
    rw [ticksOfSeconds, if_pos hpos, saturatingMul_of_lt (by omega) h.2]
  case isFalse h =>
    by_cases hpos : 0 < (seconds : Int)
    · right
      rw [(ticksOfSeconds_eq_max hpos).mpr (by omega)]
    · left
      rw [ticksOfSeconds_eq_none.mpr (by omega)]

theorem represents_of_le {seconds : Nat} (h : 2 ^ 63 ≤ seconds) {ticks : Option Int} :
    Represents seconds (.ok ticks) ↔ ticks = none ∨ ticks = some (2 ^ 63 - 1) := by
  rw [Represents, if_neg (by omega)]
  simp

/-! The fields. -/

theorem durationParts_of_isNumeral {text : String}
    (h : ∀ field ∈ split ':' text, IsNumeral field)
    (hrange : ∀ field ∈ split ':' text, numeralValue field < 2 ^ 63) :
    durationParts text = (split ':' text).map fun field => (numeralValue field : Int) := by
  rw [durationParts, ← List.filterMap_eq_map]
  apply List.filterMap_congr
  intro field hfield
  exact parseI64_of_isNumeral (h field hfield) (hrange field hfield)

theorem SoundText.represents {text : String} (h : SoundText text)
    (hnumeral : ∀ field ∈ split ':' text, IsNumeral field) {seconds : Nat}
    (hlength : (split ':' text).length = 2 ∨ (split ':' text).length = 3)
    (hform : formSeconds ((split ':' text).map fun field => (numeralValue field : Int)) =
      some (seconds : Int))
    (hle : ∀ field ∈ split ':' text, numeralValue field ≤ seconds) :
    Represents seconds (.ok ((formSeconds (durationParts text)).bind ticksOfSeconds)) := by
  by_cases hrange : ∀ field ∈ split ':' text, numeralValue field < 2 ^ 63
  case pos =>
    rw [durationParts_of_isNumeral hnumeral hrange, hform]
    exact represents_ticks seconds
  case neg =>
    simp only [not_forall, not_lt] at hrange
    obtain ⟨field, hfield, hlarge⟩ := hrange
    rw [represents_of_le (hlarge.trans (hle field hfield)), bind_ticks_eq_none_or_max]
    exact h.outOfRange hlength hnumeral ⟨field, hfield, hlarge⟩

theorem readsDuration_iff (value : Json) :
    ReadsDuration value ↔ ∀ text, durationText value = some text → SoundText text := by
  constructor
  case mp =>
    intro h text htext
    have hsteps := stepsFit_of_noOverflow htext h.noOverflow
    have hticks := durationTicks_of_stepsFit htext hsteps
    constructor
    case stepsFit => exact hsteps
    case notPositive =>
      intro hfield
      have hnone := h.noShorterForm text htext hfield
      rw [hticks, Except.ok.injEq] at hnone
      exact bind_ticks_eq_none.mp hnone
    case outOfRange =>
      intro hlength hnumeral hlarge
      rw [← bind_ticks_eq_none_or_max]
      cases hlength with
      | inl htwo =>
        obtain ⟨minutes, seconds, hsplit⟩ := List.length_eq_two.mp htwo
        have hrep := h.minutesSeconds text minutes seconds htext hsplit
        simp only [hsplit, List.mem_cons, List.not_mem_nil, or_false, forall_eq_or_imp,
          forall_eq, exists_eq_or_imp, exists_eq_left] at hnumeral hlarge
        rw [hticks] at hrep
        rw [← represents_of_le]
        · exact hrep hnumeral.1 hnumeral.2
        · omega
      | inr hthree =>
        obtain ⟨hours, minutes, seconds, hsplit⟩ := List.length_eq_three.mp hthree
        have hrep := h.hoursMinutesSeconds text hours minutes seconds htext hsplit
        simp only [hsplit, List.mem_cons, List.not_mem_nil, or_false, forall_eq_or_imp,
          forall_eq, exists_eq_or_imp, exists_eq_left] at hnumeral hlarge
        rw [hticks] at hrep
        rw [← represents_of_le]
        · exact hrep hnumeral.1 hnumeral.2.1 hnumeral.2.2
        · omega
  case mpr =>
    intro h
    constructor
    case noOverflow =>
      cases htext : durationText value with
      | none => exact durationTicks_of_durationText_none htext
      | some text =>
        rw [durationTicks_of_stepsFit htext (h text htext).stepsFit]
        rintro ⟨⟩
    case hoursMinutesSeconds =>
      intro text hours minutes seconds htext hsplit hhours hminutes hseconds
      rw [durationTicks_of_stepsFit htext (h text htext).stepsFit]
      apply (h text htext).represents
      · simp [hsplit, hhours, hminutes, hseconds]
      · simp [hsplit]
      · simp [hsplit, formSeconds]
        omega
      · simp [hsplit]
        omega
    case minutesSeconds =>
      intro text minutes seconds htext hsplit hminutes hseconds
      rw [durationTicks_of_stepsFit htext (h text htext).stepsFit]
      apply (h text htext).represents
      · simp [hsplit, hminutes, hseconds]
      · simp [hsplit]
      · simp [hsplit, formSeconds]
        omega
      · simp [hsplit]
        omega
    case noShorterForm =>
      intro text htext hfield
      rw [durationTicks_of_stepsFit htext (h text htext).stepsFit,
        bind_ticks_eq_none.mpr ((h text htext).notPositive hfield)]

/-- Ninety seconds are read where the minutes are not a number, and the hours of a long duration
overflow. -/
theorem durations_read_wrong :
    ¬ ReadsDuration (.object [("duration", .string "1:xx:30")]) ∧
      ¬ ReadsDuration (.object [("duration", .string "9223372036854775807:0:0")]) := by
  constructor
  case left =>
    intro h
    have hfield : ∃ field ∈ split ':' "1:xx:30", ¬ IsInteger field :=
      ⟨"xx", by decide, fun h => absurd (h.2 'x' (by decide)) (by decide)⟩
    have htext : durationText (.object [("duration", .string "1:xx:30")]) = some "1:xx:30" := by
      decide
    have hparts : durationParts "1:xx:30" = [1, 30] := by decide
    have hnone := h.noShorterForm "1:xx:30" htext hfield
    rw [durationTicks_of_stepsFit htext (by rw [hparts]; simp [StepsFit, InRange]), hparts] at hnone
    have hpositive := bind_ticks_eq_none.mp (Except.ok.inj hnone) 90 rfl
    omega
  case right =>
    intro h
    exact h.noOverflow rfl

end Jellyrin.Xtream
