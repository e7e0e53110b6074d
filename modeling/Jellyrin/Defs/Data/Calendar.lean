import Jellyrin.Defs.Data.Numerals
import Mathlib.Algebra.Ring.Int.Defs

/-! The Gregorian calendar, and instants of UTC as texts. -/

namespace Jellyrin

structure Date where
  year : Int
  month : Int
  day : Int
  deriving DecidableEq

namespace Date

/-- The days before the first of March of a year, from that of the year 0 on. -/
def daysBeforeMarch (year : Int) : Int := 365 * year + year / 4 - year / 100 + year / 400

/-- The days from the first of March to the first of a month, of which March is 0. -/
def daysBeforeMonth (month : Int) : Int := (153 * month + 2) / 5

def toDays (date : Date) : Int :=
  let year := if date.month ≤ 2 then date.year - 1 else date.year
  let month := if date.month ≤ 2 then date.month + 9 else date.month - 3
  daysBeforeMarch year + daysBeforeMonth month + (date.day - 1) - 719468

def marchYear (days : Int) : Int :=
  let dayOfEra := days % 146097
  let century := min (dayOfEra / 36524) 3
  let dayOfCentury := dayOfEra - century * 36524
  let yearOfCycle := min (dayOfCentury % 1461 / 365) 3
  days / 146097 * 400 + century * 100 + dayOfCentury / 1461 * 4 + yearOfCycle

def marchMonth (dayOfYear : Int) : Int := (5 * dayOfYear + 2) / 153

def ofDays (days : Int) : Date :=
  let year := marchYear (days + 719468)
  let dayOfYear := days + 719468 - daysBeforeMarch year
  let month := marchMonth dayOfYear
  let day := dayOfYear - daysBeforeMonth month + 1
  if month < 10 then ⟨year, month + 3, day⟩ else ⟨year + 1, month - 9, day⟩

theorem daysBeforeMarch_eq {era century cycle year : Int} (hcentury : 0 ≤ century ∧ century ≤ 3)
    (hcycle : 0 ≤ cycle ∧ cycle ≤ 24) (hyear : 0 ≤ year ∧ year ≤ 3) :
    daysBeforeMarch (era * 400 + century * 100 + cycle * 4 + year) =
      era * 146097 + century * 36524 + cycle * 1461 + year * 365 := by
  have h4 : (era * 400 + century * 100 + cycle * 4 + year) / 4 =
      era * 100 + century * 25 + cycle := by omega
  have h100 : (era * 400 + century * 100 + cycle * 4 + year) / 100 = era * 4 + century := by omega
  have h400 : (era * 400 + century * 100 + cycle * 4 + year) / 400 = era := by omega
  rw [daysBeforeMarch, h4, h100, h400]
  omega

theorem dayOfYear_bounds (days : Int) :
    0 ≤ days - daysBeforeMarch (marchYear days) ∧
      days - daysBeforeMarch (marchYear days) ≤ 365 := by
  rw [marchYear, daysBeforeMarch_eq] <;> omega

theorem marchMonth_bounds {dayOfYear : Int} (h : 0 ≤ dayOfYear ∧ dayOfYear ≤ 365) :
    0 ≤ marchMonth dayOfYear ∧ marchMonth dayOfYear ≤ 11 := by
  unfold marchMonth
  omega

theorem dayOfMonth_bounds (dayOfYear : Int) :
    0 ≤ dayOfYear - daysBeforeMonth (marchMonth dayOfYear) ∧
      dayOfYear - daysBeforeMonth (marchMonth dayOfYear) ≤ 30 := by
  unfold marchMonth daysBeforeMonth
  omega

theorem toDays_ofDays (days : Int) : (ofDays days).toDays = days := by
  have hday := dayOfYear_bounds (days + 719468)
  have hmonth := marchMonth_bounds hday
  unfold ofDays
  dsimp only
  split
  · simp only [toDays]
    rw [if_neg (by omega), if_neg (by omega), Int.add_sub_cancel]
    omega
  · simp only [toDays]
    rw [if_pos (by omega), if_pos (by omega), Int.add_sub_cancel, Int.sub_add_cancel]
    omega

theorem month_bounds (days : Int) : 1 ≤ (ofDays days).month ∧ (ofDays days).month ≤ 12 := by
  have hmonth := marchMonth_bounds (dayOfYear_bounds (days + 719468))
  unfold ofDays
  dsimp only
  split <;> dsimp only <;> omega

theorem day_bounds (days : Int) : 1 ≤ (ofDays days).day ∧ (ofDays days).day ≤ 31 := by
  have hday := dayOfMonth_bounds (days + 719468 - daysBeforeMarch (marchYear (days + 719468)))
  unfold ofDays
  dsimp only
  split <;> dsimp only <;> omega

theorem year_bounds {days : Int} (hfirst : 0 ≤ days) (hlast : days ≤ 2932896) :
    0 ≤ (ofDays days).year ∧ (ofDays days).year ≤ 9999 := by
  have hday := dayOfYear_bounds (days + 719468)
  unfold ofDays
  dsimp only
  generalize marchYear (days + 719468) = year at hday ⊢
  have hyear : 0 ≤ year ∧ year ≤ 9999 := by
    unfold daysBeforeMarch at hday
    omega
  split
  case isTrue hmonth => exact hyear
  case isFalse hmonth =>
    by_cases hten : year = 9999
    · subst hten
      simp only [marchMonth, daysBeforeMarch] at hmonth
      omega
    · dsimp only
      omega

end Date

/-! Texts. -/

namespace Instant

open Text

def ofParts (date : Date) (hour minute second : Int) : Int :=
  date.toDays * 86400 + hour * 3600 + minute * 60 + second

def number (width : Nat) (cs : List Char) : Option (Nat × List Char) :=
  if (cs.take width).length = width ∧ (cs.take width).all Char.isDigit then
    some (Nat.ofDigitChars 10 (cs.take width) 0, cs.drop width)
  else none

def literal (c : Char) : List Char → Option (List Char)
  | [] => none
  | d :: cs => if d = c then some cs else none

def ofText (text : String) : Option Int := do
  let (year, cs) ← number 4 text.toList
  let (month, cs) ← number 2 (← literal '-' cs)
  let (day, cs) ← number 2 (← literal '-' cs)
  let (hour, cs) ← number 2 (← literal 'T' cs)
  let (minute, cs) ← number 2 (← literal ':' cs)
  let (second, cs) ← number 2 (← literal ':' cs)
  let cs ← literal 'Z' cs
  if cs = [] then some (ofParts ⟨year, month, day⟩ hour minute second) else none

def joinParts (year month day hour minute second : String) : String :=
  year ++ "-" ++ month ++ "-" ++ day ++ "T" ++ hour ++ ":" ++ minute ++ ":" ++ second ++ "Z"

def toText (seconds : Int) : String :=
  let date := Date.ofDays (seconds / 86400)
  let time := (seconds % 86400).toNat
  joinParts (zeroPadded 4 date.year.toNat) (zeroPadded 2 date.month.toNat)
    (zeroPadded 2 date.day.toNat) (zeroPadded 2 (time / 3600)) (zeroPadded 2 (time / 60 % 60))
    (zeroPadded 2 (time % 60))

structure HasDigits (width : Nat) (s : String) : Prop where
  length : s.toList.length = width
  isDigit : ∀ c ∈ s.toList, c.isDigit = true

theorem number_append {width : Nat} {s : String} (h : HasDigits width s) (cs : List Char) :
    number width (s.toList ++ cs) = some (numeralValue s, cs) := by
  have htake : (s.toList ++ cs).take width = s.toList := by
    rw [← h.length, List.take_left]
  have hdrop : (s.toList ++ cs).drop width = cs := by
    rw [← h.length, List.drop_left]
  rw [number, htake, hdrop, if_pos ⟨h.length, List.all_eq_true.mpr h.isDigit⟩]
  rfl

theorem literal_cons (c : Char) (cs : List Char) : literal c (c :: cs) = some cs := if_pos rfl

theorem ofText_joinParts {year month day hour minute second : String} (hyear : HasDigits 4 year)
    (hmonth : HasDigits 2 month) (hday : HasDigits 2 day) (hhour : HasDigits 2 hour)
    (hminute : HasDigits 2 minute) (hsecond : HasDigits 2 second) :
    ofText (joinParts year month day hour minute second) =
      some (ofParts ⟨numeralValue year, numeralValue month, numeralValue day⟩ (numeralValue hour)
        (numeralValue minute) (numeralValue second)) := by
  simp only [ofText, joinParts, String.toList_append, String.reduceToList, List.append_assoc,
    List.cons_append, List.nil_append, number_append hyear, number_append hmonth,
    number_append hday, number_append hhour, number_append hminute, Option.bind_eq_bind,
    Option.bind_some, literal_cons, number_append hsecond, if_true]

theorem hasDigits_zeroPadded {width n : Nat} (hwidth : 0 < width) (h : n < 10 ^ width) :
    HasDigits width (zeroPadded width n) where
  length := length_zeroPadded ((Nat.length_toDigits_le_iff (by decide) hwidth).mpr h)
  isDigit := (isNumeral_zeroPadded width n).2

theorem ofText_toText {seconds : Int} (h : 0 ≤ (Date.ofDays (seconds / 86400)).year ∧
    (Date.ofDays (seconds / 86400)).year ≤ 9999) : ofText (toText seconds) = some seconds := by
  have hmonth := Date.month_bounds (seconds / 86400)
  have hday := Date.day_bounds (seconds / 86400)
  have hdays := Date.toDays_ofDays (seconds / 86400)
  unfold toText
  generalize Date.ofDays (seconds / 86400) = date at h hmonth hday hdays
  rw [ofText_joinParts (hasDigits_zeroPadded (by decide) (by omega))
    (hasDigits_zeroPadded (by decide) (by omega)) (hasDigits_zeroPadded (by decide) (by omega))
    (hasDigits_zeroPadded (by decide) (by omega)) (hasDigits_zeroPadded (by decide) (by omega))
    (hasDigits_zeroPadded (by decide) (by omega))]
  simp only [numeralValue_zeroPadded, Int.toNat_of_nonneg h.1,
    Int.toNat_of_nonneg (Int.le_trans Int.one_nonneg hmonth.1),
    Int.toNat_of_nonneg (Int.le_trans Int.one_nonneg hday.1), ofParts]
  rw [show (⟨date.year, date.month, date.day⟩ : Date) = date from rfl, hdays]
  congr 1
  omega

end Instant

end Jellyrin
