import Jellyrin.Defs.Data.Text
import Mathlib.Algebra.Order.Field.Power
import Mathlib.Tactic.Positivity
import Mathlib.Tactic.Linarith
import Mathlib.Tactic.Ring

/-! Decimal numbers and their shortest digits. -/

namespace Jellyrin.Decimal

def checkedI64 (i : Int) : Option Int := if -2 ^ 63 ≤ i ∧ i < 2 ^ 63 then some i else none

theorem checkedI64_eq_some {i : Int} (h : i.natAbs < 2 ^ 63) : checkedI64 i = some i := by
  rw [checkedI64, if_pos (by omega)]

def stripSign : List Char → Bool × List Char
  | '-' :: digits => (true, digits)
  | '+' :: digits => (false, digits)
  | digits => (false, digits)

def signed (negative : Bool) (digits : List Char) : Int :=
  if negative then -(Nat.ofDigitChars 10 digits 0 : Int) else Nat.ofDigitChars 10 digits 0

def parseI64 (cs : List Char) : Option Int :=
  let (negative, digits) := stripSign cs
  if digits.isEmpty || !digits.all Char.isDigit then none else checkedI64 (signed negative digits)

theorem stripSign_of_isDigit {c : Char} {cs : List Char} (h : c.isDigit = true) :
    stripSign (c :: cs) = (false, c :: cs) := by
  have hne : ∀ sign : Char, sign.isDigit = false → c ≠ sign := by
    rintro sign hsign rfl
    simp [h] at hsign
  rw [stripSign]
  · rintro digits hcons
    exact hne '-' (by decide) (List.cons.inj hcons).1
  · rintro digits hcons
    exact hne '+' (by decide) (List.cons.inj hcons).1

theorem parseI64_eq_some {cs digits : List Char} {negative : Bool}
    (hstrip : stripSign cs = (negative, digits)) (hdigits : ∀ c ∈ digits, c.isDigit = true)
    (hne : digits ≠ []) (hsmall : (signed negative digits).natAbs < 2 ^ 63) :
    parseI64 cs = some (signed negative digits) := by
  have hall : digits.all Char.isDigit = true := List.all_eq_true.mpr hdigits
  simp only [parseI64, hstrip, hall, Bool.not_true, Bool.or_false, List.isEmpty_iff, hne, if_false]
  exact checkedI64_eq_some hsmall

def value (negative : Bool) (digits : List Char) (power : Int) : ℚ :=
  (if negative then -1 else 1) * (Nat.ofDigitChars 10 digits 0 : ℚ) * 10 ^ power

theorem digitChar_toNat_sub {c : Char} (h : c.isDigit = true) :
    (c.toNat - '0'.toNat).digitChar = c := by
  have hrange : 48 ≤ c.toNat ∧ c.toNat ≤ 57 := by
    simpa [Char.isDigit, UInt32.le_iff_toNat_le] using h
  apply Char.toNat_inj.mp
  rw [Nat.toNat_digitChar_of_lt_ten (by simp; omega)]
  simp
  omega

theorem toNat_sub_lt_ten {c : Char} (h : c.isDigit = true) : c.toNat - '0'.toNat < 10 := by
  have hrange : 48 ≤ c.toNat ∧ c.toNat ≤ 57 := by
    simpa [Char.isDigit, UInt32.le_iff_toNat_le] using h
  simp
  omega

theorem toNat_sub_pos {c : Char} (h : c.isDigit = true) (hzero : c ≠ '0') :
    0 < c.toNat - '0'.toNat := by
  refine Nat.pos_of_ne_zero fun hsub => hzero ?_
  rw [← digitChar_toNat_sub h, hsub]
  rfl

theorem toDigits_append {acc : Nat} (hacc : 0 < acc) {cs : List Char}
    (h : ∀ c ∈ cs, c.isDigit = true) :
    Nat.toDigits 10 acc ++ cs = Nat.toDigits 10 (Nat.ofDigitChars 10 cs acc) := by
  induction cs generalizing acc with
  | nil => simp
  | cons c cs ih =>
    obtain ⟨hc, hcs⟩ := List.forall_mem_cons.mp h
    have hlast := Nat.toDigits_append_toDigits (b := 10) (n := acc) (by decide) hacc
      (toNat_sub_lt_ten hc)
    rw [Nat.toDigits_of_lt_base (toNat_sub_lt_ten hc), digitChar_toNat_sub hc] at hlast
    calc Nat.toDigits 10 acc ++ c :: cs
        = (Nat.toDigits 10 acc ++ [c]) ++ cs := by simp
      _ = Nat.toDigits 10 (10 * acc + (c.toNat - '0'.toNat)) ++ cs := by rw [hlast]
      _ = _ := by rw [ih (by omega) hcs, Nat.ofDigitChars_cons]

theorem ofDigitChars_ge (cs : List Char) (acc : Nat) : acc ≤ Nat.ofDigitChars 10 cs acc := by
  induction cs generalizing acc with
  | nil => simp
  | cons c cs ih =>
    rw [Nat.ofDigitChars_cons]
    exact (by omega : acc ≤ 10 * acc + _).trans (ih _)

structure IsNormal (digits : List Char) : Prop where
  isDigit : ∀ c ∈ digits, c.isDigit = true
  head : ∀ c ∈ digits.head?, c ≠ '0'
  last : ∀ c ∈ digits.getLast?, c ≠ '0'
  ne_nil : digits ≠ []

namespace IsNormal

variable {digits digits' : List Char}

theorem toDigits (h : IsNormal digits) :
    Nat.toDigits 10 (Nat.ofDigitChars 10 digits 0) = digits := by
  cases digits with
  | nil => exact absurd rfl h.ne_nil
  | cons c cs =>
    obtain ⟨hc, hcs⟩ := List.forall_mem_cons.mp h.isDigit
    have hpos := toNat_sub_pos hc (h.head c rfl)
    rw [Nat.ofDigitChars_cons, Nat.mul_zero, Nat.zero_add, ← toDigits_append hpos hcs,
      Nat.toDigits_of_lt_base (toNat_sub_lt_ten hc), digitChar_toNat_sub hc]
    rfl

theorem pos (h : IsNormal digits) : 0 < Nat.ofDigitChars 10 digits 0 := by
  cases digits with
  | nil => exact absurd rfl h.ne_nil
  | cons c cs =>
    have hpos := toNat_sub_pos (h.isDigit c List.mem_cons_self) (h.head c rfl)
    rw [Nat.ofDigitChars_cons, Nat.mul_zero, Nat.zero_add]
    exact lt_of_lt_of_le hpos (ofDigitChars_ge cs _)

theorem not_dvd (h : IsNormal digits) : ¬10 ∣ Nat.ofDigitChars 10 digits 0 := by
  obtain ⟨cs, c, rfl⟩ : ∃ cs c, digits = cs ++ [c] :=
    ⟨_, _, (List.dropLast_append_getLast h.ne_nil).symm⟩
  have hc := h.isDigit c (by simp)
  have hpos := toNat_sub_pos hc (h.last c (by simp))
  have hlt := toNat_sub_lt_ten hc
  rw [Nat.ofDigitChars_append, Nat.ofDigitChars_cons, Nat.ofDigitChars_nil]
  omega

theorem power_le (h : IsNormal digits) {power power' : Int}
    (heq : (Nat.ofDigitChars 10 digits 0 : ℚ) * 10 ^ power =
      (Nat.ofDigitChars 10 digits' 0 : ℚ) * 10 ^ power') : power' ≤ power := by
  by_contra! hlt
  obtain ⟨d, rfl⟩ : ∃ d : Nat, power' = power + (d + 1 : Nat) :=
    ⟨(power' - power - 1).toNat, by omega⟩
  rw [zpow_add₀ (by norm_num), ← mul_assoc, mul_right_comm] at heq
  have hnat : (Nat.ofDigitChars 10 digits 0 : ℚ) =
      (Nat.ofDigitChars 10 digits' 0 : ℚ) * 10 ^ (d + 1) := by
    exact_mod_cast mul_right_cancel₀ (zpow_ne_zero power (by norm_num)) heq
  have hcast : Nat.ofDigitChars 10 digits 0 = Nat.ofDigitChars 10 digits' 0 * 10 ^ (d + 1) := by
    exact_mod_cast hnat
  exact h.not_dvd (hcast ▸ Dvd.dvd.mul_left (dvd_pow_self 10 (Nat.succ_ne_zero d)) _)

theorem value_inj (h : IsNormal digits) (h' : IsNormal digits') {negative negative' : Bool}
    {power power' : Int} :
    value negative digits power = value negative' digits' power' ↔
      negative = negative' ∧ digits = digits' ∧ power = power' := by
  constructor
  · intro heq
    have hpos : (0 : ℚ) < Nat.ofDigitChars 10 digits 0 * 10 ^ power :=
      mul_pos (by exact_mod_cast h.pos) (by positivity)
    have hpos' : (0 : ℚ) < Nat.ofDigitChars 10 digits' 0 * 10 ^ power' :=
      mul_pos (by exact_mod_cast h'.pos) (by positivity)
    rw [value, value, mul_assoc, mul_assoc] at heq
    obtain rfl : negative = negative' := by
      cases negative <;> cases negative' <;> simp at heq ⊢ <;> linarith
    have habs : (Nat.ofDigitChars 10 digits 0 : ℚ) * 10 ^ power =
        (Nat.ofDigitChars 10 digits' 0 : ℚ) * 10 ^ power' := by
      cases negative <;> simpa using heq
    obtain rfl : power = power' := le_antisymm (h'.power_le habs.symm) (h.power_le habs)
    have hdigits : Nat.ofDigitChars 10 digits 0 = Nat.ofDigitChars 10 digits' 0 := by
      exact_mod_cast mul_right_cancel₀ (zpow_ne_zero power (by norm_num)) habs
    refine ⟨rfl, ?_, rfl⟩
    rw [← h.toDigits, hdigits, h'.toDigits]
  · rintro ⟨rfl, rfl, rfl⟩
    rfl

theorem value_ne_zero (h : IsNormal digits) (negative : Bool) (power : Int) :
    value negative digits power ≠ 0 := by
  have hpos : (Nat.ofDigitChars 10 digits 0 : ℚ) ≠ 0 := by exact_mod_cast h.pos.ne'
  rw [value]
  refine mul_ne_zero (mul_ne_zero ?_ hpos) (zpow_ne_zero power (by norm_num))
  cases negative <;> simp

end IsNormal

theorem value_dropWhile (negative : Bool) (digits : List Char) (power : Int) :
    value negative (digits.dropWhile (· == '0')) power = value negative digits power := by
  have hdrop : Nat.ofDigitChars 10 (digits.dropWhile (· == '0')) 0 =
      Nat.ofDigitChars 10 digits 0 := by
    induction digits with
    | nil => rfl
    | cons c cs ih =>
      by_cases hc : c = '0'
      · rw [List.dropWhile_cons_of_pos (by simp [hc]), ih, hc, Nat.ofDigitChars_cons]
        rfl
      · rw [List.dropWhile_cons_of_neg (by simp [hc])]
  rw [value, value, hdrop]

theorem value_append_zeros (negative : Bool) (digits : List Char) (count : Nat) (power : Int) :
    value negative (digits ++ List.replicate count '0') power =
      value negative digits (power + count) := by
  rw [value, value, Nat.ofDigitChars_append, Nat.ofDigitChars_replicate_zero,
    zpow_add₀ (by norm_num), zpow_natCast]
  push_cast
  ring

end Jellyrin.Decimal
