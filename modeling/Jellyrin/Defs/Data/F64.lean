import Jellyrin.Defs.Data.Text
import Mathlib.Algebra.Order.Field.Power
import Mathlib.Data.Int.Log
import Mathlib.Data.Rat.Floor
import Mathlib.Tactic.Positivity

/-! The values of `f64` from zero on, away from its limits. -/

namespace Jellyrin.F64

open Text

def nearest (q : ℚ) : Nat :=
  let whole := ⌊q⌋₊
  if q - whole < 1 / 2 ∨ q - whole = 1 / 2 ∧ whole % 2 = 0 then whole else whole + 1

def round (q : ℚ) : ℚ :=
  if q = 0 then 0
  else
    let unit : ℚ := 2 ^ (Int.log 2 q - 52)
    nearest (q / unit) * unit

def ofNatDiv (n divisor : Nat) : ℚ := round (round n / divisor)

def toFixed (places : Nat) (q : ℚ) : String :=
  let units := nearest (q * 10 ^ places)
  toString (units / 10 ^ places) ++ "." ++ zeroPadded places (units % 10 ^ places)

/-! How far rounding goes. -/

theorem abs_nearest_sub_le {q : ℚ} (h : 0 ≤ q) : |(nearest q : ℚ) - q| ≤ 1 / 2 := by
  have hfloor : (⌊q⌋₊ : ℚ) ≤ q := Nat.floor_le h
  have hlt : q < ⌊q⌋₊ + 1 := Nat.lt_floor_add_one q
  rw [nearest]
  split
  · rename_i hnear
    rw [abs_le]
    obtain hless | ⟨heq, -⟩ := hnear
    · constructor <;> linarith
    · constructor <;> linarith
  · rename_i hfar
    rw [not_or] at hfar
    have hge := le_of_not_gt hfar.1
    rw [Nat.cast_add, Nat.cast_one, abs_le]
    constructor <;> linarith

theorem abs_round_sub_le {q : ℚ} (h : 0 ≤ q) : |round q - q| ≤ q / 2 ^ 53 := by
  rw [round]
  split
  · rename_i hzero
    simp [hzero]
  · rename_i hne
    have hpos : 0 < q := lt_of_le_of_ne h (Ne.symm hne)
    have hunit : (0 : ℚ) < 2 ^ (Int.log 2 q - 52) := by positivity
    have hlog : (2 : ℚ) ^ (Int.log 2 q - 52) = 2 ^ Int.log 2 q / 2 ^ 52 := by
      rw [zpow_sub₀ (by norm_num)]
      norm_num
    have hbelow : (2 : ℚ) ^ Int.log 2 q ≤ q := by
      exact_mod_cast Int.zpow_log_le_self (by norm_num) hpos
    have hnear := abs_nearest_sub_le (div_nonneg h hunit.le)
    have hscale : (nearest (q / 2 ^ (Int.log 2 q - 52)) : ℚ) * 2 ^ (Int.log 2 q - 52) - q =
        (nearest (q / 2 ^ (Int.log 2 q - 52)) - q / 2 ^ (Int.log 2 q - 52)) *
          2 ^ (Int.log 2 q - 52) := by
      rw [sub_mul, div_mul_cancel₀ _ hunit.ne']
    simp only
    rw [hscale, abs_mul, abs_of_pos hunit]
    calc |(nearest (q / 2 ^ (Int.log 2 q - 52)) : ℚ) - q / 2 ^ (Int.log 2 q - 52)| *
          2 ^ (Int.log 2 q - 52)
        ≤ 1 / 2 * 2 ^ (Int.log 2 q - 52) := by gcongr
      _ = 2 ^ Int.log 2 q / 2 ^ 53 := by
        rw [hlog]
        ring
      _ ≤ q / 2 ^ 53 := by gcongr

theorem round_nonneg (q : ℚ) : 0 ≤ round q := by
  rw [round]
  split
  · exact le_refl 0
  · positivity

theorem abs_ofNatDiv_sub_le (n : Nat) {divisor : Nat} (h : 0 < divisor) :
    |ofNatDiv n divisor - n / divisor| ≤ (n / divisor : ℚ) / 2 ^ 51 := by
  have hdivisor : (0 : ℚ) < divisor := by exact_mod_cast h
  have hexact : (0 : ℚ) ≤ n / divisor := by positivity
  have hfirst : |round n / divisor - n / divisor| ≤ (n / divisor : ℚ) / 2 ^ 53 := by
    rw [← sub_div, abs_div, abs_of_pos hdivisor, div_right_comm]
    have hround := abs_round_sub_le (Nat.cast_nonneg (α := ℚ) n)
    gcongr
  have hsecond := abs_round_sub_le (div_nonneg (round_nonneg n) hdivisor.le)
  rw [abs_le] at hfirst hsecond
  rw [ofNatDiv, abs_le]
  constructor <;> linarith

end Jellyrin.F64
