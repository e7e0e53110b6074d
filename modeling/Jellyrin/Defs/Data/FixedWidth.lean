import Mathlib.Tactic.Ring

/-! Arithmetic of the integers of fixed width. -/

namespace Jellyrin.U32

def max : UInt32 := 0xffffffff

def saturatingAdd (a b : UInt32) : UInt32 := if a + b < a then max else a + b

@[simp] theorem toNat_saturatingAdd (a b : UInt32) :
    (saturatingAdd a b).toNat = min (a.toNat + b.toNat) max.toNat := by
  have ha := a.toNat_lt
  have hb := b.toNat_lt
  have hm : max.toNat = 2 ^ 32 - 1 := rfl
  simp only [saturatingAdd]
  split <;> rename_i h <;> rw [UInt32.lt_iff_toNat_lt, UInt32.toNat_add] at h
  · omega
  · rw [UInt32.toNat_add]
    omega

def positive (value : Int) : Option UInt32 :=
  if 0 < value ∧ value < 2 ^ 32 then some (UInt32.ofNat value.toNat) else none

def checkedAdd (a b : UInt32) : Option UInt32 := if a + b < a then none else some (a + b)

def checkedSub (a b : UInt32) : Option UInt32 := if b ≤ a then some (a - b) else none

def saturatingSub (a b : UInt32) : UInt32 := if b ≤ a then a - b else 0

def saturatingMul (a b : UInt32) : UInt32 := if a.toNat * b.toNat < 2 ^ 32 then a * b else max

def clamp (low high a : UInt32) : UInt32 := if a < low then low else if high < a then high else a

theorem checkedAdd_eq_some {a b c : UInt32} :
    checkedAdd a b = some c ↔ a.toNat + b.toNat = c.toNat := by
  have ha := a.toNat_lt
  have hb := b.toNat_lt
  have hc := c.toNat_lt
  rw [checkedAdd]
  split <;> rename_i h <;> rw [UInt32.lt_iff_toNat_lt, UInt32.toNat_add] at h
  · simp only [reduceCtorEq, false_iff]
    omega
  · rw [Option.some.injEq, ← UInt32.toNat_inj, UInt32.toNat_add]
    omega

theorem checkedSub_eq_some {a b c : UInt32} :
    checkedSub a b = some c ↔ a.toNat = c.toNat + b.toNat := by
  rw [checkedSub]
  split
  · rename_i h
    rw [Option.some.injEq, ← UInt32.toNat_inj, UInt32.toNat_sub_of_le _ _ h]
    have hle := UInt32.le_iff_toNat_le.mp h
    omega
  · rename_i h
    rw [UInt32.le_iff_toNat_le] at h
    simp only [reduceCtorEq, false_iff]
    omega

@[simp] theorem toNat_saturatingSub (a b : UInt32) :
    (saturatingSub a b).toNat = a.toNat - b.toNat := by
  rw [saturatingSub]
  split
  · rename_i h
    exact UInt32.toNat_sub_of_le _ _ h
  · rename_i h
    rw [UInt32.le_iff_toNat_le] at h
    have hzero : (0 : UInt32).toNat = 0 := rfl
    omega

@[simp] theorem toNat_min (a b : UInt32) : (min a b).toNat = min a.toNat b.toNat := by
  have hmin : min a b = if a ≤ b then a else b := rfl
  rw [hmin]
  split <;> rename_i h <;> rw [UInt32.le_iff_toNat_le] at h <;> omega

@[simp] theorem toNat_max (a b : UInt32) :
    (Max.max a b).toNat = Max.max a.toNat b.toNat := by
  have hmax : Max.max a b = if a ≤ b then b else a := rfl
  rw [hmax]
  split <;> rename_i h <;> rw [UInt32.le_iff_toNat_le] at h <;> omega

theorem toNat_clamp {low high : UInt32} (h : low ≤ high) (a : UInt32) :
    low.toNat ≤ (clamp low high a).toNat ∧ (clamp low high a).toNat ≤ high.toNat := by
  rw [UInt32.le_iff_toNat_le] at h
  rw [clamp]
  split
  · exact ⟨Nat.le_refl _, h⟩
  · rename_i hlow
    rw [UInt32.lt_iff_toNat_lt] at hlow
    split
    · exact ⟨h, Nat.le_refl _⟩
    · rename_i hhigh
      rw [UInt32.lt_iff_toNat_lt] at hhigh
      exact ⟨Nat.le_of_not_lt hlow, Nat.le_of_not_lt hhigh⟩

end Jellyrin.U32

namespace Jellyrin.U64

def max : UInt64 := 0xffffffffffffffff

def saturatingAdd (a b : UInt64) : UInt64 := if a + b < a then max else a + b

def saturatingSub (a b : UInt64) : UInt64 := if b ≤ a then a - b else 0

def clamp (lo hi a : UInt64) : UInt64 := if a < lo then lo else if hi < a then hi else a

theorem toNat_le_max (a : UInt64) : a.toNat ≤ max.toNat := by
  have h := a.toNat_lt
  have hm : max.toNat = 2 ^ 64 - 1 := rfl
  omega

@[simp] theorem toNat_saturatingAdd (a b : UInt64) :
    (saturatingAdd a b).toNat = min (a.toNat + b.toNat) max.toNat := by
  have ha := a.toNat_lt
  have hb := b.toNat_lt
  have hm : max.toNat = 2 ^ 64 - 1 := rfl
  simp only [saturatingAdd]
  split <;> rename_i h <;> rw [UInt64.lt_iff_toNat_lt, UInt64.toNat_add] at h
  · omega
  · rw [UInt64.toNat_add]
    omega

theorem saturatingAdd_mono {a b : UInt64} (h : a ≤ b) (c : UInt64) :
    saturatingAdd a c ≤ saturatingAdd b c := by
  rw [UInt64.le_iff_toNat_le] at h ⊢
  rw [toNat_saturatingAdd, toNat_saturatingAdd]
  omega

@[simp] theorem toNat_saturatingSub (a b : UInt64) :
    (saturatingSub a b).toNat = a.toNat - b.toNat := by
  simp only [saturatingSub]
  split <;> rename_i h <;> rw [UInt64.le_iff_toNat_le] at h
  · rw [UInt64.toNat_sub]
    have ha := a.toNat_lt
    omega
  · simp only [UInt64.toNat_zero]
    omega

theorem eq_max_iff (a : UInt64) : a = max ↔ a.toNat = max.toNat := UInt64.toNat_inj.symm

end Jellyrin.U64

namespace Jellyrin.I64

/-- A result that leaves the range. With overflow checks the program panics, without them the
result is wrapped. -/
inductive Overflow where
  | overflow
  deriving DecidableEq

def InRange (i : Int) : Prop := -2 ^ 63 ≤ i ∧ i < 2 ^ 63

instance (i : Int) : Decidable (InRange i) := inferInstanceAs (Decidable (_ ∧ _))

def checked (i : Int) : Except Overflow Int := if InRange i then .ok i else .error .overflow

def mul (a b : Int) : Except Overflow Int := checked (a * b)

def add (a b : Int) : Except Overflow Int := checked (a + b)

def saturatingMul (a b : Int) : Int := max (-2 ^ 63) (min (2 ^ 63 - 1) (a * b))

variable {α : Type} {i : Int}

theorem checked_bind_of_inRange (h : InRange i) (f : Int → Except Overflow α) :
    checked i >>= f = f i := by
  rw [checked, if_pos h]
  rfl

theorem checked_bind_of_not_inRange (h : ¬ InRange i) (f : Int → Except Overflow α) :
    checked i >>= f = .error .overflow := by
  rw [checked, if_neg h]
  rfl

theorem saturatingMul_of_lt {a b : Int} (hpos : 0 ≤ a * b) (hlt : a * b < 2 ^ 63) :
    saturatingMul a b = a * b := by
  rw [saturatingMul, min_eq_right (by omega), max_eq_right (by omega)]

theorem saturatingMul_of_le {a b : Int} (hle : 2 ^ 63 ≤ a * b) :
    saturatingMul a b = 2 ^ 63 - 1 := by
  rw [saturatingMul, min_eq_left (by omega), max_eq_right (by omega)]

end Jellyrin.I64
