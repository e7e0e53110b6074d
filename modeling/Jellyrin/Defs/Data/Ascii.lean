import Mathlib.Data.List.Basic

/-! ASCII case folding of `str`. -/

namespace Jellyrin.Ascii

def toAsciiLowercase (s : String) : String := String.ofList (s.toList.map Char.toLower)

def eqIgnoreAsciiCase (s t : String) : Bool :=
  decide (s.toList.map Char.toLower = t.toList.map Char.toLower)

theorem eqIgnoreAsciiCase_iff {s t : String} :
    eqIgnoreAsciiCase s t = true ↔ toAsciiLowercase s = toAsciiLowercase t := by
  rw [eqIgnoreAsciiCase, decide_eq_true_iff]
  constructor
  · intro h
    rw [toAsciiLowercase, toAsciiLowercase, h]
  · intro h
    have hlist := congrArg String.toList h
    simpa [toAsciiLowercase] using hlist

@[simp] theorem eqIgnoreAsciiCase_self (s : String) : eqIgnoreAsciiCase s s = true :=
  eqIgnoreAsciiCase_iff.mpr rfl

theorem eqIgnoreAsciiCase_comm (s t : String) :
    eqIgnoreAsciiCase s t = eqIgnoreAsciiCase t s := by
  simp only [eqIgnoreAsciiCase]
  congr 1
  exact propext eq_comm

theorem val_toLower {c : Char} (h : 'A'.val ≤ c.val ∧ c.val ≤ 'Z'.val) :
    c.toLower.val = c.val + ('a'.val - 'A'.val) :=
  congrArg Char.val (dif_pos h)

theorem toLower_eq_self {c : Char} (h : ¬('A'.val ≤ c.val ∧ c.val ≤ 'Z'.val)) : c.toLower = c :=
  dif_neg h

theorem toNat_toLower {c : Char} (h : 'A'.val ≤ c.val ∧ c.val ≤ 'Z'.val) :
    c.toLower.toNat = c.toNat + 32 := by
  have hge := UInt32.le_iff_toNat_le.mp h.1
  have hle := UInt32.le_iff_toNat_le.mp h.2
  have hval := congrArg UInt32.toNat (val_toLower h)
  rw [UInt32.toNat_add] at hval
  simp at hval hge hle
  omega

theorem toLower_toLower (c : Char) : c.toLower.toLower = c.toLower := by
  by_cases h : 'A'.val ≤ c.val ∧ c.val ≤ 'Z'.val
  · have hafter : 90 < c.toLower.toNat := by
      have hge : 65 ≤ c.toNat := h.1
      rw [toNat_toLower h]
      omega
    exact toLower_eq_self fun hupper => absurd hafter (Nat.not_lt.mpr hupper.2)
  · rw [toLower_eq_self h, toLower_eq_self h]

@[simp] theorem toAsciiLowercase_idem (s : String) :
    toAsciiLowercase (toAsciiLowercase s) = toAsciiLowercase s := by
  simp only [toAsciiLowercase, String.toList_ofList, List.map_map]
  congr 2
  funext c
  exact toLower_toLower c

end Jellyrin.Ascii
