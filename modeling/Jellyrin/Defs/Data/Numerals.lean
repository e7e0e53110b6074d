import Jellyrin.Defs.Data.JsonFields

/-! Numerals of digits only, which zeros may lead. -/

namespace Jellyrin.Text

def IsNumeral (s : String) : Prop := s ≠ "" ∧ ∀ c ∈ s.toList, c.isDigit = true

def numeralValue (s : String) : Nat := Nat.ofDigitChars 10 s.toList 0

theorem isWhitespace_of_isDigit {c : Char} (h : c.isDigit = true) :
    Json.isWhitespace c = false := by
  have hrange : 48 ≤ c.toNat ∧ c.toNat ≤ 57 := by
    simpa [Char.isDigit, UInt32.le_iff_toNat_le] using h
  simp [Json.isWhitespace]
  omega

theorem IsNumeral.notMem {s : String} (h : IsNumeral s) {c : Char} (hc : c.isDigit = false) :
    c ∉ s.toList := by
  intro hmem
  rw [h.2 c hmem] at hc
  cases hc

theorem parseI64_of_isNumeral {s : String} (h : IsNumeral s) (hmax : numeralValue s < 2 ^ 63) :
    parseI64 s = some (numeralValue s : Int) := by
  have hminus : '-' ∉ s.toList := h.notMem (by decide)
  have hplus : '+' ∉ s.toList := h.notMem (by decide)
  have hunsigned : parseUnsigned (2 ^ 63 - 1) s = some (numeralValue s) := by
    have hdigits : unsignedDigits s.toList = s.toList := by
      rw [unsignedDigits]
      rintro digits hcons
      rw [hcons] at hplus
      simp at hplus
    have hne : s.toList ≠ [] := by simpa using h.1
    have hall : s.toList.all Char.isDigit = true := List.all_eq_true.mpr h.2
    have hle : numeralValue s ≤ 2 ^ 63 - 1 := Nat.le_sub_one_of_lt hmax
    simp only [parseUnsigned, hdigits, List.isEmpty_iff, hne, hall, Bool.not_true, Bool.or_false,
      if_false]
    exact if_pos hle
  rw [parseI64]
  split
  · rename_i digits hcons
    rw [hcons] at hminus
    simp at hminus
  · rw [hunsigned, Option.map_some]
    rfl

theorem toList_zeroPadded (width n : Nat) : (zeroPadded width n).toList =
    List.replicate (width - (Nat.toDigits 10 n).length) '0' ++ Nat.toDigits 10 n := by
  rw [zeroPadded, String.toList_ofList, List.leftpad]

theorem isNumeral_zeroPadded (width n : Nat) : IsNumeral (zeroPadded width n) := by
  constructor
  · intro hempty
    have hlist := congrArg String.toList hempty
    rw [toList_zeroPadded] at hlist
    exact Nat.toDigits_ne_nil (List.append_eq_nil_iff.mp hlist).2
  · intro c hc
    rw [toList_zeroPadded] at hc
    cases List.mem_append.mp hc with
    | inl hzero =>
      rw [List.eq_of_mem_replicate hzero]
      rfl
    | inr hdigit => exact Nat.isDigit_of_mem_toDigits (by decide) (by decide) hdigit

@[simp] theorem numeralValue_zeroPadded (width n : Nat) :
    numeralValue (zeroPadded width n) = n := by
  rw [numeralValue, toList_zeroPadded, Nat.ofDigitChars_append, Nat.ofDigitChars_replicate_zero,
    Nat.mul_zero, Nat.ofDigitChars_ten_toDigits]

theorem length_zeroPadded {width n : Nat} (h : (Nat.toDigits 10 n).length ≤ width) :
    (zeroPadded width n).toList.length = width := by
  rw [toList_zeroPadded, List.length_append, List.length_replicate, Nat.sub_add_cancel h]

end Jellyrin.Text
