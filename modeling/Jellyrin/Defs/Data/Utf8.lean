import Jellyrin.Defs.Data.Ascii
import Mathlib.Data.String.Basic

/-! Texts as bytes, and control characters. -/

namespace Jellyrin

open Ascii

theorem utf8Size_toLower (c : Char) : c.toLower.utf8Size = c.utf8Size := by
  by_cases h : 'A'.val ≤ c.val ∧ c.val ≤ 'Z'.val
  · have hsmall : ∀ d : Char, d.toNat ≤ 127 → d.utf8Size = 1 := by
      intro d hd
      exact Char.utf8Size_eq_one_iff.mpr (UInt32.le_iff_toNat_le.mpr hd)
    have hrange : 65 ≤ c.toNat ∧ c.toNat ≤ 90 := h
    rw [hsmall c (by omega), hsmall c.toLower (by rw [toNat_toLower h]; omega)]
  · rw [toLower_eq_self h]

theorem utf8Len_map_toLower (cs : List Char) :
    String.utf8Len (cs.map Char.toLower) = String.utf8Len cs := by
  induction cs with
  | nil => rfl
  | cons c cs ih => simp [String.utf8Len_cons, ih, utf8Size_toLower]

theorem utf8ByteSize_eq_utf8Len (s : String) : s.utf8ByteSize = String.utf8Len s.toList := by
  rw [← String.utf8ByteSize_ofList, String.ofList_toList]

theorem utf8ByteSize_toAsciiLowercase (s : String) :
    (toAsciiLowercase s).utf8ByteSize = s.utf8ByteSize := by
  rw [toAsciiLowercase, String.utf8ByteSize_ofList, utf8Len_map_toLower, utf8ByteSize_eq_utf8Len]

def asBytes (s : String) : List UInt8 := s.toByteArray.data.toList

@[simp] theorem length_asBytes (s : String) : (asBytes s).length = s.utf8ByteSize := by
  rw [asBytes, Array.length_toList]
  rfl

theorem asBytes_inj {s t : String} : asBytes s = asBytes t ↔ s = t := by
  rw [asBytes, asBytes, Array.toList_inj, ← ByteArray.ext_iff, String.toByteArray_inj]

theorem asBytes_append (s t : String) : asBytes (s ++ t) = asBytes s ++ asBytes t := by
  simp [asBytes]

theorem asBytes_ofList (cs : List Char) :
    asBytes (String.ofList cs) = cs.flatMap String.utf8EncodeChar := by
  simp [asBytes, List.utf8Encode]

theorem asBytes_eq (s : String) : asBytes s = s.toList.flatMap String.utf8EncodeChar := by
  rw [← asBytes_ofList, String.ofList_toList]

theorem utf8EncodeChar_of_lt {c : Char} (h : c.toNat < 128) :
    String.utf8EncodeChar c = [UInt8.ofNat c.toNat] := by
  unfold String.utf8EncodeChar
  exact if_pos (Nat.le_of_lt_succ h)

theorem le_of_mem_utf8EncodeChar {c : Char} {b : UInt8} (h : b ∈ String.utf8EncodeChar c)
    (hc : 128 ≤ c.toNat) : 128 ≤ b.toNat := by
  have hv : c.val.toNat = c.toNat := rfl
  unfold String.utf8EncodeChar at h
  rw [hv] at h
  generalize c.toNat = v at h hc
  simp only at h
  split at h
  · omega
  · split at h
    · simp only [List.mem_cons, List.not_mem_nil, or_false] at h
      rcases h with rfl | rfl <;> rw [UInt8.toNat_ofNat'] <;> omega
    · split at h
      · simp only [List.mem_cons, List.not_mem_nil, or_false] at h
        rcases h with rfl | rfl | rfl <;> rw [UInt8.toNat_ofNat'] <;> omega
      · simp only [List.mem_cons, List.not_mem_nil, or_false] at h
        rcases h with rfl | rfl | rfl | rfl <;> rw [UInt8.toNat_ofNat'] <;> omega

theorem exists_of_mem_asBytes {s : String} {b : UInt8} (h : b ∈ asBytes s) (hb : b.toNat < 128) :
    ∃ c ∈ s.toList, c.toNat = b.toNat := by
  rw [asBytes_eq, List.mem_flatMap] at h
  obtain ⟨c, hc, hmem⟩ := h
  refine ⟨c, hc, ?_⟩
  by_cases hsmall : c.toNat < 128
  · rw [utf8EncodeChar_of_lt hsmall, List.mem_singleton] at hmem
    rw [hmem, UInt8.toNat_ofNat']
    omega
  · have hle := le_of_mem_utf8EncodeChar hmem (Nat.not_lt.mp hsmall)
    omega

theorem fromUTF8?_asBytes (s : String) : String.fromUTF8? ⟨(asBytes s).toArray⟩ = some s := by
  have hbytes : (⟨(asBytes s).toArray⟩ : ByteArray) = s.toByteArray := by
    rw [asBytes, Array.toArray_toList]
  rw [hbytes, String.fromUTF8?, dif_pos s.isValidUTF8]
  rfl

def isControl (c : Char) : Bool := c.toNat < 0x20 || (0x7F ≤ c.toNat && c.toNat < 0xA0)

theorem isControl_toLower (c : Char) : isControl c.toLower = isControl c := by
  by_cases h : 'A'.val ≤ c.val ∧ c.val ≤ 'Z'.val
  · have hrange : 65 ≤ c.toNat ∧ c.toNat ≤ 90 := h
    have hlower := toNat_toLower h
    simp only [isControl, hlower]
    grind
  · rw [toLower_eq_self h]

/-! Bytes of texts that are looked at as characters. -/

section Bytes

open String

/-- A test of bytes that tells the characters below 128 and accepts no others. -/
structure ReadsAscii (p : UInt8 → Bool) (q : Char → Bool) : Prop where
  small : ∀ c : Char, c.toNat < 128 → p (UInt8.ofNat c.toNat) = q c
  byte : ∀ b : UInt8, 128 ≤ b.toNat → p b = false
  char : ∀ c : Char, 128 ≤ c.toNat → q c = false

variable {p : UInt8 → Bool} {q : Char → Bool}

theorem utf8EncodeChar_cases (c : Char) : ∃ b bytes, utf8EncodeChar c = b :: bytes ∧
    (c.toNat < 128 ∧ b = UInt8.ofNat c.toNat ∧ bytes = [] ∨ 128 ≤ c.toNat ∧ 128 ≤ b.toNat) := by
  by_cases hsmall : c.toNat < 128
  · exact ⟨_, [], utf8EncodeChar_of_lt hsmall, .inl ⟨hsmall, rfl, rfl⟩⟩
  · have hbig := Nat.not_lt.mp hsmall
    have hne : utf8EncodeChar c ≠ [] := by
      have hlength := length_utf8EncodeChar c
      intro hnil
      rw [hnil] at hlength
      exact absurd hlength (Nat.ne_of_lt c.utf8Size_pos)
    obtain ⟨b, bytes, hbytes⟩ := List.exists_cons_of_ne_nil hne
    exact ⟨b, bytes, hbytes,
      .inr ⟨hbig, le_of_mem_utf8EncodeChar (hbytes ▸ List.mem_cons_self) hbig⟩⟩

namespace ReadsAscii

variable (h : ReadsAscii p q)
include h

theorem any_head? (cs : List Char) :
    (cs.flatMap utf8EncodeChar).head?.any p = cs.head?.any q := by
  cases cs with
  | nil => rfl
  | cons c cs =>
    obtain ⟨b, bytes, hbytes, ⟨hsmall, rfl, rfl⟩ | ⟨hbig, hbyte⟩⟩ := utf8EncodeChar_cases c
    · rw [List.flatMap_cons, hbytes]
      exact h.small c hsmall
    · rw [List.flatMap_cons, hbytes]
      exact (h.byte b hbyte).trans (h.char c hbig).symm

theorem takeWhile_eq (cs : List Char) : (cs.flatMap utf8EncodeChar).takeWhile p =
    (cs.takeWhile q).flatMap utf8EncodeChar := by
  induction cs with
  | nil => rfl
  | cons c cs ih =>
    obtain ⟨b, bytes, hbytes, ⟨hsmall, rfl, rfl⟩ | ⟨hbig, hbyte⟩⟩ := utf8EncodeChar_cases c
    · rw [List.flatMap_cons, hbytes, List.singleton_append, List.takeWhile_cons, List.takeWhile_cons,
        h.small c hsmall]
      split
      · rw [List.flatMap_cons, hbytes, ih, List.singleton_append]
      · rfl
    · rw [List.flatMap_cons, hbytes, List.cons_append, List.takeWhile_cons, List.takeWhile_cons,
        h.byte b hbyte, h.char c hbig]
      rfl

end ReadsAscii

theorem drop_asBytes {value : String} {before cs : List Char} (h : value.toList = before ++ cs) :
    (asBytes value).drop (utf8Len before) = cs.flatMap utf8EncodeChar := by
  have hlength : (before.flatMap utf8EncodeChar).length = utf8Len before := by
    rw [← asBytes_ofList, length_asBytes, utf8ByteSize_ofList]
  rw [asBytes_eq, h, List.flatMap_append, List.drop_left' hlength]

theorem getElem?_asBytes {value : String} {before cs : List Char} (h : value.toList = before ++ cs) :
    (asBytes value)[utf8Len before]? = (cs.flatMap utf8EncodeChar).head? := by
  rw [← drop_asBytes h, List.head?_drop]

end Bytes

end Jellyrin
