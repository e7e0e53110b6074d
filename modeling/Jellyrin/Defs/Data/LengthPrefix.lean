import Mathlib.Data.List.Basic
import Mathlib.Tactic.NormNum

/-! Byte strings behind their length. -/

namespace Jellyrin

def bigEndian64 (n : Nat) : List UInt8 :=
  [56, 48, 40, 32, 24, 16, 8, 0].map fun shift => UInt8.ofNat (n / 2 ^ shift)

theorem bigEndian64_inj {m n : Nat} (hm : m < 2 ^ 64) (hn : n < 2 ^ 64)
    (h : bigEndian64 m = bigEndian64 n) : m = n := by
  have hbyte : ∀ shift ∈ [56, 48, 40, 32, 24, 16, 8, 0],
      m / 2 ^ shift % 256 = n / 2 ^ shift % 256 := by
    intro shift hshift
    have heq := List.map_inj_left.mp h shift hshift
    simpa using congrArg UInt8.toNat heq
  simp only [List.forall_mem_cons] at hbyte
  norm_num at hbyte hm hn
  omega

theorem bigEndian64_append_inj {m n : Nat} (hm : m < 2 ^ 64) (hn : n < 2 ^ 64)
    {rest rest' : List UInt8} (h : bigEndian64 m ++ rest = bigEndian64 n ++ rest') :
    m = n ∧ rest = rest' := by
  obtain ⟨hnumber, hrest⟩ := List.append_inj h rfl
  exact ⟨bigEndian64_inj hm hn hnumber, hrest⟩

def lengthPrefixed (bytes : List UInt8) : List UInt8 := bigEndian64 bytes.length ++ bytes

theorem lengthPrefixed_append_inj {bytes bytes' rest rest' : List UInt8}
    (hb : bytes.length < 2 ^ 64) (hb' : bytes'.length < 2 ^ 64)
    (h : lengthPrefixed bytes ++ rest = lengthPrefixed bytes' ++ rest') :
    bytes = bytes' ∧ rest = rest' := by
  rw [lengthPrefixed, lengthPrefixed, List.append_assoc, List.append_assoc] at h
  obtain ⟨hlength, hbytes⟩ := bigEndian64_append_inj hb hb' h
  exact List.append_inj hbytes hlength

end Jellyrin
