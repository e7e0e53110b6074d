import Jellyrin.Defs.Data.Numerals
import Jellyrin.Defs.Data.Utf8

/-! The lexicographic order of lists and of texts. -/

namespace Jellyrin

universe u v

section

variable {α : Type u} {β : Type v} [LT α] [LT β]

theorem append_lt_append_iff {u v s t : List α} (h : u.length = v.length) :
    u ++ s < v ++ t ↔ u < v ∨ u = v ∧ s < t := by
  induction u generalizing v with
  | nil =>
    cases v with
    | nil => simp
    | cons b v => cases h
  | cons a u ih =>
    cases v with
    | nil => cases h
    | cons b v =>
      rw [List.cons_append, List.cons_append, List.cons_lt_cons_iff, List.cons_lt_cons_iff,
        ih (Nat.succ.inj h), List.cons.injEq]
      tauto

theorem map_lt_map_iff {f : α → β} {u v : List α}
    (h : ∀ a ∈ u, ∀ b ∈ v, (f a < f b ↔ a < b) ∧ (f a = f b ↔ a = b)) :
    u.map f < v.map f ↔ u < v := by
  induction u generalizing v with
  | nil => cases v <;> simp
  | cons a u ih =>
    cases v with
    | nil => simp
    | cons b v =>
      obtain ⟨hlt, heq⟩ := h a List.mem_cons_self b List.mem_cons_self
      have hrest := ih fun c hc d hd =>
        h c (List.mem_cons_of_mem _ hc) d (List.mem_cons_of_mem _ hd)
      rw [List.map_cons, List.map_cons, List.cons_lt_cons_iff, List.cons_lt_cons_iff, hlt, heq,
        hrest]

end

theorem asBytes_lt_iff {s t : String} (hs : ∀ c ∈ s.toList, c.toNat < 128)
    (ht : ∀ c ∈ t.toList, c.toNat < 128) : asBytes s < asBytes t ↔ s.toList < t.toList := by
  have hbytes : ∀ s : String, (∀ c ∈ s.toList, c.toNat < 128) →
      asBytes s = s.toList.map fun c => UInt8.ofNat c.toNat := by
    intro s hs
    rw [asBytes_eq, List.map_eq_flatMap]
    exact List.flatMap_congr fun c hc => utf8EncodeChar_of_lt (hs c hc)
  have hcode : ∀ c : Char, c.toNat < 128 → (UInt8.ofNat c.toNat).toNat = c.toNat := by
    intro c hc
    rw [UInt8.toNat_ofNat']
    omega
  rw [hbytes s hs, hbytes t ht, map_lt_map_iff]
  intro c hc d hd
  rw [UInt8.lt_iff_toNat_lt, ← UInt8.toNat_inj, hcode c (hs c hc), hcode d (ht d hd),
    Char.toNat_inj]
  exact ⟨Iff.rfl, Iff.rfl⟩

namespace Text

theorem ofDigitChars_cons_zero (c : Char) (cs : List Char) : Nat.ofDigitChars 10 (c :: cs) 0 =
    10 ^ cs.length * (c.toNat - '0'.toNat) + Nat.ofDigitChars 10 cs 0 := by
  rw [Nat.ofDigitChars_cons, Nat.mul_zero, Nat.zero_add, Nat.ofDigitChars_eq_ofDigitChars_zero]

theorem isDigit_bounds {c : Char} (h : c.isDigit = true) :
    '0'.toNat ≤ c.toNat ∧ c.toNat ≤ '9'.toNat := by
  simp only [Char.isDigit, Bool.and_eq_true, decide_eq_true_eq, UInt32.le_iff_toNat_le] at h
  exact h

theorem ofDigitChars_lt_pow {cs : List Char} (h : ∀ c ∈ cs, c.isDigit = true) :
    Nat.ofDigitChars 10 cs 0 < 10 ^ cs.length := by
  induction cs with
  | nil => simp
  | cons c cs ih =>
    have hrest := ih fun d hd => h d (List.mem_cons_of_mem _ hd)
    have hdigit : c.toNat - '0'.toNat ≤ 9 :=
      Nat.sub_le_of_le_add (isDigit_bounds (h c List.mem_cons_self)).2
    have hmul := Nat.mul_le_mul_left (10 ^ cs.length) hdigit
    rw [ofDigitChars_cons_zero, List.length_cons, Nat.pow_succ]
    omega

theorem lt_of_scaled {scale high low high' low' : Nat} (hlow : low < scale) (hlow' : low' < scale) :
    scale * high + low < scale * high' + low' ↔ high < high' ∨ high = high' ∧ low < low' := by
  constructor
  · intro h
    obtain hhigh | rfl | hhigh := Nat.lt_trichotomy high high'
    · exact .inl hhigh
    · exact .inr ⟨rfl, Nat.add_lt_add_iff_left.mp h⟩
    · have hmul := Nat.mul_le_mul_left scale (Nat.succ_le_of_lt hhigh)
      rw [Nat.mul_succ] at hmul
      omega
  · rintro (hhigh | ⟨rfl, hlt⟩)
    · have hmul := Nat.mul_le_mul_left scale (Nat.succ_le_of_lt hhigh)
      rw [Nat.mul_succ] at hmul
      omega
    · exact Nat.add_lt_add_left hlt _

theorem lt_iff_ofDigitChars_lt {cs ds : List Char} (hlength : cs.length = ds.length)
    (hcs : ∀ c ∈ cs, c.isDigit = true) (hds : ∀ c ∈ ds, c.isDigit = true) :
    cs < ds ↔ Nat.ofDigitChars 10 cs 0 < Nat.ofDigitChars 10 ds 0 := by
  induction cs generalizing ds with
  | nil =>
    cases ds with
    | nil => simp
    | cons d ds => cases hlength
  | cons c cs ih =>
    cases ds with
    | nil => cases hlength
    | cons d ds =>
      have hc := isDigit_bounds (hcs c List.mem_cons_self)
      have hd := isDigit_bounds (hds d List.mem_cons_self)
      have hcs' : ∀ c ∈ cs, c.isDigit = true := fun c hc => hcs c (List.mem_cons_of_mem _ hc)
      have hds' : ∀ d ∈ ds, d.isDigit = true := fun d hd => hds d (List.mem_cons_of_mem _ hd)
      have hlength' : cs.length = ds.length := Nat.succ.inj hlength
      have hltc := ofDigitChars_lt_pow hcs'
      have hltd := ofDigitChars_lt_pow hds'
      have hcode : c < d ↔ c.toNat - '0'.toNat < d.toNat - '0'.toNat := by
        rw [Char.lt_def, UInt32.lt_iff_toNat_lt]
        exact (Nat.sub_lt_sub_iff_right hc.1).symm
      have heq : c = d ↔ c.toNat - '0'.toNat = d.toNat - '0'.toNat := by
        rw [← Char.toNat_inj]
        omega
      rw [List.cons_lt_cons_iff, ih hlength' hcs' hds', hcode, heq, ofDigitChars_cons_zero,
        ofDigitChars_cons_zero, ← hlength', ← lt_of_scaled hltc (hlength' ▸ hltd)]

theorem zeroPadded_lt_iff {width m n : Nat} (hwidth : 0 < width) (hm : m < 10 ^ width)
    (hn : n < 10 ^ width) :
    (zeroPadded width m).toList < (zeroPadded width n).toList ↔ m < n := by
  have hlength : ∀ {n : Nat}, n < 10 ^ width → (zeroPadded width n).toList.length = width :=
    fun hn => length_zeroPadded ((Nat.length_toDigits_le_iff (by decide) hwidth).mpr hn)
  rw [lt_iff_ofDigitChars_lt ((hlength hm).trans (hlength hn).symm)
    (isNumeral_zeroPadded width m).2 (isNumeral_zeroPadded width n).2]
  exact iff_of_eq (congrArg₂ (· < ·) (numeralValue_zeroPadded width m)
    (numeralValue_zeroPadded width n))

theorem zeroPadded_inj {width m n : Nat} : zeroPadded width m = zeroPadded width n ↔ m = n := by
  constructor
  · intro h
    rw [← numeralValue_zeroPadded width m, h, numeralValue_zeroPadded]
  · rintro rfl
    rfl

end Text

end Jellyrin
