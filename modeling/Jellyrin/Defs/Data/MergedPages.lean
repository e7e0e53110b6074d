import Jellyrin.Defs.Data.Paging
import Jellyrin.Defs.Data.SortOn

/-! Pages of two lists that are cut, merged by a key, and sliced. -/

universe u v

namespace Jellyrin

variable {α : Type u} {β : Type v} [LinearOrder β] (key : α → β) (first second : List α)

def merged (n : Nat) : List α := sortOn key (first.take n ++ second.take n)

def mergedPage (cap start limit : Nat) : List α :=
  slice start limit (merged key first second (min (start + limit) cap))

variable {key first second}

theorem length_merged (n : Nat) :
    (merged key first second n).length = min n first.length + min n second.length := by
  rw [merged, (sortOn_perm _ _).length_eq, List.length_append, List.length_take, List.length_take]

theorem mem_merged {n : Nat} {a : α} :
    a ∈ merged key first second n ↔ a ∈ first.take n ∨ a ∈ second.take n := by
  rw [merged, mem_sortOn, List.mem_append]

theorem filter_append_left {q : α → Bool} {l l' : List α} (h : ∀ a ∈ l, q a = true)
    (h' : ∀ a ∈ l', q a = false) : (l ++ l').filter q = l := by
  rw [List.filter_append, List.filter_eq_self.mpr h,
    List.filter_eq_nil_iff.mpr fun a ha => by simp [h' a ha], List.append_nil]

theorem filter_append_right {q : α → Bool} {l l' : List α} (h : ∀ a ∈ l, q a = false)
    (h' : ∀ a ∈ l', q a = true) : (l ++ l').filter q = l' := by
  rw [List.filter_append, List.filter_eq_self.mpr h',
    List.filter_eq_nil_iff.mpr fun a ha => by simp [h a ha], List.nil_append]

theorem take_filter {q : α → Bool} {l : List α} {k : Nat} (h : ∀ a ∈ l.take k, q a = true) :
    (l.filter q).take k = l.take k := by
  have hsplit : l.filter q = l.take k ++ (l.drop k).filter q := by
    rw [← List.filter_eq_self.mpr h, ← List.filter_append, List.take_append_drop]
  obtain hk | hk := Nat.le_total k l.length
  · rw [hsplit, List.take_left' (by rw [List.length_take, Nat.min_eq_left hk])]
  · rw [hsplit, List.drop_of_length_le hk, List.filter_nil, List.append_nil, List.take_take,
      Nat.min_self]

section Nodup

variable [DecidableEq α] (hnodup : (first ++ second).Nodup)
include hnodup

theorem merged_eq_filter {k n : Nat} (hk : k ≤ n) :
    merged key first second k =
      (merged key first second n).filter fun a => a ∈ first.take k ∨ a ∈ second.take k := by
  obtain ⟨hfirst, hsecond, hdisjoint⟩ := List.nodup_append.mp hnodup
  have hcut : ∀ l : List α, l.take n = l.take k ++ (l.take n).drop k := fun l => by
    have hsplit := (List.take_append_drop k (l.take n)).symm
    rwa [List.take_take, Nat.min_eq_left hk] at hsplit
  have hlater : ∀ l : List α, l.Nodup → ∀ a ∈ (l.take n).drop k, a ∉ l.take k := by
    intro l hl a ha htake
    have htaken := hl.sublist (List.take_sublist n l)
    rw [hcut l] at htaken
    exact (List.nodup_append.mp htaken).2.2 a htake a ha rfl
  have hmem : ∀ {l : List α} {a : α}, a ∈ (l.take n).drop k → a ∈ l := fun h =>
    List.mem_of_mem_take (List.mem_of_mem_drop h)
  rw [merged, merged, ← sortOn_filter, List.filter_append]
  congr 2
  · conv_rhs => rw [hcut first]
    refine (filter_append_left (fun a ha => by simp [ha]) fun a ha => ?_).symm
    have hother : a ∉ second.take k := fun h =>
      hdisjoint a (hmem ha) a (List.mem_of_mem_take h) rfl
    simp [hlater first hfirst a ha, hother]
  · conv_rhs => rw [hcut second]
    refine (filter_append_left (fun a ha => by simp [ha]) fun a ha => ?_).symm
    have hother : a ∉ first.take k := fun h =>
      hdisjoint a (List.mem_of_mem_take h) a (hmem ha) rfl
    simp [hlater second hsecond a ha, hother]

theorem take_merged {k n : Nat} (hk : k ≤ n)
    (h : ∀ a ∈ (merged key first second n).take k, a ∈ first.take k ∨ a ∈ second.take k) :
    (merged key first second k).take k = (merged key first second n).take k := by
  rw [merged_eq_filter hnodup hk]
  exact take_filter fun a ha => decide_eq_true (h a ha)

theorem mem_take_of_sorted {n k : Nat} {a : α}
    (hfirst : first.Pairwise fun a b => key a ≤ key b)
    (hsecond : second.Pairwise fun a b => key a ≤ key b)
    (ha : a ∈ (merged key first second n).take k) : a ∈ first.take k ∨ a ∈ second.take k := by
  have hdisjoint := (List.nodup_append.mp hnodup).2.2
  have htaken : ∀ {l : List α}, a ∈ (l.take n).take k → a ∈ l.take k := by
    intro l h
    rw [List.take_take] at h
    exact List.take_subset_take_left l (Nat.min_le_left k n) h
  obtain hmem | hmem := mem_merged.mp (List.mem_of_mem_take ha)
  · left
    refine htaken (mem_take_of_mem_take_sortOn (p := fun a => decide (a ∈ first.take n)) ?_
      (hfirst.sublist (List.take_sublist n first)) ha (decide_eq_true hmem))
    refine filter_append_left (fun b hb => decide_eq_true hb) fun b hb => decide_eq_false fun h => ?_
    exact hdisjoint b (List.mem_of_mem_take h) b (List.mem_of_mem_take hb) rfl
  · right
    refine htaken (mem_take_of_mem_take_sortOn (p := fun a => decide (a ∈ second.take n)) ?_
      (hsecond.sublist (List.take_sublist n second)) ha (decide_eq_true hmem))
    refine filter_append_right (fun b hb => decide_eq_false fun h => ?_) fun b hb => decide_eq_true hb
    exact hdisjoint b (List.mem_of_mem_take hb) b (List.mem_of_mem_take h) rfl

variable {cap total : Nat}

/-- The pages as long as they start before the total are slices of one order of all rows if nothing
that they reach is cut off, and each row that may stand on a page is fetched in time. -/
theorem mergedPage_eq_slice_iff (hcap : 0 < cap) (htotal : total ≤ first.length + second.length) :
    (∃ sequence : List α, sequence.Perm (first ++ second) ∧
      ∀ start limit, limit ≤ cap → start < total →
        mergedPage key first second cap start limit = slice start limit sequence) ↔
    total = 0 ∨
      min (total + cap - 1) (first.length + second.length) ≤
          min cap first.length + min cap second.length ∧
        ∀ k ≤ cap, ∀ a ∈ (merged key first second cap).take k,
          a ∈ first.take k ∨ a ∈ second.take k := by
  constructor
  · rintro ⟨sequence, hperm, hpages⟩
    by_cases hzero : total = 0
    · exact .inl hzero
    right
    have hlength : sequence.length = first.length + second.length := by
      rw [hperm.length_eq, List.length_append]
    have hfirstPage : ∀ k ≤ cap,
        (merged key first second k).take k = sequence.take k := by
      intro k hk
      have hpage := hpages 0 k hk (Nat.pos_of_ne_zero hzero)
      rwa [mergedPage, slice, slice, Nat.zero_add, Nat.min_eq_left hk, List.drop_zero,
        List.drop_zero] at hpage
    constructor
    · have hpage := hpages (total - 1) cap (Nat.le_refl cap) (by omega)
      have hcount := congrArg List.length hpage
      rw [mergedPage, Nat.min_eq_right (by omega), length_slice, length_slice, length_merged,
        hlength] at hcount
      omega
    · intro k hk a ha
      have hlonger : (merged key first second cap).take k = sequence.take k := by
        rw [← Nat.min_eq_left hk, ← List.take_take, hfirstPage cap (Nat.le_refl cap),
          List.take_take]
      rw [hlonger, ← hfirstPage k hk] at ha
      exact mem_merged.mp (List.mem_of_mem_take ha)
  · rintro (hzero | ⟨hreach, hfetched⟩)
    · exact ⟨first ++ second, List.Perm.refl _, fun start limit _ hstart => by omega⟩
    refine ⟨merged key first second cap ++ (first.drop cap ++ second.drop cap), ?_, ?_⟩
    · have hsplit : (first ++ second).Perm
          (first.take cap ++ second.take cap ++ (first.drop cap ++ second.drop cap)) := by
        conv_lhs => rw [← List.take_append_drop cap first, ← List.take_append_drop cap second]
        rw [List.append_assoc, List.append_assoc]
        exact (List.perm_append_comm_assoc _ _ _).append_left _
      exact ((sortOn_perm key _).append_right _).trans hsplit.symm
    · intro start limit hlimit hstart
      refine slice_congr ?_
      have hmerged : (merged key first second (min (start + limit) cap)).take (start + limit) =
          (merged key first second cap).take (start + limit) := by
        obtain h | h := Nat.le_total (start + limit) cap
        · rw [Nat.min_eq_left h]
          exact take_merged hnodup h (hfetched _ h)
        · rw [Nat.min_eq_right h]
      rw [hmerged]
      by_cases hlength : start + limit ≤ (merged key first second cap).length
      · rw [List.take_append_of_le_length hlength]
      · rw [length_merged] at hlength
        rw [List.drop_of_length_le (l := first) (by omega),
          List.drop_of_length_le (l := second) (by omega), List.append_nil, List.append_nil]

end Nodup

end Jellyrin
