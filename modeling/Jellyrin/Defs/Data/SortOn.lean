import Mathlib.Data.List.Sort
import Mathlib.Data.List.InsertIdx

/-! Lists that are ordered by a key, and the reinsertion of an element. -/

universe u v

namespace Jellyrin

variable {α : Type u} {β : Type v}

theorem rel_of_find?_eq_some {R : α → α → Prop} (hrefl : ∀ a, R a a) {p : α → Bool} {l : List α}
    {a b : α} (hl : l.Pairwise R) (h : l.find? p = some a) (hb : b ∈ l) (hp : p b = true) :
    R a b := by
  induction l with
  | nil => cases hb
  | cons c l ih =>
    obtain ⟨hc, htail⟩ := List.pairwise_cons.mp hl
    rw [List.find?_cons] at h
    split at h
    · cases h
      cases List.mem_cons.mp hb with
      | inl heq => exact heq ▸ hrefl b
      | inr hmem => exact hc b hmem
    · rename_i hfalse
      cases List.mem_cons.mp hb with
      | inl heq =>
        rw [heq, hfalse] at hp
        cases hp
      | inr hmem => exact ih htail h hmem

section Order

variable [LinearOrder β] (key : α → β)

def sortOn (l : List α) : List α := l.insertionSort fun a b => key a ≤ key b

theorem sortOn_cons (a : α) (l : List α) :
    sortOn key (a :: l) = (sortOn key l).orderedInsert (fun a b => key a ≤ key b) a := rfl

theorem sortOn_perm (l : List α) : (sortOn key l).Perm l := List.perm_insertionSort _ l

theorem pairwise_sortOn (l : List α) : (sortOn key l).Pairwise fun a b => key a ≤ key b := by
  have : Std.Total fun a b : α => key a ≤ key b := ⟨fun a b => le_total (key a) (key b)⟩
  have : IsTrans α fun a b => key a ≤ key b := ⟨fun _ _ _ => le_trans⟩
  exact List.pairwise_insertionSort _ l

variable {key}

@[simp] theorem mem_sortOn {l : List α} {a : α} : a ∈ sortOn key l ↔ a ∈ l :=
  (sortOn_perm key l).mem_iff

theorem sortOn_eq {l rows : List α} (hperm : l.Perm rows)
    (hl : l.Pairwise fun a b => key a < key b) : sortOn key rows = l := by
  have hnodup : (l.map key).Nodup := List.pairwise_map.mpr (hl.imp fun h => h.ne)
  refine List.Perm.eq_of_pairwise ?_ (pairwise_sortOn key rows) (hl.imp fun h => h.le)
    ((sortOn_perm key rows).trans hperm.symm)
  intro a b ha hb hab hba
  have ha : a ∈ l := hperm.mem_iff.mpr (mem_sortOn.mp ha)
  exact List.inj_on_of_nodup_map hnodup ha hb (le_antisymm hab hba)

theorem pairwise_lt_sortOn {rows : List α} (h : (rows.map key).Nodup) :
    (sortOn key rows).Pairwise fun a b => key a < key b := by
  have hnodup : ((sortOn key rows).map key).Nodup :=
    ((sortOn_perm key rows).map key).nodup_iff.mpr h
  exact ((pairwise_sortOn key rows).and (List.pairwise_map.mp hnodup)).imp
    fun h => lt_of_le_of_ne h.1 h.2

theorem filter_orderedInsert (p : α → Bool) (a : α) {l : List α}
    (hl : l.Pairwise fun a b => key a ≤ key b) :
    (l.orderedInsert (fun a b => key a ≤ key b) a).filter p =
      if p a then (l.filter p).orderedInsert (fun a b => key a ≤ key b) a else l.filter p := by
  induction l with
  | nil => by_cases hp : p a = true <;> simp [hp]
  | cons b l ih =>
    obtain ⟨hb, htail⟩ := List.pairwise_cons.mp hl
    by_cases hab : key a ≤ key b
    · rw [List.orderedInsert_cons, if_pos hab, List.filter_cons]
      have hfront : ((b :: l).filter p).orderedInsert (fun a b => key a ≤ key b) a =
          a :: (b :: l).filter p := by
        have hall : ∀ c ∈ (b :: l).filter p, key a ≤ key c := by
          intro c hc
          obtain rfl | hc := List.mem_cons.mp (List.mem_of_mem_filter hc)
          · exact hab
          · exact hab.trans (hb c hc)
        cases hkept : (b :: l).filter p with
        | nil => rfl
        | cons c rest =>
          rw [List.orderedInsert_cons, if_pos (hall c (hkept ▸ List.mem_cons_self))]
      rw [hfront]
    · rw [List.orderedInsert_cons, if_neg hab, List.filter_cons, ih htail, List.filter_cons]
      by_cases hpb : p b = true <;> by_cases hpa : p a = true <;> simp [hpb, hpa, hab]

theorem sortOn_filter (p : α → Bool) (l : List α) :
    sortOn key (l.filter p) = (sortOn key l).filter p := by
  induction l with
  | nil => rfl
  | cons a l ih =>
    rw [sortOn_cons, filter_orderedInsert p a (pairwise_sortOn key l), List.filter_cons]
    split
    · rw [sortOn_cons, ih]
    · exact ih

theorem mem_take_of_mem_take_sortOn {all part : List α} {p : α → Bool} {k : Nat} {a : α}
    (hpart : all.filter p = part) (hsorted : part.Pairwise fun a b => key a ≤ key b)
    (ha : a ∈ (sortOn key all).take k) (hp : p a = true) : a ∈ part.take k := by
  have hfirst := (List.take_prefix k (sortOn key all)).filter p
  have hpicked : (sortOn key all).filter p = part := by
    rw [← sortOn_filter, hpart]
    exact hsorted.insertionSort_eq
  have hlength := (List.length_filter_le p ((sortOn key all).take k)).trans (List.length_take_le k _)
  rw [hpicked, List.prefix_iff_eq_take] at hfirst
  have hmem := List.mem_filter.mpr ⟨ha, hp⟩
  rw [hfirst] at hmem
  exact List.take_subset_take_left part hlength hmem

end Order

section Reinsert

variable {l : List α} {a : α} {p : α → Bool}

theorem insertIdx_eq_take_cons_drop {i : Nat} (h : i ≤ l.length) :
    l.insertIdx i a = l.take i ++ a :: l.drop i := by
  induction l generalizing i with
  | nil => 
    cases Nat.le_zero.mp h
    rfl
  | cons b l ih =>
    cases i with
    | zero => rfl
    | succ i =>
      rw [List.insertIdx_succ_cons, ih (Nat.le_of_succ_le_succ h), List.take_succ_cons,
        List.drop_succ_cons, List.cons_append]

theorem eraseP_eq_erase [DecidableEq α] (h : l.find? p = some a) : l.eraseP p = l.erase a := by
  obtain ⟨hp, before, behind, rfl, hbefore⟩ := List.find?_eq_some_iff_append.mp h
  have hnot : a ∉ before := fun ha => by
    have hfalse := hbefore a ha
    rw [hp] at hfalse
    cases hfalse
  rw [List.erase_append_right _ hnot, List.erase_cons_head,
    List.eraseP_append_right _ (by simpa using hbefore), List.eraseP_cons_of_pos hp]

theorem insertIdx_min_length (i : Nat) :
    l.insertIdx (min i l.length) a = l.take i ++ a :: l.drop i := by
  rw [insertIdx_eq_take_cons_drop (Nat.min_le_right i l.length)]
  obtain h | h := Nat.le_total i l.length
  · rw [Nat.min_eq_left h]
  · rw [Nat.min_eq_right h, List.take_of_length_le h, List.drop_of_length_le h, List.take_length,
      List.drop_length]

theorem filter_insertIdx_eq_iff (ha : a ∉ l) (hp : p a = true) (i : Nat) :
    (l.insertIdx (min i l.length) a).filter p =
        (l.filter p).insertIdx (min i (l.filter p).length) a ↔
      (∀ b ∈ l.take i, p b = true) ∨ ∀ b ∈ l.drop i, p b = false := by
  have hfilter : l.filter p = (l.take i).filter p ++ (l.drop i).filter p := by
    rw [← List.filter_append, List.take_append_drop]
  have hlength : ((l.take i).filter p).length ≤ i :=
    (List.length_filter_le _ _).trans (List.length_take_le i l)
  have hbefore : a ∉ (l.take i).filter p := fun h => ha (List.mem_of_mem_take (List.mem_of_mem_filter h))
  have hbehind : a ∉ (l.drop i).filter p := fun h => ha (List.mem_of_mem_drop (List.mem_of_mem_filter h))
  rw [insertIdx_min_length, insertIdx_min_length, List.filter_append, List.filter_cons_of_pos hp,
    List.append_cons_inj_of_notMem hbefore hbehind, hfilter]
  have hnone : (∀ b ∈ l.drop i, p b = false) ↔ (l.drop i).filter p = [] := by
    simp [List.filter_eq_nil_iff]
  rw [← List.filter_eq_self, hnone]
  constructor
  · rintro ⟨htake, -, -⟩
    by_cases hempty : (l.drop i).filter p = []
    · exact .inr hempty
    · left
      have hpos : 0 < ((l.drop i).filter p).length := List.length_pos_iff.mpr hempty
      have hcount := congrArg List.length htake
      rw [List.length_take, List.length_append] at hcount
      refine List.filter_sublist.eq_of_length_le ?_
      rw [List.length_take]
      omega
  · rintro (hall | hempty)
    · obtain hi | hi := Nat.le_total i l.length
      · have hexact : ((l.take i).filter p).length = i := by
          rw [hall, List.length_take, Nat.min_eq_left hi]
        exact ⟨(List.take_left' hexact).symm, rfl, (List.drop_left' hexact).symm⟩
      · rw [List.drop_of_length_le hi, List.filter_nil, List.append_nil, List.take_of_length_le hlength,
          List.drop_of_length_le hlength]
        exact ⟨rfl, rfl, rfl⟩
    · rw [hempty, List.append_nil, List.take_of_length_le hlength, List.drop_of_length_le hlength]
      exact ⟨rfl, rfl, rfl⟩

end Reinsert

end Jellyrin
