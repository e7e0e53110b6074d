import Jellyrin.Defs.Data.SortBy

/-! The first rows of two selections of one list. -/

universe u

namespace Jellyrin

variable {α : Type u} {p q : α → Bool}

variable {l : List α}

theorem take_eq_take_cons_iff {a : α} {l' : List α} {n : Nat} (h : a ∉ l) :
    l.take n = (a :: l').take n ↔ n = 0 := by
  cases n with
  | zero => simp
  | succ n =>
    rw [List.take_succ_cons]
    refine iff_of_false (fun heq => ?_) (Nat.succ_ne_zero n)
    exact h (List.mem_of_mem_take (heq ▸ List.mem_cons_self))

theorem forall_split_cons {P : List α → α → Prop} {a : α} :
    (∀ before b after, a :: l = before ++ b :: after → P before b) ↔
      P [] a ∧ ∀ before b after, l = before ++ b :: after → P (a :: before) b := by
  constructor
  · intro h
    refine ⟨h [] a l rfl, fun before b after hl => h (a :: before) b after ?_⟩
    rw [hl, List.cons_append]
  · rintro ⟨hhead, htail⟩ before b after hl
    cases before with
    | nil =>
      cases hl
      exact hhead
    | cons c before =>
      rw [List.cons_append, List.cons.injEq] at hl
      obtain ⟨rfl, hl⟩ := hl
      exact htail before b after hl

theorem take_filter_eq_iff {n : Nat} :
    (l.filter p).take n = (l.filter q).take n ↔
      ∀ before a after, l = before ++ a :: after → p a ≠ q a →
        n ≤ before.countP fun b => p b && q b := by
  induction l generalizing n with
  | nil => simp
  | cons a l ih =>
    rw [forall_split_cons (P := fun before a => p a ≠ q a → n ≤ before.countP fun b => p b && q b)]
    cases hp : p a with
    | false =>
      cases hq : q a with
      | false =>
        rw [List.filter_cons_of_neg (by simp [hp]), List.filter_cons_of_neg (by simp [hq]), ih]
        simp [hp]
      | true =>
        rw [List.filter_cons_of_neg (by simp [hp]), List.filter_cons_of_pos hq,
          take_eq_take_cons_iff (by simp [hp])]
        simp +contextual
    | true =>
      cases hq : q a with
      | false =>
        rw [List.filter_cons_of_pos hp, List.filter_cons_of_neg (by simp [hq]), eq_comm,
          take_eq_take_cons_iff (by simp [hq])]
        simp +contextual
      | true =>
        rw [List.filter_cons_of_pos hp, List.filter_cons_of_pos hq]
        cases n with
        | zero => simp
        | succ n =>
          rw [List.take_succ_cons, List.take_succ_cons, List.cons.injEq, ih]
          simp [hp, hq]

section Sorted

variable {cmp : α → α → Ordering} [Std.TransCmp cmp]

theorem sortBy_eq_of_perm {l' : List α} (hperm : l.Perm l')
    (h : ∀ a ∈ l, ∀ b ∈ l, cmp a b = .eq → a = b) : sortBy cmp l = sortBy cmp l' := by
  refine List.Perm.eq_of_pairwise ?_ (pairwise_sortBy cmp l) (pairwise_sortBy cmp l')
    ((sortBy_perm cmp l).trans (hperm.trans (sortBy_perm cmp l').symm))
  intro a b ha hb hab hba
  have hb : b ∈ l := hperm.mem_iff.mpr (mem_sortBy.mp hb)
  exact h a (mem_sortBy.mp ha) b hb (Std.OrientedCmp.isLE_antisymm hab hba)

theorem sortBy_filter (h : ∀ a ∈ l, ∀ b ∈ l, cmp a b = .eq → a = b) (p : α → Bool) :
    sortBy cmp (l.filter p) = (sortBy cmp l).filter p := by
  have hfilter : (l.filter p).Perm ((sortBy cmp l).filter p) :=
    ((sortBy_perm cmp l).filter p).symm
  have hown : sortBy cmp ((sortBy cmp l).filter p) = (sortBy cmp l).filter p :=
    ((pairwise_sortBy cmp l).filter p).insertionSort_eq
  rw [sortBy_eq_of_perm hfilter, hown]
  intro a ha b hb
  exact h a (List.mem_of_mem_filter ha) b (List.mem_of_mem_filter hb)

theorem countP_before {before after : List α} {a : α} (p : α → Bool)
    (hsorted : (before ++ a :: after).Pairwise fun a b => cmp a b = .lt) :
    (before ++ a :: after).countP (fun b => p b && cmp b a == .lt) = before.countP p := by
  obtain ⟨-, hafter, hbefore⟩ := List.pairwise_append.mp hsorted
  obtain ⟨hafter, -⟩ := List.pairwise_cons.mp hafter
  have hrest : (a :: after).countP (fun b => p b && cmp b a == .lt) = 0 := by
    rw [List.countP_eq_zero]
    intro b hb hless
    have hless : cmp b a = .lt := by simpa using (Bool.and_eq_true_iff.mp hless).2
    obtain rfl | hb := List.mem_cons.mp hb
    · have hself : cmp b b = .eq := Std.ReflCmp.compare_self
      rw [hself] at hless
      cases hless
    · have hgreater : cmp b a = .gt := Std.OrientedCmp.gt_of_lt (hafter b hb)
      rw [hgreater] at hless
      cases hless
  rw [List.countP_append, hrest, Nat.add_zero]
  refine List.countP_congr fun b hb => ?_
  have hless : cmp b a = .lt := hbefore b hb a List.mem_cons_self
  simp [hless]

theorem pairwise_lt_sortBy (h : ∀ a ∈ l, ∀ b ∈ l, cmp a b = .eq → a = b) (hnodup : l.Nodup) :
    (sortBy cmp l).Pairwise fun a b => cmp a b = .lt := by
  refine ((pairwise_sortBy cmp l).and ((sortBy_perm cmp l).nodup_iff.mpr hnodup)).imp_of_mem ?_
  intro a b ha hb hab
  have hne : cmp a b ≠ .eq := fun heq => hab.2 (h a (mem_sortBy.mp ha) b (mem_sortBy.mp hb) heq)
  cases hcmp : cmp a b with
  | lt => rfl
  | eq => exact absurd hcmp hne
  | gt =>
    rw [hcmp] at hab
    exact absurd hab.1 (by decide)

theorem pairwise_iff_of_strict {R : α → α → Prop} (h : l.Pairwise fun a b => cmp a b = .lt) :
    l.Pairwise R ↔ ∀ a ∈ l, ∀ b ∈ l, cmp a b = .lt → R a b := by
  refine ⟨fun hpairs a ha b hb hless => ?_, fun hall => h.imp_of_mem fun ha hb => hall _ ha _ hb⟩
  induction l with
  | nil => cases ha
  | cons c l ih =>
    obtain ⟨hfirst, hrest⟩ := List.pairwise_cons.mp h
    obtain ⟨hR, hpairs⟩ := List.pairwise_cons.mp hpairs
    obtain rfl | ha' := List.mem_cons.mp ha
    · obtain rfl | hb' := List.mem_cons.mp hb
      · have hself : cmp b b = .eq := Std.ReflCmp.compare_self
        rw [hself] at hless
        cases hless
      · exact hR b hb'
    · obtain rfl | hb' := List.mem_cons.mp hb
      · have hgreater : cmp a b = .gt := Std.OrientedCmp.gt_of_lt (hfirst a ha')
        rw [hgreater] at hless
        cases hless
      · exact ih hrest hpairs ha' hb'

theorem head?_sortBy_eq_some_iff {a : α} (h : ∀ a ∈ l, ∀ b ∈ l, cmp a b = .eq → a = b) :
    (sortBy cmp l).head? = some a ↔ a ∈ l ∧ ∀ b ∈ l, (cmp a b).isLE = true := by
  have hsorted := pairwise_sortBy cmp l
  have hmem : ∀ b, b ∈ sortBy cmp l ↔ b ∈ l := fun b => mem_sortBy
  cases hl : sortBy cmp l with
  | nil =>
    constructor
    · intro h
      cases h
    · rintro ⟨ha, -⟩
      rw [← hmem, hl] at ha
      cases ha
  | cons c rest =>
    rw [hl] at hsorted hmem
    obtain ⟨hfirst, -⟩ := List.pairwise_cons.mp hsorted
    have hleast : ∀ b ∈ l, (cmp c b).isLE = true := by
      intro b hb
      obtain rfl | hb := List.mem_cons.mp ((hmem b).mpr hb)
      · have hself : cmp b b = .eq := Std.ReflCmp.compare_self
        rw [hself]
        rfl
      · exact hfirst b hb
    have hc : c ∈ l := (hmem c).mp List.mem_cons_self
    rw [List.head?_cons, Option.some_inj]
    constructor
    · rintro rfl
      exact ⟨hc, hleast⟩
    · rintro ⟨ha, hall⟩
      exact h c hc a ha (Std.OrientedCmp.isLE_antisymm (hleast a ha) (hall c hc))

theorem take_sortBy_filter_eq_iff {n : Nat} (h : ∀ a ∈ l, ∀ b ∈ l, cmp a b = .eq → a = b)
    (hnodup : l.Nodup) :
    (sortBy cmp (l.filter p)).take n = (sortBy cmp (l.filter q)).take n ↔
      ∀ a ∈ l, p a ≠ q a → n ≤ l.countP fun b => (p b && q b) && cmp b a == .lt := by
  have hperm := sortBy_perm cmp l
  have hstrict := pairwise_lt_sortBy h hnodup
  rw [sortBy_filter h, sortBy_filter h, take_filter_eq_iff]
  constructor
  · intro hall a ha hdiffer
    obtain ⟨before, after, hsplit⟩ := List.append_of_mem (mem_sortBy.mpr ha)
    have hcount := countP_before (fun b => p b && q b) (hsplit ▸ hstrict)
    rw [← hsplit, hperm.countP_eq] at hcount
    rw [hcount]
    exact hall before a after hsplit hdiffer
  · intro hall before a after hsplit hdiffer
    have ha : a ∈ l := mem_sortBy.mp (by rw [hsplit]; simp)
    have hcount := countP_before (fun b => p b && q b) (hsplit ▸ hstrict)
    rw [← hsplit, hperm.countP_eq] at hcount
    rw [← hcount]
    exact hall a ha hdiffer

end Sorted

end Jellyrin
