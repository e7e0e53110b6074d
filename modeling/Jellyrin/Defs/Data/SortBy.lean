import Mathlib.Data.List.Sort

/-! Sorting by a comparison, and lists that two comparisons put in one order. -/

universe u

namespace Jellyrin

variable {α : Type u}

def sortBy (cmp : α → α → Ordering) (l : List α) : List α :=
  l.insertionSort fun a b => (cmp a b).isLE

/-- The first comparison that tells the elements apart, or the last one of all. -/
def compareChain (cmps : List (α → α → Ordering)) (last : α → α → Ordering) (a b : α) :
    Ordering :=
  ((cmps.map fun cmp => cmp a b).find? (· ≠ .eq)).getD (last a b)

def compareNullsLast (cmp : α → α → Ordering) : Option α → Option α → Ordering
  | none, none => .eq
  | none, some _ => .gt
  | some _, none => .lt
  | some a, some b => cmp a b

theorem compareChain_cons (cmp : α → α → Ordering) (cmps : List (α → α → Ordering))
    (last : α → α → Ordering) :
    compareChain (cmp :: cmps) last = compareLex cmp (compareChain cmps last) := by
  funext a b
  rw [compareChain, List.map_cons, compareLex]
  cases h : cmp a b <;> simp [List.find?, compareChain]

theorem compareChain_eq_iff {cmps : List (α → α → Ordering)} {last : α → α → Ordering} {a b : α} :
    compareChain cmps last a b = .eq ↔ (∀ cmp ∈ cmps, cmp a b = .eq) ∧ last a b = .eq := by
  induction cmps with
  | nil => simp [compareChain]
  | cons cmp cmps ih =>
    rw [compareChain_cons, compareLex_eq_eq, ih, List.forall_mem_cons, and_assoc]

theorem transCmp_compareChain {cmps : List (α → α → Ordering)} {last : α → α → Ordering}
    (h : ∀ cmp ∈ cmps, Std.TransCmp cmp) (hlast : Std.TransCmp last) :
    Std.TransCmp (compareChain cmps last) := by
  induction cmps with
  | nil => exact hlast
  | cons cmp cmps ih =>
    have hcmp := h cmp List.mem_cons_self
    have hcmps := ih fun other hother => h other (List.mem_cons_of_mem _ hother)
    rw [compareChain_cons]
    infer_instance

instance (cmp : α → α → Ordering) [Std.TransCmp cmp] : Std.OrientedCmp (compareNullsLast cmp) where
  eq_swap := by
    intro a b
    cases a with
    | none => cases b <;> rfl
    | some a =>
      cases b with
      | none => rfl
      | some b =>
        have hswap : cmp a b = (cmp b a).swap := Std.OrientedCmp.eq_swap
        exact hswap

instance (cmp : α → α → Ordering) [Std.TransCmp cmp] : Std.TransCmp (compareNullsLast cmp) where
  isLE_trans := by
    intro a b c hab hbc
    cases a with
    | none =>
      cases b with
      | none => exact hbc
      | some b => cases hab
    | some a =>
      cases c with
      | none => rfl
      | some c =>
        cases b with
        | none => cases hbc
        | some b =>
          have htrans : (cmp a b).isLE → (cmp b c).isLE → (cmp a c).isLE := Std.TransCmp.isLE_trans
          exact htrans hab hbc

theorem transCmp_comp {β : Type u} (cmp : β → β → Ordering) [Std.TransCmp cmp] (f : α → β) :
    Std.TransCmp fun a b => cmp (f a) (f b) where
  eq_swap := by
    intro a b
    have hswap : cmp (f a) (f b) = (cmp (f b) (f a)).swap := Std.OrientedCmp.eq_swap
    exact hswap
  isLE_trans := by
    intro a b c hab hbc
    have htrans : (cmp (f a) (f b)).isLE → (cmp (f b) (f c)).isLE → (cmp (f a) (f c)).isLE :=
      Std.TransCmp.isLE_trans
    exact htrans hab hbc

theorem sortBy_perm (cmp : α → α → Ordering) (l : List α) : (sortBy cmp l).Perm l :=
  List.perm_insertionSort _ l

theorem mem_sortBy {cmp : α → α → Ordering} {l : List α} {a : α} : a ∈ sortBy cmp l ↔ a ∈ l :=
  (sortBy_perm cmp l).mem_iff

theorem orderedInsert_congr {r s : α → α → Prop} [DecidableRel r] [DecidableRel s] {a : α}
    {l : List α} (h : ∀ b ∈ l, r a b ↔ s a b) : l.orderedInsert r a = l.orderedInsert s a := by
  induction l with
  | nil => rfl
  | cons b l ih =>
    rw [List.orderedInsert_cons, List.orderedInsert_cons,
      ih fun c hc => h c (List.mem_cons_of_mem _ hc)]
    exact if_congr (h b List.mem_cons_self) rfl rfl

theorem sortBy_congr {cmp cmp' : α → α → Ordering} {l : List α}
    (h : ∀ a b, [a, b].Sublist l → (cmp a b).isLE = (cmp' a b).isLE) :
    sortBy cmp l = sortBy cmp' l := by
  induction l with
  | nil => rfl
  | cons a l ih =>
    have hrest := ih fun b c hbc => h b c (hbc.cons a)
    rw [sortBy, sortBy, List.insertionSort_cons, List.insertionSort_cons]
    rw [sortBy, sortBy] at hrest
    rw [hrest]
    refine orderedInsert_congr fun b hb => ?_
    rw [List.mem_insertionSort] at hb
    rw [h a b (List.cons_sublist_cons.mpr (List.singleton_sublist.mpr hb))]

theorem sortBy_filter_eq_of_visible {cmp cmp' : α → α → Ordering} {l l' : List α}
    {visible visible' p p' : α → Bool} (hvisible : l.filter visible = l'.filter visible')
    (hp : ∀ a ∈ l, p a = true → visible a = true)
    (hp' : ∀ a ∈ l', p' a = true → visible' a = true)
    (hsame : ∀ a ∈ l.filter visible, p a = p' a)
    (hcmp : ∀ a ∈ l.filter visible, ∀ b ∈ l.filter visible, cmp a b = cmp' a b) :
    sortBy cmp (l.filter p) = sortBy cmp' (l'.filter p') := by
  have hpart : ∀ {l : List α} {p visible : α → Bool},
      (∀ a ∈ l, p a = true → visible a = true) → l.filter p = (l.filter visible).filter p := by
    intro l p visible h
    rw [List.filter_filter]
    refine List.filter_congr fun a ha => ?_
    cases hpa : p a with
    | false => rfl
    | true => rw [h a ha hpa]; rfl
  rw [hpart hp, hpart hp', ← hvisible, List.filter_congr hsame]
  refine sortBy_congr fun a b hab => ?_
  have hmem := fun c hc => List.mem_of_mem_filter (hab.subset hc : c ∈ (l.filter visible).filter p')
  rw [hcmp a (hmem a (by simp)) b (hmem b (by simp))]

section Trans

variable {cmp cmp' : α → α → Ordering} [Std.TransCmp cmp] [Std.TransCmp cmp'] {l : List α}

theorem pairwise_sortBy (cmp : α → α → Ordering) [Std.TransCmp cmp] (l : List α) :
    (sortBy cmp l).Pairwise fun a b => (cmp a b).isLE = true := by
  have htotal : Std.Total fun a b : α => (cmp a b).isLE = true := by
    refine ⟨fun a b => ?_⟩
    by_cases hab : (cmp a b).isLE = true
    · exact .inl hab
    · exact .inr (Ordering.isLE_of_eq_lt (Std.OrientedCmp.lt_of_not_isLE hab))
  have htrans : IsTrans α fun a b : α => (cmp a b).isLE = true :=
    ⟨fun _ _ _ => Std.TransCmp.isLE_trans⟩
  exact List.pairwise_insertionSort _ l

omit [Std.TransCmp cmp] in
theorem sublist_sortBy {a b : α} (h : [a, b].Sublist l) (hle : (cmp a b).isLE = true) :
    [a, b].Sublist (sortBy cmp l) :=
  List.pair_sublist_insertionSort hle h

theorem isLE_of_sublist_sortBy {a b : α} (h : [a, b].Sublist (sortBy cmp l)) :
    (cmp a b).isLE = true := by
  have hpair := List.Pairwise.sublist h (pairwise_sortBy cmp l)
  exact List.rel_of_pairwise_cons hpair List.mem_cons_self

theorem sortBy_eq_iff :
    sortBy cmp l = sortBy cmp' l ↔
      ∀ a b, [a, b].Sublist l → (cmp a b).isLE = (cmp' a b).isLE := by
  refine ⟨fun h a b hab => ?_, sortBy_congr⟩
  rw [Bool.eq_iff_iff]
  constructor
  · intro hle
    have hsorted := sublist_sortBy hab hle
    rw [h] at hsorted
    exact isLE_of_sublist_sortBy hsorted
  · intro hle
    have hsorted := sublist_sortBy hab hle
    rw [← h] at hsorted
    exact isLE_of_sublist_sortBy hsorted

theorem sortBy_filter_eq_iff {p q : α → Bool} :
    sortBy cmp (l.filter p) = sortBy cmp' (l.filter q) ↔
      (∀ a ∈ l, p a = q a) ∧
        ∀ a b, [a, b].Sublist (l.filter q) → (cmp a b).isLE = (cmp' a b).isLE := by
  constructor
  · intro h
    have hsame : ∀ a ∈ l, p a = q a := by
      intro a ha
      have hmem : a ∈ sortBy cmp (l.filter p) ↔ a ∈ sortBy cmp' (l.filter q) := by rw [h]
      rw [mem_sortBy, mem_sortBy] at hmem
      rw [List.mem_filter, List.mem_filter, and_iff_right ha, and_iff_right ha] at hmem
      exact Bool.eq_iff_iff.mpr hmem
    rw [List.filter_congr hsame] at h
    exact ⟨hsame, sortBy_eq_iff.mp h⟩
  · rintro ⟨hsame, horder⟩
    rw [List.filter_congr hsame]
    exact sortBy_eq_iff.mpr horder

end Trans

end Jellyrin
