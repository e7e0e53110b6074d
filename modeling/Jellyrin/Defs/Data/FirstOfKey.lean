import Jellyrin.Defs.Data.FirstRows
import Jellyrin.Defs.Data.BTreeMap
import Jellyrin.Defs.Data.Rows

/-! The first row of every key. -/

universe u v

namespace Jellyrin

variable {α : Type u} {K : Type v}

def keepFirst (cmp : α → α → Ordering) (existing : Option α) (candidate : α) : Option α :=
  match existing with
  | some existing => if cmp existing candidate ≠ .gt then some existing else some candidate
  | none => some candidate

/-- `DISTINCT ON`, in no order. -/
def firstOfKey [DecidableEq K] (key : α → K) (cmp : α → α → Ordering) (rows : List α) : List α :=
  (groups key rows).filterMap fun group => (sortBy cmp group.2).head?

def IsFirst (key : α → K) (cmp : α → α → Ordering) (rows : List α) (a : α) : Prop :=
  a ∈ rows ∧ ∀ b ∈ rows, key b = key a → (cmp a b).isLE = true

variable {key : α → K} {cmp : α → α → Ordering} [Std.TransCmp cmp] {rows : List α}

omit [Std.TransCmp cmp] in
theorem isFirst_iff_filter [DecidableEq K] {a : α} : IsFirst key cmp rows a ↔
    a ∈ rows.filter (key · = key a) ∧
      ∀ b ∈ rows.filter (key · = key a), (cmp a b).isLE = true := by
  simp [IsFirst, List.mem_filter]

section DistinctOn

variable [DecidableEq K]

theorem mem_firstOfKey (h : ∀ a ∈ rows, ∀ b ∈ rows, cmp a b = .eq → a = b) {a : α} :
    a ∈ firstOfKey key cmp rows ↔ IsFirst key cmp rows a := by
  have hhead : ∀ k : K, (sortBy cmp (rows.filter (key · = k))).head? = some a ↔
      a ∈ rows.filter (key · = k) ∧ ∀ b ∈ rows.filter (key · = k), (cmp a b).isLE = true :=
    fun k => head?_sortBy_eq_some_iff fun a ha b hb =>
      h a (List.mem_of_mem_filter ha) b (List.mem_of_mem_filter hb)
  rw [firstOfKey, List.mem_filterMap]
  constructor
  · rintro ⟨group, hgroup, hfirst⟩
    rw [(mem_groups.mp hgroup).2, hhead] at hfirst
    have hkey : key a = group.1 := of_decide_eq_true (List.mem_filter.mp hfirst.1).2
    exact isFirst_iff_filter.mpr (hkey ▸ hfirst)
  · intro hfirst
    exact ⟨_, mem_groups_of_mem hfirst.1, (hhead (key a)).mpr (isFirst_iff_filter.mp hfirst)⟩

omit [Std.TransCmp cmp] in
theorem nodup_firstOfKey : ((firstOfKey key cmp rows).map key).Nodup := by
  have hkey : ∀ group ∈ groups key rows, ∀ a, (sortBy cmp group.2).head? = some a →
      key a = group.1 := by
    intro group hgroup a ha
    have hmem := mem_sortBy.mp (List.mem_of_head? ha)
    rw [(mem_groups.mp hgroup).2] at hmem
    exact of_decide_eq_true (List.mem_filter.mp hmem).2
  rw [List.Nodup, List.pairwise_map, firstOfKey, List.pairwise_filterMap]
  refine (List.pairwise_map.mp (nodup_groups key rows)).imp_of_mem ?_
  intro group other hgroup hother hne a ha b hb hsame
  exact hne ((hkey group hgroup a ha).symm.trans (hsame.trans (hkey other hother b hb)))

end DistinctOn

omit [Std.TransCmp cmp] in
theorem keepFirst_cases {existing : Option α} {a b : α} (h : keepFirst cmp existing a = some b) :
    existing = some b ∨ a = b := by
  cases existing with
  | none => exact .inr (Option.some_inj.mp h)
  | some c =>
    rw [keepFirst] at h
    split at h
    · exact .inl h
    · exact .inr (Option.some_inj.mp h)

variable (cmp) in
theorem foldl_keepFirst_cases (rows : List α) :
    rows = [] ∨ ∃ a, rows.foldl (keepFirst cmp) none = some a ∧ a ∈ rows ∧
      ∀ b ∈ rows, (cmp a b).isLE = true := by
  induction rows using List.reverseRecOn with
  | nil => exact .inl rfl
  | append_singleton rows c ih =>
    have hself : (cmp c c).isLE = true := by
      have heq : cmp c c = .eq := Std.ReflCmp.compare_self
      rw [heq]
      rfl
    right
    simp only [List.foldl_append, List.foldl_cons, List.foldl_nil, List.mem_append,
      List.mem_singleton]
    obtain rfl | ⟨a, hfold, ha, hall⟩ := ih
    · refine ⟨c, rfl, .inr rfl, ?_⟩
      rintro b (hb | rfl)
      · cases hb
      · exact hself
    · rw [hfold, keepFirst]
      split
      · rename_i hkeep
        refine ⟨a, rfl, .inl ha, ?_⟩
        rintro b (hb | rfl)
        · exact hall b hb
        · exact Ordering.ne_gt_iff_isLE.mp hkeep
      · rename_i hbefore
        refine ⟨c, rfl, .inr rfl, ?_⟩
        have hless : cmp c a = .lt := Std.OrientedCmp.gt_iff_lt.mp (not_not.mp hbefore)
        rintro b (hb | rfl)
        · exact Std.TransCmp.isLE_trans (Ordering.isLE_of_eq_lt hless) (hall b hb)
        · exact hself

theorem foldl_keepFirst (h : ∀ a ∈ rows, ∀ b ∈ rows, cmp a b = .eq → a = b) {a : α} :
    rows.foldl (keepFirst cmp) none = some a ↔ a ∈ rows ∧ ∀ b ∈ rows, (cmp a b).isLE = true := by
  obtain rfl | ⟨c, hfold, hc, hfirst⟩ := foldl_keepFirst_cases cmp rows
  · exact ⟨fun h => (nomatch h), fun ⟨ha, _⟩ => (nomatch ha)⟩
  · rw [hfold, Option.some_inj]
    constructor
    · rintro rfl
      exact ⟨hc, hfirst⟩
    · rintro ⟨ha, hall⟩
      exact h c hc a ha (Std.OrientedCmp.isLE_antisymm (hfirst a ha) (hall c hc))

section Gather

variable [LinearOrder K]

theorem mem_gather_keepFirst (h : ∀ a ∈ rows, ∀ b ∈ rows, cmp a b = .eq → a = b) {a : α} :
    some a ∈ (gather key (fun _ => none) (keepFirst cmp) rows).values ↔
      IsFirst key cmp rows a := by
  have hfold : ∀ k : K, (rows.filter (key · = k)).foldl (keepFirst cmp) none = some a ↔
      a ∈ rows.filter (key · = k) ∧ ∀ b ∈ rows.filter (key · = k), (cmp a b).isLE = true :=
    fun k => foldl_keepFirst fun a ha b hb =>
      h a (List.mem_of_mem_filter ha) b (List.mem_of_mem_filter hb)
  rw [mem_values_gather]
  constructor
  · rintro ⟨row, -, hfirst⟩
    rw [hfold] at hfirst
    have hkey : key a = key row := of_decide_eq_true (List.mem_filter.mp hfirst.1).2
    exact isFirst_iff_filter.mpr (hkey ▸ hfirst)
  · intro hfirst
    exact ⟨a, hfirst.1, (hfold (key a)).mpr (isFirst_iff_filter.mp hfirst)⟩

omit [Std.TransCmp cmp] in
theorem key_of_foldl_keepFirst {k : K} {a : α}
    (h : (rows.filter (key · = k)).foldl (keepFirst cmp) none = some a) : key a = k := by
  have hmem : ∀ rows : List α, ∀ first : Option α, (∀ b, first = some b → key b = k) →
      (∀ b ∈ rows, key b = k) → ∀ b, rows.foldl (keepFirst cmp) first = some b → key b = k := by
    intro rows
    induction rows with
    | nil => exact fun first hfirst _ => hfirst
    | cons c rows ih =>
      intro first hfirst hrows
      refine ih _ (fun b hb => ?_) fun b hb => hrows b (List.mem_cons_of_mem c hb)
      obtain hb | rfl := keepFirst_cases hb
      · exact hfirst b hb
      · exact hrows c List.mem_cons_self
  refine hmem _ none (fun b hb => (nomatch hb)) (fun b hb => ?_) a h
  exact of_decide_eq_true (List.mem_filter.mp hb).2

omit [Std.TransCmp cmp] in
theorem nodup_gather_keepFirst :
    (((gather key (fun _ => none) (keepFirst cmp) rows).values.filterMap id).map key).Nodup := by
  have hkey : ∀ k v a, (gather key (fun _ => none) (keepFirst cmp) rows).lookup k = some v →
      id v = some a → key a = k := by
    intro k v a hv ha
    rw [lookup_gather] at hv
    split at hv
    · cases hv
    · cases hv
      exact key_of_foldl_keepFirst ha
  rw [List.Nodup, List.pairwise_map, List.pairwise_filterMap, BTreeMap.values,
    List.pairwise_filterMap]
  have hkeys := (List.perm_insertionSort (· ≤ ·) (gather key (fun _ => none)
    (keepFirst cmp) rows).keys).nodup_iff.mpr (AList.keys_nodup _)
  refine hkeys.imp fun {k k'} hne v hv v' hv' a ha b hb hsame => hne ?_
  exact (hkey k v a hv ha).symm.trans (hsame.trans (hkey k' v' b hv' hb))

end Gather

end Jellyrin
