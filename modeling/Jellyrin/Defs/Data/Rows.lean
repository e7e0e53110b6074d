import Mathlib.Data.List.Dedup

/-! Rows that are grouped by a key, what is aggregated over a group, and rows that are made one by
one. -/

universe u v w

namespace Jellyrin

variable {α : Type u} {K : Type v} [DecidableEq K]

/-- `GROUP BY`: the rows of every key. -/
def groups (key : α → K) (rows : List α) : List (K × List α) :=
  (rows.map key).dedup.map fun k => (k, rows.filter (key · = k))

theorem mem_groups {key : α → K} {rows : List α} {group : K × List α} :
    group ∈ groups key rows ↔
      (∃ row ∈ rows, key row = group.1) ∧ group.2 = rows.filter (key · = group.1) := by
  rw [groups, List.mem_map]
  constructor
  · rintro ⟨k, hk, rfl⟩
    exact ⟨List.mem_map.mp (List.mem_dedup.mp hk), rfl⟩
  · rintro ⟨⟨row, hrow, hkey⟩, hrows⟩
    exact ⟨group.1, List.mem_dedup.mpr (List.mem_map.mpr ⟨row, hrow, hkey⟩), Prod.ext rfl hrows.symm⟩

theorem mem_groups_of_mem {key : α → K} {rows : List α} {row : α} (h : row ∈ rows) :
    (key row, rows.filter (key · = key row)) ∈ groups key rows :=
  mem_groups.mpr ⟨⟨row, h, rfl⟩, rfl⟩

theorem exists_mem_of_mem_groups {key : α → K} {rows : List α} {group : K × List α}
    (h : group ∈ groups key rows) : ∃ row ∈ group.2, row ∈ rows ∧ key row = group.1 := by
  obtain ⟨⟨row, hrow, hkey⟩, hrows⟩ := mem_groups.mp h
  rw [hrows]
  exact ⟨row, List.mem_filter.mpr ⟨hrow, decide_eq_true hkey⟩, hrow, hkey⟩

theorem map_fst_groups (key : α → K) (rows : List α) :
    (groups key rows).map Prod.fst = (rows.map key).dedup := by
  rw [groups, List.map_map]
  exact List.map_id _

theorem nodup_groups (key : α → K) (rows : List α) : ((groups key rows).map Prod.fst).Nodup := by
  rw [map_fst_groups]
  exact List.nodup_dedup _

theorem groups_of_nodup {key : α → K} {rows : List α} (h : (rows.map key).Nodup) :
    groups key rows = rows.map fun row => (key row, [row]) := by
  rw [groups, h.dedup, List.map_map]
  refine List.map_congr_left fun row hrow => Prod.ext rfl ?_
  have hrows : ∀ other ∈ rows, key other = key row → other = row := fun other hother hkey =>
    List.inj_on_of_nodup_map h hother hrow hkey
  refine List.perm_singleton.mp ((List.perm_ext_iff_of_nodup (h.of_map.filter _)
    (List.nodup_singleton row)).mpr fun other => ?_)
  rw [List.mem_filter, decide_eq_true_iff, List.mem_singleton]
  constructor
  · rintro ⟨hother, hkey⟩
    exact hrows other hother hkey
  · rintro rfl
    exact ⟨hrow, rfl⟩

variable {l : List α}

theorem find?_eq_some_of_unique {p : α → Bool} {a : α} (ha : a ∈ l) (hp : p a = true)
    (h : ∀ b ∈ l, p b = true → b = a) : l.find? p = some a := by
  obtain ⟨b, hb⟩ := Option.isSome_iff_exists.mp (List.find?_isSome.mpr ⟨a, ha, hp⟩)
  rw [hb, h b (List.mem_of_find?_eq_some hb) (List.find?_some hb)]

theorem findSome?_eq_of_unique {β : Type v} {f : α → Option β} {a : α} (ha : a ∈ l)
    (h : ∀ b ∈ l, b = a ∨ f b = none) : l.findSome? f = f a := by
  induction l with
  | nil => cases ha
  | cons b l ih =>
    obtain ⟨hb, hl⟩ := List.forall_mem_cons.mp h
    rw [List.findSome?_cons]
    cases hf : f b with
    | some value =>
      obtain rfl | hnone := hb
      · exact hf.symm
      · rw [hf] at hnone
        cases hnone
    | none =>
      cases ha with
      | head =>
        -- Later fields can only be the same one again.
        rw [hf, List.findSome?_eq_none_iff]
        intro c hc
        obtain rfl | hnone := hl c hc
        · exact hf
        · exact hnone
      | tail _ ha => exact ih ha hl

def minOf (cmp : α → α → Ordering) : List α → Option α
  | [] => none
  | a :: as => some (as.foldl (fun least b => if (cmp b least).isLT then b else least) a)

def maxOf (cmp : α → α → Ordering) : List α → Option α := minOf fun a b => cmp b a

theorem eq_of_length_le_one (h : l.length ≤ 1) {a b : α} (ha : a ∈ l) (hb : b ∈ l) : a = b := by
  obtain ⟨i, hi, rfl⟩ := List.getElem_of_mem ha
  obtain ⟨j, hj, rfl⟩ := List.getElem_of_mem hb
  have hij : i = j := by omega
  simp only [hij]

variable {cmp : α → α → Ordering}

theorem isSome_minOf (h : l ≠ []) : (minOf cmp l).isSome := by
  cases l with
  | nil => exact absurd rfl h
  | cons a as => rfl

theorem eq_nil_of_minOf (h : minOf cmp l = none) : l = [] := by
  cases l with
  | nil => rfl
  | cons a as => cases h

theorem mem_of_minOf {a : α} (h : minOf cmp l = some a) : a ∈ l := by
  cases l with
  | nil => cases h
  | cons b bs =>
    have hfold : ∀ (as : List α) (least : α), least ∈ b :: bs → (∀ c ∈ as, c ∈ b :: bs) →
        as.foldl (fun least c => if (cmp c least).isLT then c else least) least ∈ b :: bs := by
      intro as
      induction as with
      | nil => exact fun least hleast _ => hleast
      | cons c cs ih =>
        intro least hleast has
        obtain ⟨hc, hcs⟩ := List.forall_mem_cons.mp has
        rw [List.foldl_cons]
        split
        · exact ih c hc hcs
        · exact ih least hleast hcs
    obtain rfl := Option.some.inj h
    exact hfold bs b List.mem_cons_self fun c hc => List.mem_cons_of_mem b hc

theorem minOf_eq_some {a : α} (hmem : a ∈ l) (h : ∀ b ∈ l, b = a) : minOf cmp l = some a := by
  cases l with
  | nil => cases hmem
  | cons b bs =>
    obtain ⟨rfl, hbs⟩ := List.forall_mem_cons.mp h
    have hfold : ∀ n, (List.replicate n b).foldl
        (fun least c => if (cmp c least).isLT then c else least) b = b := by
      intro n
      induction n with
      | zero => rfl
      | succ n ih => rw [List.replicate_succ, List.foldl_cons, ite_self, ih]
    rw [minOf, List.eq_replicate_of_mem hbs, hfold]

theorem minOf_eq_some_of_lt [Std.OrientedCmp cmp] {a : α} (hmem : a ∈ l)
    (h : ∀ b ∈ l, b ≠ a → cmp a b = .lt) : minOf cmp l = some a := by
  cases l with
  | nil => cases hmem
  | cons first rest =>
    have hstays : ∀ b ∈ first :: rest, (cmp b a).isLT = false := by
      intro b hb
      by_cases heq : b = a
      · have hself : cmp a a = .eq := Std.ReflCmp.compare_self
        rw [heq, hself]
        rfl
      · have hswap : cmp b a = (cmp a b).swap := Std.OrientedCmp.eq_swap
        rw [hswap, h b hb heq]
        rfl
    have hfold : ∀ (bs : List α) (least : α), (∀ b ∈ bs, b ∈ first :: rest) →
        least ∈ first :: rest → least = a ∨ a ∈ bs →
        bs.foldl (fun least b => if (cmp b least).isLT then b else least) least = a := by
      intro bs
      induction bs with
      | nil => exact fun least _ _ hleast => hleast.resolve_right List.not_mem_nil
      | cons b bs ih =>
        intro least hbs hmem hleast
        obtain ⟨hb, hrest⟩ := List.forall_mem_cons.mp hbs
        rw [List.foldl_cons]
        by_cases heq : least = a
        · rw [heq, hstays b hb]
          exact ih a hrest (heq ▸ hmem) (.inl rfl)
        · rcases List.mem_cons.mp (hleast.resolve_left heq) with rfl | hlater
          · rw [h least hmem heq]
            exact ih a hrest hb (.inl rfl)
          · split
            · exact ih b hrest hb (.inr hlater)
            · exact ih least hrest hmem (.inr hlater)
    rw [minOf, hfold rest first (fun b hb => List.mem_cons_of_mem _ hb) List.mem_cons_self
      ((List.mem_cons.mp hmem).imp Eq.symm id)]

theorem forall₂_of_mapM {β : Type v} {ε : Type w} {f : α → Except ε β} {l' : List β}
    (h : l.mapM f = .ok l') : List.Forall₂ (fun a b => f a = .ok b) l l' := by
  induction l generalizing l' with
  | nil =>
    cases h
    exact .nil
  | cons a as ih =>
    rw [List.mapM_cons] at h
    cases ha : f a with
    | error e =>
      rw [ha] at h
      cases h
    | ok b =>
      cases has : as.mapM f with
      | error e =>
        rw [ha, has] at h
        cases h
      | ok bs =>
        rw [ha, has] at h
        cases h
        exact .cons ha (ih has)

theorem exists_mem_of_forall₂ {β : Type v} {R : α → β → Prop} {l' : List β}
    (h : List.Forall₂ R l l') {a : α} (ha : a ∈ l) : ∃ b ∈ l', R a b := by
  induction h with
  | nil => cases ha
  | cons hab _ ih =>
    obtain rfl | ha := List.mem_cons.mp ha
    · exact ⟨_, List.mem_cons_self, hab⟩
    · obtain ⟨b, hb, hr⟩ := ih ha
      exact ⟨b, List.mem_cons_of_mem _ hb, hr⟩

theorem map_eq_map_of_forall₂ {β : Type v} {γ : Type w} {R : α → β → Prop} {f : α → γ} {g : β → γ}
    {l' : List β} (h : List.Forall₂ R l l') (heq : ∀ a b, R a b → g b = f a) :
    l'.map g = l.map f := by
  induction h with
  | nil => rfl
  | cons hab _ ih => rw [List.map_cons, List.map_cons, heq _ _ hab, ih]

theorem forall_mem_of_all {p : α → Prop} [DecidablePred p] {l : List α}
    (h : l.all (fun a => decide (p a)) = true) : ∀ a ∈ l, p a := by
  simpa using h

theorem forall₂_iff_forall {β : Type v} {R Q : α → β → Prop} {P : α → Prop} {l : List α}
    {l' : List β} (h : List.Forall₂ R l l') (hiff : ∀ a b, R a b → (Q a b ↔ P a)) :
    List.Forall₂ Q l l' ↔ ∀ a ∈ l, P a := by
  induction h with
  | nil => simp
  | cons hab _ ih => rw [List.forall₂_cons, List.forall_mem_cons, hiff _ _ hab, ih]

theorem exists_mapM_eq_ok {β : Type v} {ε : Type w} {f : α → Except ε β}
    (h : ∀ a ∈ l, ∃ b, f a = .ok b) : ∃ l', l.mapM f = .ok l' := by
  induction l with
  | nil => exact ⟨[], rfl⟩
  | cons a as ih =>
    obtain ⟨⟨b, hb⟩, has⟩ := List.forall_mem_cons.mp h
    obtain ⟨bs, hbs⟩ := ih has
    refine ⟨b :: bs, ?_⟩
    rw [List.mapM_cons, hb, hbs]
    rfl

theorem mapM_eq_ok_map {β : Type v} {ε : Type w} {f : α → Except ε β} {g : α → β}
    (h : ∀ a ∈ l, f a = .ok (g a)) : l.mapM f = .ok (l.map g) := by
  induction l with
  | nil => rfl
  | cons a as ih =>
    obtain ⟨ha, has⟩ := List.forall_mem_cons.mp h
    rw [List.mapM_cons, ha, ih has]
    rfl

end Jellyrin
